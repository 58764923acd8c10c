import Mathlib.Tactic.Common
import SupplicantWatch.Socket.World
import SupplicantWatch.Table

/-!
# One socket among others

What an operation on sockets does at the socket that it is about, and that it leaves every other
socket as it was. Main statements: `IsConnected.request_eq`, what a request over a connected socket
comes to, and the lemmas on `Untouched`.
-/

namespace SupplicantWatch.Socket.World

open Table (lookup_cons_ite)

variable {δ : Type} {w w' w'' : World δ} {n k : Nat}

/-! ### Look-ups -/

private lemma lookup_map_ite (f : Endpoint → Endpoint) (entries : List (Nat × Endpoint)) :
    (entries.map fun (k, e) => (k, if k = n then f e else e)).lookup k
      = if k = n then (entries.lookup k).map f else entries.lookup k := by
  induction entries with
  | nil => simp
  | cons entry entries ih =>
    obtain ⟨i, e⟩ := entry
    rw [List.map_cons, lookup_cons_ite, lookup_cons_ite, ih]
    by_cases hi : k = i
    · subst hi
      simp only [if_pos]
      split_ifs <;> rfl
    · simp only [if_neg hi]

private lemma lookup_filter_ne (entries : List (Nat × Endpoint)) :
    (entries.filter fun entry => entry.1 != n).lookup k
      = if k = n then none else entries.lookup k := by
  induction entries with
  | nil => simp
  | cons entry entries ih =>
    obtain ⟨i, e⟩ := entry
    by_cases hi : i = n
    · subst hi
      rw [List.filter_cons_of_neg (by simp), ih, lookup_cons_ite]
      split_ifs <;> rfl
    · rw [List.filter_cons_of_pos (by simpa using hi), lookup_cons_ite, lookup_cons_ite, ih]
      by_cases hk : k = i
      · subst hk
        simp only [if_pos, if_neg hi]
      · simp only [if_neg hk]

lemma endpoint?_setQueue (w : World δ) (n k : Nat) (queue : List (List UInt8)) :
    (w.setQueue n queue).endpoint? k
      = if k = n then (w.endpoint? k).map fun e => { e with queue } else w.endpoint? k :=
  lookup_map_ite (fun e => { e with queue }) w.endpoints

lemma endpoint?_close (w : World δ) (n k : Nat) :
    (w.close n).endpoint? k = if k = n then none else w.endpoint? k :=
  lookup_filter_ne w.endpoints

/-- The world once the daemon has heard a command from a socket. -/
def hear (w : World δ) (n : Nat) (command : String) (daemonState : δ) : World δ :=
  { w with
    daemonState
    seen := w.seen ++ [command]
    lastHeard := some n
    lastAttached := if command = "ATTACH" then some n else w.lastAttached }

lemma send_eq {e : Endpoint} (he : w.endpoint? n = some e) (hp : w.presence = .running e.daemon)
    (react : Reaction δ) (command : String) :
    w.send react n command
      = (.ok (), (w.hear n command (react w.daemonState n command).2).deliver n
          (react w.daemonState n command).1) := by
  rw [send, he]
  dsimp only
  rw [if_pos hp]
  rfl

@[simp] lemma daemonState_deliver (w : World δ) (n : Nat) (datagrams : List (List UInt8)) :
    (w.deliver n datagrams).daemonState = w.daemonState := by
  unfold deliver
  split
  · split <;> rfl
  · rfl

/-! ### The other sockets -/

/-- Between two states nothing happens at a socket, and the same daemon runs, if one does. -/
structure Untouched (n : Nat) (w w' : World δ) : Prop where
  endpoint : w'.endpoint? n = w.endpoint? n
  file : n ∈ w'.files ↔ n ∈ w.files
  presence : w'.presence = w.presence

namespace Untouched

lemma refl (n : Nat) (w : World δ) : Untouched n w w :=
  ⟨rfl, Iff.rfl, rfl⟩

lemma trans (h : Untouched n w w') (h' : Untouched n w' w'') : Untouched n w w'' :=
  ⟨h'.endpoint.trans h.endpoint, h'.file.trans h.file, h'.presence.trans h.presence⟩

lemma setQueue (h : n ≠ k) (w : World δ) (queue : List (List UInt8)) :
    Untouched n w (w.setQueue k queue) := by
  refine ⟨?_, Iff.rfl, rfl⟩
  rw [endpoint?_setQueue, if_neg h]

lemma close (h : n ≠ k) (w : World δ) : Untouched n w (w.close k) := by
  refine ⟨?_, ?_, rfl⟩
  · rw [endpoint?_close, if_neg h]
  · simp [World.close, unlink, h]

lemma deliver (h : n ≠ k) (w : World δ) (datagrams : List (List UInt8)) :
    Untouched n w (w.deliver k datagrams) := by
  unfold World.deliver
  split
  · split
    · exact setQueue h w _
    · exact refl n w
  · exact refl n w

lemma openSocket (h : n ≠ w.next) : Untouched n w w.openSocket.2 := by
  unfold World.openSocket
  dsimp only
  split
  · exact ⟨rfl, Iff.rfl, rfl⟩
  · split
    · exact ⟨rfl, Iff.rfl, rfl⟩
    · exact ⟨rfl, Iff.rfl, rfl⟩
    · refine ⟨?_, ?_, rfl⟩
      · exact (lookup_cons_ite _ _ _).trans (if_neg h)
      · simp [h]

lemma hear (n : Nat) (w : World δ) (k : Nat) (command : String) (daemonState : δ) :
    Untouched n w (w.hear k command daemonState) :=
  ⟨rfl, Iff.rfl, rfl⟩

lemma send (h : n ≠ k) (react : Reaction δ) (w : World δ) (command : String) :
    Untouched n w (w.send react k command).2 := by
  cases he : w.endpoint? k with
  | none =>
    rw [World.send, he]
    exact refl n w
  | some e =>
    by_cases hp : w.presence = .running e.daemon
    · rw [send_eq he hp]
      exact (hear n w k command _).trans (deliver h _ _)
    · rw [World.send, he]
      dsimp only
      rw [if_neg hp]
      exact refl n w

lemma request (h : n ≠ k) (react : Reaction δ) (w : World δ) (command : String) (timeout : Nat) :
    Untouched n w (w.request react k command timeout).2 := by
  have hsend := send h react w command
  unfold World.request
  split
  · next heq =>
    rw [heq] at hsend
    exact hsend
  · next heq =>
    rw [heq] at hsend
    split
    · exact hsend
    · exact hsend.trans (setQueue h _ _)

end Untouched

/-! ### A connected socket -/

/-- The datagrams that have arrived at a socket and not been received. -/
def queueAt (w : World δ) (n : Nat) : List (List UInt8) :=
  (w.endpoint? n).elim [] (·.queue)

/-- A receive takes the oldest datagram that has arrived. -/
lemma receive?_eq_some_iff {text : String} :
    w.receive? n = some (text, w') ↔ ∃ datagram queue, w.queueAt n = datagram :: queue
      ∧ text = datagramText datagram ∧ w' = w.setQueue n queue := by
  rw [receive?, queueAt]
  split
  · next datagram queue he =>
    rw [he]
    constructor
    · intro h
      cases h
      exact ⟨datagram, queue, rfl, rfl, rfl⟩
    · rintro ⟨_, _, hqueue, rfl, rfl⟩
      cases hqueue
      rfl
  · next hne =>
    refine iff_of_false nofun ?_
    rintro ⟨datagram, queue, hqueue, -⟩
    cases he : w.endpoint? n with
    | none =>
      rw [he] at hqueue
      cases hqueue
    | some e =>
      rw [he] at hqueue
      exact hne e.daemon datagram queue (he.trans (by rw [← hqueue]; rfl))

/-- A socket is connected to the daemon that runs, and the daemon can reply to it. -/
def IsConnected (w : World δ) (n : Nat) : Prop :=
  ∃ e, w.endpoint? n = some e ∧ w.presence = .running e.daemon ∧ n ∈ w.files

lemma Untouched.queueAt_eq (h : Untouched n w w') : w'.queueAt n = w.queueAt n := by
  rw [queueAt, h.endpoint, queueAt]

lemma Untouched.isConnected (h : Untouched n w w') (hc : w.IsConnected n) : w'.IsConnected n := by
  obtain ⟨e, he, hp, hf⟩ := hc
  exact ⟨e, h.endpoint.trans he, h.presence.trans hp, h.file.2 hf⟩

namespace IsConnected

lemma setQueue (h : w.IsConnected n) (queue : List (List UInt8)) :
    (w.setQueue n queue).IsConnected n := by
  obtain ⟨e, he, hp, hf⟩ := h
  refine ⟨{ e with queue }, ?_, hp, hf⟩
  rw [endpoint?_setQueue, if_pos rfl, he]
  rfl

lemma queueAt_setQueue (h : w.IsConnected n) (queue : List (List UInt8)) :
    (w.setQueue n queue).queueAt n = queue := by
  obtain ⟨e, he, -, -⟩ := h
  rw [queueAt, endpoint?_setQueue, if_pos rfl, he]
  rfl

/-- What the daemon sends to a connected socket arrives behind what has arrived there before. -/
lemma deliver_eq (h : w.IsConnected n) (datagrams : List (List UInt8)) :
    w.deliver n datagrams = w.setQueue n (w.queueAt n ++ datagrams) := by
  obtain ⟨e, he, hp, hf⟩ := h
  rw [World.deliver, queueAt, he]
  dsimp only
  rw [if_pos ⟨hp, hf⟩]
  rfl

lemma deliver (h : w.IsConnected n) (datagrams : List (List UInt8)) :
    (w.deliver n datagrams).IsConnected n := by
  rw [h.deliver_eq]
  exact h.setQueue _

lemma queueAt_deliver (h : w.IsConnected n) (datagrams : List (List UInt8)) :
    (w.deliver n datagrams).queueAt n = w.queueAt n ++ datagrams := by
  rw [h.deliver_eq, h.queueAt_setQueue]

lemma hear (h : w.IsConnected n) (k : Nat) (command : String) (daemonState : δ) :
    (w.hear k command daemonState).IsConnected n :=
  (Untouched.hear n w k command daemonState).isConnected h

/-- A request over a connected socket: the daemon reacts, and if any time is allowed for it the
first reply among what has arrived by then is taken, with all that is before it. -/
lemma request_eq (h : w.IsConnected n) (react : Reaction δ) (command : String) (timeout : Nat)
    {datagrams : List (List UInt8)} {daemonState : δ}
    (hr : react w.daemonState n command = (datagrams, daemonState)) :
    w.request react n command timeout
      = if timeout = 0 then
          (.error .zeroTimeout, (w.hear n command daemonState).deliver n datagrams)
        else
          ((firstReply (w.queueAt n ++ datagrams)).1.elim (.error .timedOut) .ok,
            ((w.hear n command daemonState).deliver n datagrams).setQueue n
              (firstReply (w.queueAt n ++ datagrams)).2) := by
  have hq := (h.hear n command daemonState).queueAt_deliver datagrams
  rw [(Untouched.hear n w n command daemonState).queueAt_eq] at hq
  obtain ⟨e, he, hp, -⟩ := h
  rw [request, send_eq he hp, hr]
  dsimp only
  rw [← hq]
  rfl

end IsConnected

/-- A socket that could be opened is connected and nothing has arrived there. -/
lemma openSocket_eq_ok (h : w.openSocket = (.ok n, w')) :
    n = w.next ∧ w'.next = w.next + 1 ∧ w'.IsConnected n ∧ w'.queueAt n = []
      ∧ w'.daemonState = w.daemonState := by
  unfold openSocket at h
  dsimp only at h
  split at h
  · cases h
  · split at h
    · cases h
    · cases h
    · next daemon hp =>
      cases h
      have he : ((w.next, (⟨daemon, []⟩ : Endpoint)) :: w.endpoints).lookup w.next
          = some ⟨daemon, []⟩ := by
        rw [lookup_cons_ite, if_pos rfl]
      refine ⟨rfl, rfl, ⟨⟨daemon, []⟩, he, hp, List.mem_cons_self⟩, ?_, rfl⟩
      exact congrArg (fun e? : Option Endpoint => e?.elim [] (·.queue)) he

/-- A socket can be opened exactly where there is a directory for its file and a daemon listens. -/
lemma exists_openSocket_eq_ok_iff :
    (∃ n w', w.openSocket = (.ok n, w'))
      ↔ w.hasLocalDir = true ∧ ∃ daemon, w.presence = .running daemon := by
  unfold openSocket
  dsimp only
  cases w.hasLocalDir <;> cases w.presence <;> simp

/-- Opening a socket leaves to the next one what it depends on. -/
lemma openSocket_setting (h : w.openSocket = (.ok n, w')) :
    w'.hasLocalDir = w.hasLocalDir ∧ w'.presence = w.presence := by
  unfold openSocket at h
  dsimp only at h
  split at h
  · cases h
  · split at h <;> cases h
    exact ⟨rfl, rfl⟩

end SupplicantWatch.Socket.World
