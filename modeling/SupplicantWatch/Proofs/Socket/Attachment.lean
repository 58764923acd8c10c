import Mathlib.Tactic.Common
import SupplicantWatch.Proofs.Socket.Endpoint
import SupplicantWatch.Socket.Watch

/-!
# Sockets that listen for events

A daemon that keeps a list of the sockets attached to it reports every event to each of them. What
becomes of such a socket while commands are sent over others, while events are reported, and while
sockets are opened, replaced and closed around it. Main statements: `queueAt_report`, what an event
does to a socket that listens, and `Keeps`, what failed attempts to connect and commands have in
common.
-/

namespace SupplicantWatch.Socket

variable {δ : Type} {n k : Nat}

/-! ### The list of attached sockets -/

lemma mem_attaching {react : Reaction δ} {state : List Nat × δ} {command : String}
    (h : n ∈ (attaching react state k command).2.1) : n = k ∨ n ∈ state.1 := by
  unfold attaching at h
  dsimp only at h
  split_ifs at h
  · exact List.mem_cons.1 h
  · exact .inr (List.mem_filter.1 h).1
  · exact .inr h

lemma count_attaching (h : n ≠ k) (react : Reaction δ) (state : List Nat × δ) (command : String) :
    (attaching react state k command).2.1.count n = state.1.count n := by
  unfold attaching
  dsimp only
  split_ifs
  · exact List.count_cons_of_ne h.symm
  · exact List.count_filter (by simpa using h)
  · rfl

namespace World

section

variable {w w' : World δ}

@[simp] lemma next_deliver (w : World δ) (n : Nat) (datagrams : List (List UInt8)) :
    (w.deliver n datagrams).next = w.next := by
  unfold deliver
  split
  · split <;> rfl
  · rfl

/-- A request leaves the numbers as they are, and the daemon hears its command or nothing. -/
lemma request_cases (react : Reaction δ) (w : World δ) (n : Nat) (command : String)
    (timeout : Nat) :
    (w.request react n command timeout).2.next = w.next
      ∧ ((w.request react n command timeout).2.daemonState = w.daemonState
        ∨ (w.request react n command timeout).2.daemonState
          = (react w.daemonState n command).2) := by
  have hsend : (w.send react n command).2.next = w.next
      ∧ ((w.send react n command).2.daemonState = w.daemonState
        ∨ (w.send react n command).2.daemonState = (react w.daemonState n command).2) := by
    cases he : w.endpoint? n with
    | none =>
      rw [send, he]
      exact ⟨rfl, .inl rfl⟩
    | some e =>
      by_cases hp : w.presence = .running e.daemon
      · rw [send_eq he hp, daemonState_deliver, next_deliver]
        exact ⟨rfl, .inr rfl⟩
      · rw [send, he]
        dsimp only
        rw [if_neg hp]
        exact ⟨rfl, .inl rfl⟩
  -- The rest of a request touches nothing but a queue.
  unfold request
  split
  · next heq =>
    rw [heq] at hsend
    exact hsend
  · next heq =>
    rw [heq] at hsend
    split
    · exact hsend
    · exact hsend

lemma openSocket_snd (w : World δ) :
    w.openSocket.2.next = w.next + 1 ∧ w.openSocket.2.daemonState = w.daemonState := by
  unfold openSocket
  dsimp only
  split
  · exact ⟨rfl, rfl⟩
  · split <;> exact ⟨rfl, rfl⟩

end

variable {w w' w'' : World (List Nat × δ)}

/-- The sockets that the daemon knows have been opened. -/
def Numbered (w : World (List Nat × δ)) : Prop :=
  ∀ n ∈ w.daemonState.1, n < w.next

/-- Nothing happens at a socket, and it is attached as before. -/
structure Undisturbed (n : Nat) (w w' : World (List Nat × δ)) : Prop
    extends Untouched n w w' where
  count : w'.daemonState.1.count n = w.daemonState.1.count n

namespace Undisturbed

lemma refl (n : Nat) (w : World (List Nat × δ)) : Undisturbed n w w :=
  ⟨.refl n w, rfl⟩

lemma trans (h : Undisturbed n w w') (h' : Undisturbed n w' w'') : Undisturbed n w w'' :=
  ⟨h.toUntouched.trans h'.toUntouched, h'.count.trans h.count⟩

lemma close (h : n ≠ k) (w : World (List Nat × δ)) : Undisturbed n w (w.close k) :=
  ⟨.close h w, rfl⟩

lemma setQueue (h : n ≠ k) (w : World (List Nat × δ)) (queue : List (List UInt8)) :
    Undisturbed n w (w.setQueue k queue) :=
  ⟨.setQueue h w queue, rfl⟩

lemma openSocket (h : n ≠ w.next) : Undisturbed n w w.openSocket.2 := by
  refine ⟨.openSocket h, ?_⟩
  rw [w.openSocket_snd.2]

lemma request (h : n ≠ k) (react : Reaction δ) (w : World (List Nat × δ)) (command : String)
    (timeout : Nat) : Undisturbed n w (w.request (attaching react) k command timeout).2 := by
  refine ⟨.request h _ w command timeout, ?_⟩
  rcases (w.request_cases (attaching react) k command timeout).2 with hs | hs
  · rw [hs]
  · rw [hs, count_attaching h]

end Undisturbed

namespace Numbered

lemma openSocket (h : w.Numbered) : w.openSocket.2.Numbered := by
  intro n hn
  rw [w.openSocket_snd.2] at hn
  rw [w.openSocket_snd.1]
  exact Nat.lt_succ_of_lt (h n hn)

lemma request (h : w.Numbered) (hk : k < w.next) (react : Reaction δ) (command : String)
    (timeout : Nat) : (w.request (attaching react) k command timeout).2.Numbered := by
  obtain ⟨hnext, hs⟩ := w.request_cases (attaching react) k command timeout
  intro n hn
  rw [hnext]
  rcases hs with hs | hs
  · rw [hs] at hn
    exact h n hn
  · rw [hs] at hn
    rcases mem_attaching hn with rfl | hn
    · exact hk
    · exact h n hn

end Numbered

/-- Nothing happens but at sockets that are new. -/
structure Extends (w w' : World (List Nat × δ)) : Prop where
  next_le : w.next ≤ w'.next
  attached : w.Numbered → w'.Numbered
  undisturbed : ∀ n < w.next, Undisturbed n w w'

namespace Extends

lemma refl (w : World (List Nat × δ)) : Extends w w :=
  ⟨Nat.le_refl _, id, fun n _ => .refl n w⟩

lemma openSocket (h : Extends w w') : Extends w w'.openSocket.2 := by
  refine ⟨?_, fun hw => (h.attached hw).openSocket, ?_⟩
  · rw [w'.openSocket_snd.1]
    exact Nat.le_succ_of_le h.next_le
  · intro n hn
    exact (h.undisturbed n hn).trans (.openSocket (Nat.ne_of_lt (Nat.lt_of_lt_of_le hn h.next_le)))

lemma close (h : Extends w w') (hk : w.next ≤ k) : Extends w (w'.close k) := by
  refine ⟨h.next_le, h.attached, ?_⟩
  intro n hn
  exact (h.undisturbed n hn).trans (.close (Nat.ne_of_lt (Nat.lt_of_lt_of_le hn hk)) w')

lemma request (h : Extends w w') (hk : w.next ≤ k) (hlt : k < w'.next) (react : Reaction δ)
    (command : String) (timeout : Nat) :
    Extends w (w'.request (attaching react) k command timeout).2 := by
  refine ⟨?_, fun hw => (h.attached hw).request hlt react command timeout, ?_⟩
  · rw [(w'.request_cases (attaching react) k command timeout).1]
    exact h.next_le
  · intro n hn
    have hne : n ≠ k := Nat.ne_of_lt (Nat.lt_of_lt_of_le hn hk)
    exact (h.undisturbed n hn).trans (.request hne react w' command timeout)

end Extends

/-! ### A socket that listens -/

/-- A socket is connected to the daemon that runs, and attached to it once. -/
structure Listens (w : World (List Nat × δ)) (n : Nat) : Prop where
  lt_next : n < w.next
  connected : w.IsConnected n
  count : w.daemonState.1.count n = 1

lemma Undisturbed.listens (h : Undisturbed n w w') (hle : w.next ≤ w'.next) (hl : w.Listens n) :
    w'.Listens n :=
  ⟨Nat.lt_of_lt_of_le hl.lt_next hle, h.isConnected hl.connected, h.count.trans hl.count⟩

lemma Listens.setQueue (h : w.Listens n) (k : Nat) (queue : List (List UInt8)) :
    (w.setQueue k queue).Listens n := by
  by_cases hk : n = k
  · subst hk
    exact ⟨h.lt_next, h.connected.setQueue queue, h.count⟩
  · exact Undisturbed.listens (.setQueue hk w queue) (Nat.le_refl _) h

private lemma foldl_deliver_state (w : World (List Nat × δ)) (event : List UInt8)
    (sockets : List Nat) :
    (sockets.foldl (fun w k => w.deliver k [event]) w).next = w.next
      ∧ (sockets.foldl (fun w k => w.deliver k [event]) w).daemonState = w.daemonState := by
  induction sockets generalizing w with
  | nil => exact ⟨rfl, rfl⟩
  | cons k sockets ih =>
    rw [List.foldl_cons, (ih _).1, (ih _).2, next_deliver, daemonState_deliver]
    exact ⟨rfl, rfl⟩

private lemma foldl_deliver_queue (h : w.IsConnected n) (event : List UInt8) (sockets : List Nat) :
    (sockets.foldl (fun w k => w.deliver k [event]) w).IsConnected n
      ∧ (sockets.foldl (fun w k => w.deliver k [event]) w).queueAt n
        = w.queueAt n ++ List.replicate (sockets.count n) event := by
  induction sockets generalizing w with
  | nil => exact ⟨h, (List.append_nil _).symm⟩
  | cons k sockets ih =>
    rw [List.foldl_cons]
    by_cases hk : n = k
    · subst hk
      obtain ⟨hconnected, hqueue⟩ := ih (h.deliver [event])
      refine ⟨hconnected, ?_⟩
      rw [hqueue, h.queueAt_deliver, List.append_assoc, List.count_cons_self]
      rfl
    · have hu : Untouched n w (w.deliver k [event]) := .deliver hk w [event]
      obtain ⟨hconnected, hqueue⟩ := ih (hu.isConnected h)
      refine ⟨hconnected, ?_⟩
      rw [hqueue, hu.queueAt_eq, List.count_cons_of_ne (Ne.symm hk)]

@[simp] lemma next_report (w : World (List Nat × δ)) (event : List UInt8) :
    (w.report event).next = w.next :=
  (foldl_deliver_state w event _).1

@[simp] lemma daemonState_report (w : World (List Nat × δ)) (event : List UInt8) :
    (w.report event).daemonState = w.daemonState :=
  (foldl_deliver_state w event _).2

lemma Numbered.report (h : w.Numbered) (event : List UInt8) : (w.report event).Numbered := by
  intro n hn
  rw [daemonState_report] at hn
  rw [next_report]
  exact h n hn

lemma Listens.report (h : w.Listens n) (event : List UInt8) : (w.report event).Listens n := by
  refine ⟨?_, (foldl_deliver_queue h.connected event _).1, ?_⟩
  · rw [next_report]
    exact h.lt_next
  · rw [daemonState_report]
    exact h.count

/-- An event arrives once at a socket that listens. -/
lemma Listens.queueAt_report (h : w.Listens n) (event : List UInt8) :
    (w.report event).queueAt n = w.queueAt n ++ [event] := by
  have hqueue := (foldl_deliver_queue h.connected event w.daemonState.1).2
  rw [h.count] at hqueue
  exact hqueue

private lemma firstReply_consent :
    firstReply [Utf8.encode "OK\n".toList] = (some "OK\n", []) := by
  decide +kernel

/-- A socket that was opened and then attached listens, and what has arrived there is received. -/
lemma listens_of_attach {react : Reaction δ} {timeout : Nat} {reply : String}
    (hnumbered : w.Numbered) (hopen : w.openSocket = (.ok n, w'))
    (hr : w'.request (attaching react) n "ATTACH" timeout = (.ok reply, w'')) :
    w''.Listens n ∧ w''.queueAt n = [] := by
  obtain ⟨rfl, hnext, hconnected, hqueue, hstate⟩ := openSocket_eq_ok hopen
  have hreact : attaching react w'.daemonState w.next "ATTACH"
      = ([Utf8.encode "OK\n".toList], w.next :: w'.daemonState.1, w'.daemonState.2) := by
    rw [attaching]
    exact if_pos rfl
  have hnext' := (w'.request_cases (attaching react) w.next "ATTACH" timeout).1
  rw [hr] at hnext'
  rw [hconnected.request_eq (attaching react) "ATTACH" timeout hreact, hqueue, List.nil_append,
    firstReply_consent] at hr
  split_ifs at hr
  · cases hr
  · have hc := (hconnected.hear w.next "ATTACH"
      (w.next :: w'.daemonState.1, w'.daemonState.2)).deliver [Utf8.encode "OK\n".toList]
    cases hr
    -- The number is new, so the daemon cannot have had it in its list.
    have hnew : w'.daemonState.1.count w.next = 0 := by
      rw [hstate]
      exact List.count_eq_zero.2 fun hmem => Nat.lt_irrefl _ (hnumbered _ hmem)
    refine ⟨⟨?_, hc.setQueue [], ?_⟩, hc.queueAt_setQueue []⟩
    · exact Nat.lt_of_lt_of_eq (by omega : w.next < w'.next) hnext'.symm
    · refine (congrArg (fun state : List Nat × δ => state.1.count w.next)
        (daemonState_deliver _ _ _)).trans ?_
      exact List.count_cons_self.trans (congrArg (· + 1) hnew)

end World

namespace Link

variable {l l' l'' : Link (List Nat × δ)} {react : Reaction δ} {timeout : Nat}

/-- The sockets of a link, and those that the daemon knows, have been opened. -/
structure Numbered (l : Link (List Nat × δ)) : Prop where
  attached : l.world.Numbered
  command_lt : ∀ n, l.command = some n → n < l.world.next
  monitor_lt : ∀ n, l.monitor = some n → n < l.world.next

/-- Nothing happens but at the socket for commands, and perhaps at new ones. -/
structure Keeps (l l' : Link (List Nat × δ)) : Prop where
  command_eq : l'.command = l.command
  monitor_eq : l'.monitor = l.monitor
  held_eq : l'.held = l.held
  next_le : l.world.next ≤ l'.world.next
  attached : l.Numbered → l'.world.Numbered
  undisturbed : ∀ n, n < l.world.next → l.command ≠ some n → World.Undisturbed n l.world l'.world

/-- Two new sockets take the place of those of the link, where the one for events listens, and those
from which events are awaited stay as they are. -/
structure Renews (l l' : Link (List Nat × δ)) (command monitor : Nat) : Prop where
  command_eq : l'.command = some command
  monitor_eq : l'.monitor = some monitor
  held_eq : l'.held = l.held
  le_command : l.world.next ≤ command
  command_lt : command < monitor
  attached : l'.world.Numbered
  listens : l'.world.Listens monitor
  queueAt_eq : l'.world.queueAt monitor = []
  undisturbed : ∀ n ∈ l.held, n < l.world.next → l.command ≠ some n →
    World.Undisturbed n l.world l'.world

namespace Keeps

lemma refl (l : Link (List Nat × δ)) : Keeps l l where
  command_eq := rfl
  monitor_eq := rfl
  held_eq := rfl
  next_le := Nat.le_refl _
  attached h := h.attached
  undisturbed n _ _ := .refl n l.world

lemma numbered (h : Keeps l l') (hl : l.Numbered) : l'.Numbered where
  attached := h.attached hl
  command_lt n hn := Nat.lt_of_lt_of_le (hl.command_lt n (h.command_eq ▸ hn)) h.next_le
  monitor_lt n hn := Nat.lt_of_lt_of_le (hl.monitor_lt n (h.monitor_eq ▸ hn)) h.next_le

lemma trans (h : Keeps l l') (h' : Keeps l' l'') : Keeps l l'' where
  command_eq := h'.command_eq.trans h.command_eq
  monitor_eq := h'.monitor_eq.trans h.monitor_eq
  held_eq := h'.held_eq.trans h.held_eq
  next_le := Nat.le_trans h.next_le h'.next_le
  attached hl := h'.attached (h.numbered hl)
  undisturbed n hn hc := (h.undisturbed n hn hc).trans
    (h'.undisturbed n (Nat.lt_of_lt_of_le hn h.next_le) (h.command_eq ▸ hc))

lemma query (l : Link (List Nat × δ)) (command : String) :
    Keeps l (l.query (attaching react) timeout command).2 := by
  unfold Link.query
  split
  · exact refl l
  · next n hn =>
    have hcases := l.world.request_cases (attaching react) n command timeout
    constructor
    case command_eq | monitor_eq | held_eq => rfl
    case next_le => exact Nat.le_of_eq hcases.1.symm
    case attached => exact fun hl => hl.attached.request (hl.command_lt n hn) react command timeout
    case undisturbed =>
      intro k _ hk
      refine .request ?_ react l.world command timeout
      rintro rfl
      exact hk hn

end Keeps

/-- Sockets that the link has no use for any more are closed, unless they are held. -/
structure Sheds (l : Link (List Nat × δ)) (gone : Nat → Prop) (l' : Link (List Nat × δ)) :
    Prop where
  command_eq : l'.command = l.command
  monitor_eq : l'.monitor = l.monitor
  held_eq : l'.held = l.held
  next_eq : l'.world.next = l.world.next
  daemonState_eq : l'.world.daemonState = l.world.daemonState
  undisturbed : ∀ n, n ∈ l.held ∨ ¬gone n → World.Undisturbed n l.world l'.world

namespace Sheds

variable {gone : Nat → Prop}

lemma refl (l : Link (List Nat × δ)) (gone : Nat → Prop) : Sheds l gone l :=
  ⟨rfl, rfl, rfl, rfl, rfl, fun n _ => .refl n l.world⟩

lemma drop (h : Sheds l gone l') (hk : gone k) : Sheds l gone (l'.drop k) := by
  unfold Link.drop
  split_ifs with hheld
  · exact h
  · refine ⟨h.command_eq, h.monitor_eq, h.held_eq, h.next_eq, h.daemonState_eq, ?_⟩
    intro n hn
    refine (h.undisturbed n hn).trans (.close ?_ l'.world)
    rintro rfl
    rcases hn with hn | hn
    · exact hheld (h.held_eq ▸ hn)
    · exact hn hk

/-- What becomes of a link with other sockets in the place of its own. -/
lemma replace (l : Link (List Nat × δ)) (command monitor : Option Nat) :
    Sheds { l with command, monitor } (fun n => l.command = some n ∨ l.monitor = some n)
      (l.replace command monitor) := by
  have hcommand : Sheds { l with command, monitor }
      (fun n => l.command = some n ∨ l.monitor = some n)
      (l.command.elim { l with command, monitor } (Link.drop { l with command, monitor })) := by
    cases hc : l.command with
    | none => exact refl _ _
    | some n => exact (refl _ _).drop (.inl rfl)
  have hreplace : l.replace command monitor = l.monitor.elim
      (l.command.elim { l with command, monitor } (Link.drop { l with command, monitor }))
      (l.command.elim { l with command, monitor } (Link.drop { l with command, monitor })).drop :=
    rfl
  rw [hreplace]
  generalize hm : l.monitor = m at hcommand ⊢
  cases m with
  | none => exact hcommand
  | some n => exact hcommand.drop (.inr rfl)

lemma numbered (h : Sheds l gone l') (hl : l.world.Numbered) : l'.world.Numbered := by
  intro n hn
  rw [h.daemonState_eq] at hn
  rw [h.next_eq]
  exact hl n hn

end Sheds

/-- Two sockets that were opened take the place of those of the link. -/
lemma renews_replace {w : World (List Nat × δ)} {command monitor : Nat} (hl : l.Numbered)
    (h : l.world.Extends w) (hc : l.world.next ≤ command) (hlt : command < monitor)
    (hlistens : w.Listens monitor) (hqueue : w.queueAt monitor = []) :
    Renews l (replace { l with world := w } (some command) (some monitor)) command monitor := by
  have hsheds := Sheds.replace { l with world := w } (some command) (some monitor)
  -- The new socket for events is none of the old two: those have numbers that were given before.
  have hnew : monitor ∈ l.held ∨ ¬(l.command = some monitor ∨ l.monitor = some monitor) := by
    refine .inr ?_
    rintro (heq | heq)
    · have hold := hl.command_lt _ heq
      omega
    · have hold := hl.monitor_lt _ heq
      omega
  have hu := hsheds.undisturbed monitor hnew
  constructor
  case command_eq => exact hsheds.command_eq
  case monitor_eq => exact hsheds.monitor_eq
  case held_eq => exact hsheds.held_eq
  case le_command => exact hc
  case command_lt => exact hlt
  case attached => exact hsheds.numbered (h.attached hl.attached)
  case listens => exact hu.listens (Nat.le_of_eq hsheds.next_eq.symm) hlistens
  case queueAt_eq => exact hu.queueAt_eq.trans hqueue
  case undisturbed =>
    intro n hn hold _
    exact (h.undisturbed n hold).trans (hsheds.undisturbed n (.inl hn))

/-- An attempt to connect either keeps the link or renews it. -/
lemma connect_cases (react : Reaction δ) (timeout : Nat) (hl : l.Numbered) :
    (∃ e, (l.connect (attaching react) timeout).1 = .error e
      ∧ Keeps l (l.connect (attaching react) timeout).2)
    ∨ ((l.connect (attaching react) timeout).1 = .ok ()
      ∧ ∃ command monitor, Renews l (l.connect (attaching react) timeout).2 command monitor) := by
  -- Each of the four ways to fail closes what has been opened so far, and that was new.
  unfold Link.connect
  have hkeeps {w : World (List Nat × δ)} (h : l.world.Extends w) : Keeps l { l with world := w } :=
    { command_eq := rfl
      monitor_eq := rfl
      held_eq := rfl
      next_le := h.next_le
      attached := fun hl => h.attached hl.attached
      undisturbed := fun n hn _ => h.undisturbed n hn }
  have h₁ := (World.Extends.refl l.world).openSocket
  split
  · next e w₁ heq =>
    rw [heq] at h₁
    exact .inl ⟨e, rfl, hkeeps h₁⟩
  · next command w₁ heq =>
    rw [heq] at h₁
    obtain ⟨rfl, hnext₁, -⟩ := World.openSocket_eq_ok heq
    have h₂ := h₁.openSocket
    split
    · next e w₂ heq₂ =>
      rw [heq₂] at h₂
      exact .inl ⟨e, rfl, hkeeps (h₂.close (Nat.le_refl _))⟩
    · next monitor w₂ heq₂ =>
      rw [heq₂] at h₂
      obtain ⟨rfl, hnext₂, -⟩ := World.openSocket_eq_ok heq₂
      have h₃ := h₂.request h₁.next_le (by dsimp only; omega) react "ATTACH" timeout
      dsimp only
      split
      · next e w₃ heq₃ =>
        rw [heq₃] at h₃
        exact .inl ⟨e, rfl, hkeeps ((h₃.close h₁.next_le).close (Nat.le_refl _))⟩
      · next reply w₃ heq₃ =>
        rw [heq₃] at h₃
        split_ifs
        · obtain ⟨hlistens, hqueue⟩ :=
            World.listens_of_attach (h₁.attached hl.attached) heq₂ heq₃
          exact .inr ⟨rfl, l.world.next, w₁.next,
            renews_replace hl h₃ (Nat.le_refl _) (by omega) hlistens hqueue⟩
        · exact .inl ⟨_, rfl, hkeeps ((h₃.close h₁.next_le).close (Nat.le_refl _))⟩

/-! ### What callers and readers do to a link -/

lemma Keeps.renews {command monitor : Nat} (h : Keeps l l') (h' : Renews l' l'' command monitor) :
    Renews l l'' command monitor where
  command_eq := h'.command_eq
  monitor_eq := h'.monitor_eq
  held_eq := h'.held_eq.trans h.held_eq
  le_command := Nat.le_trans h.next_le h'.le_command
  command_lt := h'.command_lt
  attached := h'.attached
  listens := h'.listens
  queueAt_eq := h'.queueAt_eq
  undisturbed n hn hlt hc :=
    (h.undisturbed n hlt hc).trans (h'.undisturbed n (h.held_eq ▸ hn)
      (Nat.lt_of_lt_of_le hlt h.next_le) (h.command_eq ▸ hc))

section

variable (react timeout)

lemma tryConnect_cases (attempts : Nat) (hl : l.Numbered) :
    ((Monitor.tryConnect (transport (attaching react) timeout) attempts l).1 = false
      ∧ Keeps l (Monitor.tryConnect (transport (attaching react) timeout) attempts l).2)
    ∨ ((Monitor.tryConnect (transport (attaching react) timeout) attempts l).1 = true
      ∧ ∃ command monitor,
        Renews l (Monitor.tryConnect (transport (attaching react) timeout) attempts l).2
          command monitor) := by
  -- By induction on the attempts: those that fail keep the link, so the one that succeeds may be
  -- taken for the first.
  induction attempts generalizing l with
  | zero => exact .inl ⟨rfl, .refl l⟩
  | succ attempts ih =>
    obtain ⟨⟨result, l₁⟩, hl₁⟩ : ∃ r, l.connect (attaching react) timeout = r := ⟨_, rfl⟩
    have hc : (transport (attaching react) timeout).connect l = (result.toBool, l₁) := by
      dsimp only [transport]
      rw [hl₁]
    have hcases := connect_cases react timeout hl
    rw [hl₁] at hcases
    rcases hcases with ⟨e, he, hkeeps⟩ | ⟨he, command, monitor, hrenews⟩
    · dsimp only at he
      subst he
      rw [Monitor.tryConnect, hc]
      rcases ih (hkeeps.numbered hl) with ⟨hfalse, hk⟩ | ⟨htrue, command, monitor, hr⟩
      · exact .inl ⟨hfalse, hkeeps.trans hk⟩
      · exact .inr ⟨htrue, command, monitor, hkeeps.renews hr⟩
    · dsimp only at he
      subst he
      rw [Monitor.tryConnect, hc]
      exact .inr ⟨rfl, command, monitor, hrenews⟩

variable {react timeout} in
lemma keeps_of_tryConnect {attempts : Nat} (hl : l.Numbered)
    (h : Monitor.tryConnect (transport (attaching react) timeout) attempts l = (false, l')) :
    Keeps l l' := by
  have hcases := tryConnect_cases react timeout attempts hl
  rw [h] at hcases
  obtain ⟨-, hkeeps⟩ | ⟨htrue, -⟩ := hcases
  · exact hkeeps
  · cases htrue

variable {react timeout} in
lemma renews_of_tryConnect {attempts : Nat} (hl : l.Numbered)
    (h : Monitor.tryConnect (transport (attaching react) timeout) attempts l = (true, l')) :
    ∃ command monitor, Renews l l' command monitor := by
  have hcases := tryConnect_cases react timeout attempts hl
  rw [h] at hcases
  obtain ⟨hfalse, -⟩ | ⟨-, hrenews⟩ := hcases
  · cases hfalse
  · exact hrenews

lemma Keeps.after (commands : List String) (l : Link (List Nat × δ)) :
    Keeps l ((transport (attaching react) timeout).after commands l) := by
  induction commands generalizing l with
  | nil => exact .refl l
  | cons command commands ih => exact (Keeps.query l command).trans (ih _)

lemma Keeps.run {α : Type} (d : Dialogue α) (l : Link (List Nat × δ)) :
    Keeps l (d.run (transport (attaching react) timeout).query l).2.2 := by
  induction d generalizing l with
  | done result => exact .refl l
  | ask command next ih => exact (Keeps.query l command).trans (ih _ _)

/-- Once disconnected, a link has no sockets but those that are held. -/
lemma numbered_disconnect (hl : l.Numbered) :
    (l.disconnect (attaching react) timeout).Numbered
      ∧ (l.disconnect (attaching react) timeout).monitor = none
      ∧ (l.disconnect (attaching react) timeout).held = l.held := by
  obtain ⟨w, hw, heq⟩ : ∃ w : World (List Nat × δ), w.Numbered
      ∧ l.disconnect (attaching react) timeout = { l with world := w }.replace none none := by
    unfold Link.disconnect
    cases hm : l.monitor with
    | none => exact ⟨_, hl.attached, rfl⟩
    | some n =>
      exact ⟨_, hl.attached.request (hl.monitor_lt n hm) react "DETACH" timeout, rfl⟩
  have hsheds := Sheds.replace { l with world := w } none none
  rw [heq]
  refine ⟨⟨hsheds.numbered hw, ?_, ?_⟩, hsheds.monitor_eq, hsheds.held_eq⟩
  · rw [hsheds.command_eq]
    exact nofun
  · rw [hsheds.monitor_eq]
    exact nofun

end

end Link

end SupplicantWatch.Socket
