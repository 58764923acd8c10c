import Mathlib.Tactic.Common
import SupplicantWatch.Proofs.Socket.Endpoint

/-!
# Replies that come late

A daemon answers every command with one reply, in order, but in its own time, and may report events
whenever it likes. Whoever asks over one socket gives up after a while; the reply comes nevertheless
and stays in the queue. A request that succeeds therefore returns the oldest reply that no request
before it has returned, which need not be the reply to its own command. Main statement:
`returned_eq_own_iff`, when it is.
-/

namespace SupplicantWatch.Socket

/-! ### The daemon and its delays -/

/-- The datagram of an event, with its priority between angle brackets. -/
def eventDatagram (priority : Nat) (text : List UInt8) : List UInt8 :=
  Utf8.encode ("<" ++ toString priority ++ ">").toList ++ text

/-- What arrives at a socket. -/
inductive Arrival where
  | event (priority : Nat) (text : List UInt8)
  /-- The oldest reply that is under way, if there is one. -/
  | reply
deriving DecidableEq

/-- The datagrams that arrive one after the other, and the replies that are still under way then. -/
def arrive : List Arrival → (underWay : List (List UInt8)) →
    List (List UInt8) × List (List UInt8)
  | [], underWay => ([], underWay)
  | .event priority text :: arrivals, underWay =>
    let (datagrams, underWay) := arrive arrivals underWay
    (eventDatagram priority text :: datagrams, underWay)
  | .reply :: arrivals, [] => arrive arrivals []
  | .reply :: arrivals, reply :: underWay =>
    let (datagrams, underWay) := arrive arrivals underWay
    (reply :: datagrams, underWay)

/-- The daemon that replies so to a command, when some datagrams arrive before the caller gives up.
Its state is the replies that are under way. -/
def answering (reply : List UInt8) (arrivals : List Arrival) : Reaction (List (List UInt8)) :=
  fun underWay _ _ => arrive arrivals (underWay ++ [reply])

/-- What happens next at a socket. -/
inductive Turn where
  /-- A command is sent, to which the daemon has this reply; these datagrams arrive before the
  caller has an answer or gives up. -/
  | request (command : String) (timeout : Nat) (reply : List UInt8) (arrivals : List Arrival)
  /-- Datagrams arrive while nobody waits for them. -/
  | idle (arrivals : List Arrival)
deriving DecidableEq

/-- A command with the reply that the daemon has to it, and what the caller got. -/
structure Asked where
  command : String
  reply : List UInt8
  result : Except IoError String
deriving DecidableEq

/-- Whether the caller got an answer. -/
def Asked.isOk (asked : Asked) : Bool :=
  asked.result.toBool

namespace World

/-- The world after what happens next at a socket, and what was asked, if anything was. -/
def turn (w : World (List (List UInt8))) (n : Nat) :
    Turn → List Asked × World (List (List UInt8))
  | .request command timeout reply arrivals =>
    let (result, w) := w.request (answering reply arrivals) n command timeout
    ([⟨command, reply, result⟩], w)
  | .idle arrivals =>
    let (datagrams, underWay) := arrive arrivals w.daemonState
    ([], { w with daemonState := underWay }.deliver n datagrams)

/-- What was asked over a socket in some turns. -/
def asked (w : World (List (List UInt8))) (n : Nat) : List Turn → List Asked
  | [] => []
  | t :: turns => (w.turn n t).1 ++ asked (w.turn n t).2 n turns

end World

/-! ### Replies that can be returned -/

/-- The text of a datagram that can be returned as a reply, which no event can. -/
def replyText? (datagram : List UInt8) : Option String :=
  if World.isUnsolicited (World.datagramText datagram) then none
  else some (World.datagramText datagram)

/-- The texts that the datagrams of a queue can be returned as, in order. -/
def replyTexts (queue : List (List UInt8)) : List String :=
  queue.filterMap replyText?

/-- The replies to the commands so far that no caller got, oldest first. -/
def unclaimed (past : List Asked) : List String :=
  (replyTexts (past.map (·.reply))).drop (past.countP Asked.isOk)

lemma replyText?_eventDatagram (priority : Nat) (text : List UInt8) :
    replyText? (eventDatagram priority text) = none := by
  obtain ⟨rest, hrest⟩ : ∃ rest, eventDatagram priority text = 0x3c :: rest := by
    refine ⟨Utf8.encode (toString priority ++ ">").toList ++ text, ?_⟩
    rw [eventDatagram, String.append_assoc, String.toList_append]
    rfl
  -- The cut at the receive limit leaves the first byte, and that is a character of its own.
  have hd : Utf8.decodeLossy ((0x3c :: rest).take World.receiveLimit)
      = '<' :: Utf8.decodeLossy (rest.take (World.receiveLimit - 1)) := by
    have hp := Utf8.pieces_encodeChar '<' (rest.take (World.receiveLimit - 1))
    rw [Utf8.decodeLossy, Utf8.decodeLossy]
    exact congrArg (List.map (·.getD '\ufffd')) hp
  have hu : World.isUnsolicited (World.datagramText (eventDatagram priority text)) = true := by
    rw [hrest, World.datagramText, hd, World.isUnsolicited, String.toList_ofList]
    rfl
  rw [replyText?, if_pos hu]

lemma replyTexts_cons (datagram : List UInt8) (queue : List (List UInt8)) :
    replyTexts (datagram :: queue) = (replyText? datagram).toList ++ replyTexts queue := by
  rw [replyTexts, List.filterMap_cons]
  cases replyText? datagram <;> rfl

lemma replyTexts_append (queue queue' : List (List UInt8)) :
    replyTexts (queue ++ queue') = replyTexts queue ++ replyTexts queue' :=
  List.filterMap_append

lemma firstReply_fst (queue : List (List UInt8)) :
    (World.firstReply queue).1 = (replyTexts queue).head? := by
  induction queue with
  | nil => rfl
  | cons datagram queue ih =>
    rw [World.firstReply, replyTexts_cons, replyText?]
    split_ifs
    · exact ih
    · rfl

lemma replyTexts_firstReply_snd (queue : List (List UInt8)) :
    replyTexts (World.firstReply queue).2 = (replyTexts queue).tail := by
  induction queue with
  | nil => rfl
  | cons datagram queue ih =>
    rw [World.firstReply, replyTexts_cons, replyText?]
    split_ifs
    · exact ih
    · rfl

/-- Whatever arrives, every reply is either there or under way. -/
lemma replyTexts_arrive (arrivals : List Arrival) (underWay : List (List UInt8)) :
    replyTexts ((arrive arrivals underWay).1 ++ (arrive arrivals underWay).2)
      = replyTexts underWay := by
  induction arrivals generalizing underWay with
  | nil => rfl
  | cons arrival arrivals ih =>
    cases arrival with
    | event priority text =>
      rw [← ih underWay, arrive, List.cons_append, replyTexts_cons, replyText?_eventDatagram]
      rfl
    | reply =>
      cases underWay with
      | nil => exact ih []
      | cons reply underWay =>
        rw [arrive, List.cons_append, replyTexts_cons, ih, replyTexts_cons]

/-! ### The ledger -/

/-- What is true of a socket after some questions: every reply that no caller got is in the queue or
under way, in order. -/
structure Ledger (n : Nat) (past : List Asked) (w : World (List (List UInt8))) : Prop where
  connected : w.IsConnected n
  replies : replyTexts (w.queueAt n ++ w.daemonState) = unclaimed past
  count_le : past.countP Asked.isOk ≤ (replyTexts (past.map (·.reply))).length

lemma unclaimed_concat {past : List Asked} (asked : Asked)
    (h : past.countP Asked.isOk ≤ (replyTexts (past.map (·.reply))).length) :
    unclaimed (past ++ [asked])
      = (unclaimed past ++ replyTexts [asked.reply]).drop (if asked.isOk then 1 else 0) := by
  rw [unclaimed, List.map_append, replyTexts_append, List.countP_append, List.countP_singleton,
    ← List.drop_drop, List.drop_append_of_le_length h]
  rfl

namespace Ledger

variable {n : Nat} {past : List Asked} {w w' : World (List (List UInt8))}

lemma of_openSocket {w₀ : World (List (List UInt8))} (h : w₀.openSocket = (.ok n, w))
    (hd : w₀.daemonState = []) : Ledger n [] w := by
  obtain ⟨-, -, hconnected, hqueue, hstate⟩ := World.openSocket_eq_ok h
  refine ⟨hconnected, ?_, Nat.zero_le _⟩
  rw [hqueue, hstate, hd]
  rfl

/-- The replies in the queue and under way when some datagrams have arrived. -/
lemma replies_arrive (h : Ledger n past w) (arrivals : List Arrival) (asked : List (List UInt8)) :
    replyTexts (w.queueAt n ++ (arrive arrivals (w.daemonState ++ asked)).1)
        ++ replyTexts (arrive arrivals (w.daemonState ++ asked)).2
      = unclaimed past ++ replyTexts asked := by
  rw [replyTexts_append, List.append_assoc, ← replyTexts_append, replyTexts_arrive,
    replyTexts_append, ← List.append_assoc, ← replyTexts_append, h.replies]

lemma idle (h : Ledger n past w) (arrivals : List Arrival) :
    Ledger n past (w.turn n (.idle arrivals)).2 := by
  have hu : World.Untouched n w { w with daemonState := (arrive arrivals w.daemonState).2 } :=
    ⟨rfl, Iff.rfl, rfl⟩
  have hc := hu.isConnected h.connected
  have harrive := h.replies_arrive arrivals []
  rw [List.append_nil] at harrive
  refine ⟨hc.deliver _, ?_, h.count_le⟩
  dsimp only [World.turn]
  rw [hc.queueAt_deliver, hu.queueAt_eq, replyTexts_append, hc.deliver_eq]
  exact harrive.trans (List.append_nil _)

/-- One more question, after which one reply less is left if it was answered. -/
lemma concat (h : Ledger n past w) (asked : Asked) (hc : w'.IsConnected n)
    (hr : replyTexts (w'.queueAt n) ++ replyTexts w'.daemonState
      = (unclaimed past ++ replyTexts [asked.reply]).drop (if asked.isOk then 1 else 0))
    (hok : asked.isOk = true → unclaimed past ++ replyTexts [asked.reply] ≠ []) :
    Ledger n (past ++ [asked]) w' := by
  refine ⟨hc, ?_, ?_⟩
  · rw [replyTexts_append, hr, unclaimed_concat asked h.count_le]
  · have hcount := h.count_le
    rw [List.map_append, replyTexts_append, List.countP_append, List.countP_singleton,
      List.length_append]
    -- An answer can only be counted where there was a reply to take.
    split_ifs with hasked
    · have hpos := List.length_pos_iff.2 (hok hasked)
      rw [List.length_append, unclaimed, List.length_drop] at hpos
      simp only [List.map_cons, List.map_nil]
      omega
    · omega

/-- A question takes the oldest of the replies that are left and its own, or none of them. -/
lemma request {command : String} {timeout : Nat} {reply : List UInt8} {arrivals : List Arrival}
    {result : Except IoError String} (h : Ledger n past w)
    (hr : w.request (answering reply arrivals) n command timeout = (result, w')) :
    (∀ text, result = .ok text → (unclaimed past ++ replyTexts [reply]).head? = some text)
      ∧ Ledger n (past ++ [⟨command, reply, result⟩]) w' := by
  have harrive := h.replies_arrive arrivals [reply]
  obtain ⟨datagrams, underWay, heq⟩ :
      ∃ datagrams underWay, arrive arrivals (w.daemonState ++ [reply]) = (datagrams, underWay) :=
    ⟨_, _, rfl⟩
  rw [heq] at harrive
  rw [h.connected.request_eq (answering reply arrivals) command timeout heq] at hr
  have hc := (h.connected.hear n command underWay).deliver datagrams
  have hq := (h.connected.hear n command underWay).queueAt_deliver datagrams
  rw [(World.Untouched.hear n w n command underWay).queueAt_eq] at hq
  split_ifs at hr
  · -- No time was allowed, and the reply stays behind.
    cases hr
    refine ⟨nofun, h.concat _ hc ?_ nofun⟩
    rw [hq, World.daemonState_deliver]
    exact harrive
  · have hfst := firstReply_fst (w.queueAt n ++ datagrams)
    have hsnd := replyTexts_firstReply_snd (w.queueAt n ++ datagrams)
    cases hr
    -- Without a reply in the queue the whole queue is gone, and the replies under way are all that
    -- is left.
    cases htexts : replyTexts (w.queueAt n ++ datagrams) with
    | nil =>
      rw [htexts] at hfst hsnd harrive
      rw [hfst]
      refine ⟨nofun, h.concat _ (hc.setQueue _) ?_ nofun⟩
      rw [hc.queueAt_setQueue, hsnd, ← harrive]
      exact congrArg replyTexts (World.daemonState_deliver _ n datagrams)
    | cons text texts =>
      rw [htexts] at hfst hsnd harrive
      rw [hfst]
      have hhead : (unclaimed past ++ replyTexts [reply]).head? = some text := by
        rw [← harrive]
        rfl
      refine ⟨?_, h.concat _ (hc.setQueue _) ?_ ?_⟩
      · rintro _ ⟨⟩
        exact hhead
      · rw [hc.queueAt_setQueue, hsnd, ← harrive]
        exact congrArg (fun queue => texts ++ replyTexts queue)
          (World.daemonState_deliver _ n datagrams)
      · intro _ hnil
        rw [hnil] at hhead
        cases hhead

/-- Whatever comes next, a question that is answered gets the oldest of the replies that are left
and its own. -/
lemma head?_of_asked {turns : List Turn} {before later : List Asked} {asked : Asked} {text : String}
    (h : Ledger n past w) (ha : w.asked n turns = before ++ asked :: later)
    (hr : asked.result = .ok text) :
    (unclaimed (past ++ before) ++ replyTexts [asked.reply]).head? = some text := by
  -- By induction on the turns; the ledger carries what the questions before have left behind.
  induction turns generalizing past w before with
  | nil => simp [World.asked] at ha
  | cons t turns ih =>
    cases t with
    | idle arrivals => exact ih (h.idle arrivals) ha
    | request command timeout reply arrivals =>
      obtain ⟨hhead, hnext⟩ :=
        h.request (rfl : w.request (answering reply arrivals) n command timeout = _)
      cases before with
      | nil =>
        cases ha
        rw [List.append_nil]
        exact hhead text hr
      | cons first before =>
        obtain ⟨hfirst, hbefore⟩ := List.cons_eq_cons.1 ha
        subst hfirst
        have hlater := ih hnext hbefore
        rwa [List.append_assoc] at hlater

end Ledger

/-- Where no reply looks like an event, every reply is claimed if and only if every caller was
answered. -/
lemma unclaimed_eq_nil_iff {past : List Asked}
    (h : ∀ asked ∈ past, World.isUnsolicited (World.datagramText asked.reply) = false) :
    unclaimed past = [] ↔ ∀ asked ∈ past, asked.isOk = true := by
  have hlength : (replyTexts (past.map (·.reply))).length = past.length := by
    induction past with
    | nil => rfl
    | cons asked past ih =>
      rw [List.map_cons, replyTexts_cons, replyText?, h asked List.mem_cons_self,
        List.length_append, ih fun a ha => h a (List.mem_cons_of_mem _ ha), List.length_cons,
        Nat.add_comm]
      rfl
  rw [unclaimed, List.drop_eq_nil_iff, hlength, ← List.countP_eq_length]
  have hle := List.countP_le_length (p := Asked.isOk) (l := past)
  omega

/-! ### Whose reply is returned -/

/-- A daemon that is asked for its status is slow to say it, and then it is pinged. -/
def slowStatus : List Turn :=
  [.request "STATUS" 200 (Utf8.encode "wpa_state=COMPLETED\n".toList) [],
    .idle [.reply],
    .request "PING" 200 (Utf8.encode "PONG\n".toList) [.event 3 [], .reply]]

/-- The world in which a first socket has just been opened. -/
def opened : World (List (List UInt8)) :=
  (World.initial true (.running 0) []).openSocket.2

/-- The status that nobody gets in time. -/
def askedStatus : Asked :=
  ⟨"STATUS", Utf8.encode "wpa_state=COMPLETED\n".toList, .error .timedOut⟩

/-- The ping, with the answer that it gets. -/
def askedPing : Asked :=
  ⟨"PING", Utf8.encode "PONG\n".toList, .ok "wpa_state=COMPLETED\n"⟩

/-- Over a socket that has just been opened, a command that is answered gets the oldest of the
replies that no caller before it got and its own. That is the reply to this command if and only if
every earlier reply has been claimed, or the oldest that has not reads the same. -/
theorem returned_eq_own_iff {w₀ w : World (List (List UInt8))} {n : Nat} {turns : List Turn}
    {past later : List Asked} {asked : Asked} {text : String}
    (hopen : w₀.openSocket = (.ok n, w)) (hstate : w₀.daemonState = [])
    (hasked : w.asked n turns = past ++ asked :: later) (hresult : asked.result = .ok text) :
    (unclaimed past ++ replyTexts [asked.reply]).head? = some text
      ∧ (text = World.datagramText asked.reply
          ↔ ∀ oldest, (unclaimed past).head? = some oldest
              → oldest = World.datagramText asked.reply) := by
  have hhead := (Ledger.of_openSocket hopen hstate).head?_of_asked hasked hresult
  rw [List.nil_append] at hhead
  refine ⟨hhead, ?_⟩
  -- The own reply is first just if nothing is left before it.
  cases hleft : unclaimed past with
  | nil =>
    rw [hleft, List.nil_append, replyTexts_cons, replyText?] at hhead
    split_ifs at hhead
    · cases hhead
    · cases hhead
      exact ⟨fun _ _ => nofun, fun _ => rfl⟩
  | cons oldest rest =>
    rw [hleft] at hhead
    cases hhead
    exact ⟨fun h => by rintro _ ⟨⟩; exact h, fun h => h _ rfl⟩

/-- Behind a request for the status that timed out, a ping gets its own reply just if the reply that
is still unclaimed says the same. -/
theorem returned_eq_own_iff_slowStatus :
    (unclaimed [askedStatus] ++ replyTexts [askedPing.reply]).head?
        = some "wpa_state=COMPLETED\n"
      ∧ ("wpa_state=COMPLETED\n" = World.datagramText askedPing.reply
          ↔ ∀ oldest, (unclaimed [askedStatus]).head? = some oldest
              → oldest = World.datagramText askedPing.reply) := by
  have hopen : (World.initial true (.running 0) []).openSocket = (.ok 0, opened) := rfl
  have hasked : opened.asked 0 slowStatus = [askedStatus] ++ askedPing :: [] := by
    decide +kernel
  exact returned_eq_own_iff hopen rfl hasked rfl

/-- The ping is answered with the status. -/
theorem slowStatus_answers_ping :
    ¬ ∀ asked ∈ opened.asked 0 slowStatus, ∀ text,
        asked.result = .ok text → text = World.datagramText asked.reply := by
  intro h
  have hping := h askedPing (by decide +kernel) _ rfl
  revert hping
  decide +kernel

end SupplicantWatch.Socket
