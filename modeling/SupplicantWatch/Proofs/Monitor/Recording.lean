import Mathlib.Data.List.DropRight
import Mathlib.Data.List.Infix
import Mathlib.Tactic.Common
import SupplicantWatch.Proofs.Monitor.SingleReader
import SupplicantWatch.Proofs.Text.Search

/-!
# What the log holds

A reader records a line after its wait has come back with it, and outside of what callers and
readers share, so that anything else can happen in between. The lines are recorded in the order in
which they came back all the same, because there is one reader at a time. Main statement:
`entries_of_run`.
-/

namespace SupplicantWatch

variable {η σ κ : Type}

/-! ### What a log holds -/

private lemma rtake_rtake_append {α : Type} (n : Nat) (items : List α) (item : α) :
    (items.rtake n ++ [item]).rtake n = (items ++ [item]).rtake n := by
  cases n with
  | zero => rw [List.rtake_zero, List.rtake_zero]
  | succ n =>
    have hinner : (items.rtake (n + 1)).rtake n = items.rtake n := by
      simp only [List.rtake_eq_reverse_take_reverse, List.reverse_reverse, List.take_take,
        Nat.min_eq_left (Nat.le_succ n)]
    rw [List.rtake_concat_succ, List.rtake_concat_succ, hinner]

namespace LineLog

/-- One more line comes behind the others, of which the oldest may no longer fit. -/
lemma entries_record (log : LineLog) (line : String) :
    (log.record line).entries = (log.entries ++ [entry line]).rtake log.capacity := by
  have hle := log.length_le
  rw [record, List.rtake, List.length_append, List.length_singleton]
  split_ifs with hroom
  · rw [hroom, Nat.le_zero, List.length_eq_zero_iff] at hle
    simp [hroom, hle]
  · change log.kept ++ [entry line] = _
    rw [kept]
    split_ifs with hfull
    · have hdrop : log.entries.length + 1 - log.capacity = 1 := by omega
      rw [hdrop, ← List.drop_one, List.drop_append_of_le_length (by omega)]
    · have hdrop : log.entries.length + 1 - log.capacity = 0 := by omega
      rw [hdrop, List.drop_zero]

/-- After any lines the log holds the last of them, as many as fit. -/
lemma entries_recordAll (capacity : Nat) (lines : List String) :
    (recordAll { capacity } lines).capacity = capacity
      ∧ (recordAll { capacity } lines).entries = (lines.map entry).rtake capacity := by
  induction lines using List.reverseRecOn with
  | nil => exact ⟨rfl, (List.rtake_nil capacity).symm⟩
  | append_singleton lines line ih =>
    obtain ⟨hcapacity, hentries⟩ := ih
    rw [recordAll] at hcapacity hentries
    rw [recordAll, List.foldl_append, List.foldl_cons, List.foldl_nil, capacity_record,
      entries_record, hcapacity, hentries, rtake_rtake_append, List.map_append, List.map_singleton]
    exact ⟨rfl, rfl⟩

end LineLog

/-! ### Lines that come back -/

/-- The way to the supplicant where whoever waits keeps the line that has come back until it is
recorded. The source is let go of when the line comes back. -/
def Transport.keeping (t : Transport σ κ) : Transport σ (κ × Option String) where
  connect := t.connect
  query := t.query
  disconnect := t.disconnect
  take state :=
    let (source, state) := t.take state
    ((source, none), state)
  release := fun (source, line?) state => if line?.isSome then state else t.release source state

/-- The line that has come back to a reader and is not recorded yet. -/
def Reader.unrecorded? : Reader (κ × Option String) → Option String
  | waiting (_, line?) => line?
  | _ => none

/-- What happens next. -/
inductive Move (η : Type) where
  /-- The wait of the `i`-th reader comes back with a line. -/
  | back (i : Nat) (line : String)
  /-- A section; the receipt of a line is its recording. -/
  | act (action : Action η)

namespace Move

/-- The line that comes back in a move. -/
def back? : Move η → Option String
  | back _ line => some line
  | _ => none

/-- The line whose turn to be recorded it is in a move. -/
def recorded? : Move η → Option String
  | act (.receive _ line) => some line
  | _ => none

end Move

namespace Monitor

/-- A reader records the line that has come back, and only a wait that has not come back crashes. -/
def Permits (m : Monitor η σ (κ × Option String)) : Action η → Prop
  | .receive i line => m.readers[i]?.bind Reader.unrecorded? = some line
  | .crash i => m.readers[i]?.bind Reader.unrecorded? = none
  | _ => True

/-- What a move does. -/
inductive Moves (t : Transport σ κ) (m : Monitor η σ (κ × Option String)) :
    Move η → Monitor η σ (κ × Option String) → Prop where
  | back (i : Nat) {source : κ} (line : String)
      (hr : m.readers[i]? = some (.waiting (source, none))) :
    Moves t m (.back i line)
      ({ m with transport := t.release source m.transport }.moveReader i
        (.waiting (source, some line)))
  | act (action : Action η) {calls : List (Call η)} {m' : Monitor η σ (κ × Option String)}
      (hp : m.Permits action) (h : m.step t.keeping action = some (calls, m')) :
    Moves t m (.act action) m'

/-- Some moves lead from a monitor before anything has happened to a state. -/
inductive Run (t : Transport σ κ) (config : Config) (transport : σ) :
    List (Move η) → Monitor η σ (κ × Option String) → Prop where
  | new : Run t config transport [] (new config transport)
  | snoc {moves : List (Move η)} {move : Move η} {m m' : Monitor η σ (κ × Option String)}
      (h : Run t config transport moves m) (hm : Moves t m move m') :
    Run t config transport (moves ++ [move]) m'

/-! ### What is logged -/

/-- A line is an update of a scan. -/
def IsScanUpdate (line : String) : Prop :=
  "BSS-ADDED".toList <:+: line.toList ∨ "BSS-REMOVED".toList <:+: line.toList

instance (line : String) : Decidable (IsScanUpdate line) :=
  inferInstanceAs (Decidable (_ ∨ _))

lemma isLogged_iff {line : String} : isLogged line = true ↔ ¬IsScanUpdate line := by
  rw [isLogged, Bool.and_eq_true, Bool.not_eq_true', Bool.not_eq_true', ← Bool.not_eq_true,
    ← Bool.not_eq_true, Text.occurs_iff, Text.occurs_iff, IsScanUpdate, not_or]

/-- A section adds a line to the log if it receives it, and leaves the log alone otherwise. -/
lemma log_of_transition {t : Transport σ κ} {m m' : Monitor η σ κ} {action : Action η}
    {calls : List (Call η)} (h : Transition t m action calls m') :
    m'.log = m.log.recordAll
      ((Move.act action).recorded?.toList.filter fun line => ¬IsScanUpdate line) := by
  cases h with
  | @receive i source line hr =>
    -- The only section that reaches the log, and only with a line that is no update of a scan.
    have hlines : (Move.act (.receive i line : Action η)).recorded?.toList = [line] := rfl
    rw [hlines, receive]
    by_cases hl : IsScanUpdate line
    · rw [if_neg (isLogged_iff.not.2 (not_not_intro hl)), List.filter_cons_of_neg (by simpa)]
      rfl
    · rw [if_pos (isLogged_iff.2 hl), List.filter_cons_of_pos (by simpa)]
      rfl
  | _ => rfl

/-! ### Readers -/

section

variable {t : Transport σ κ} {m m' : Monitor η σ (κ × Option String)} {action : Action η}
  {calls : List (Call η)}

/-- The lines that have come back and are not recorded yet. -/
def unrecorded (m : Monitor η σ (κ × Option String)) : List String :=
  m.readers.filterMap Reader.unrecorded?

lemma unrecorded_eq {place : Reader (κ × Option String)} (h : m.readers = [place]) :
    m.unrecorded = place.unrecorded?.toList := by
  rw [unrecorded, h, List.filterMap_cons]
  cases place.unrecorded? <;> rfl

/-- A section records the line that has come back to the reader, or leaves what has come back. -/
lemma unrecorded_of_transition (hs : m.SingleReader) (hp : m.Permits action)
    (h : Transition t.keeping m action calls m') :
    m.unrecorded = (Move.act action).recorded?.toList ++ m'.unrecorded := by
  cases h with
  | @receive i source line hr =>
    -- `Permits` says that the line which is recorded is the one that the reader keeps.
    obtain ⟨hm, rfl⟩ := hs.readers_eq hr
    have hm' : (m.receive t.keeping 0 source line).readers = [.holding line] := by
      rw [readers_receive, hm]
      rfl
    have hline : Reader.unrecorded? (.waiting source) = some line := by
      rw [Permits, hr] at hp
      exact hp
    rw [unrecorded_eq hm, unrecorded_eq hm', hline]
    rfl
  | @crash i source hr =>
    -- A wait that crashes has not come back, so no line is lost with it.
    obtain ⟨hm, rfl⟩ := hs.readers_eq hr
    have hline : Reader.unrecorded? (.waiting source) = none := by
      rw [Permits, hr] at hp
      exact hp
    rw [unrecorded_eq hm, hline, unrecorded, crash, moveReader, hm]
    rfl
  | startReached interface transport =>
    -- A reader that starts has no line yet.
    have hm' : ((m.onConnected transport).setMonitoring interface true).readers
        = if m.readerRunning then m.readers else m.readers ++ [.checking] := rfl
    rw [unrecorded, unrecorded, hm']
    split_ifs
    · rfl
    · rw [List.filterMap_append]
      exact (List.append_nil _).symm
  | checkOn hr | await hr | handleGoOn hr | handleCrash _ hr =>
    -- The one reader moves between places at which it keeps no line.
    obtain ⟨hm, rfl⟩ := hs.readers_eq hr
    rw [unrecorded_eq hm, unrecorded]
    simp [hm, moveReader, await, handleCrash, withClassifier, breakOff, Transport.keeping,
      Reader.unrecorded?, Move.recorded?]
  | checkEnd hr | handleTerminate hr | giveUp hr =>
    obtain ⟨hm, rfl⟩ := hs.readers_eq hr
    rw [unrecorded_eq hm, unrecorded]
    simp [hm, endReader, disconnected, withClassifier, Reader.unrecorded?, Move.recorded?]
  | _ => rfl

/-- Only a line that has just been recorded is new to a reader. -/
lemma recorded?_of_holding (hs : m.SingleReader) (h : Transition t.keeping m action calls m')
    {line : String} (hmem : Reader.holding line ∈ m'.readers) :
    (Move.act action).recorded? = some line
      ∨ (Move.act action).recorded? = none ∧ Reader.holding line ∈ m.readers := by
  cases h with
  | receive line' hr =>
    obtain ⟨hm, rfl⟩ := hs.readers_eq hr
    rw [readers_receive, hm] at hmem
    cases List.mem_singleton.1 hmem
    exact .inl rfl
  | startReached interface transport =>
    -- A start may add a reader, but that one has yet to look whether it is wanted.
    refine .inr ⟨rfl, ?_⟩
    have hm' : ((m.onConnected transport).setMonitoring interface true).readers
        = if m.readerRunning then m.readers else m.readers ++ [.checking] := rfl
    rw [hm'] at hmem
    split_ifs at hmem
    · exact hmem
    · simpa using hmem
  | checkOn hr | await hr | crash hr | handleGoOn hr | handleCrash _ hr =>
    obtain ⟨hm, rfl⟩ := hs.readers_eq hr
    simp [hm, moveReader, await, Monitor.crash, handleCrash, withClassifier, breakOff] at hmem
  | checkEnd hr | handleTerminate hr | giveUp hr =>
    obtain ⟨hm, rfl⟩ := hs.readers_eq hr
    simp [hm, endReader, disconnected, withClassifier] at hmem
  | _ => exact .inr ⟨rfl, hmem⟩

end

/-! ### Runs -/

/-- The lines that have come back, in order. -/
def linesBack (moves : List (Move η)) : List String :=
  moves.filterMap Move.back?

/-- The lines whose turn to be recorded it has been, in order. -/
def linesRecorded (moves : List (Move η)) : List String :=
  moves.filterMap Move.recorded?

/-- What holds after some moves. -/
structure Records (config : Config) (moves : List (Move η))
    (m : Monitor η σ (κ × Option String)) : Prop where
  single : m.SingleReader
  log_eq : m.log = LineLog.recordAll { capacity := config.logCapacity }
    ((linesRecorded moves).filter fun line => ¬IsScanUpdate line)
  back_eq : linesBack moves = linesRecorded moves ++ m.unrecorded
  holding : ∀ line, Reader.holding line ∈ m.readers → (linesRecorded moves).getLast? = some line

namespace Records

variable {t : Transport σ κ} {config : Config} {moves : List (Move η)}
  {m m' : Monitor η σ (κ × Option String)}

lemma new (config : Config) (transport : σ) :
    Records config [] (new config transport : Monitor η σ (κ × Option String)) :=
  ⟨.new config transport, rfl, rfl, nofun⟩

lemma back (h : Records config moves m) {i : Nat} {source : κ} (line : String)
    (hr : m.readers[i]? = some (.waiting (source, none))) (transport : σ) :
    Records config (moves ++ [.back i line])
      ({ m with transport }.moveReader i (.waiting (source, some line))) := by
  obtain ⟨hm, rfl⟩ := h.single.readers_eq hr
  have hrecorded : linesRecorded (moves ++ [.back 0 line]) = linesRecorded moves :=
    List.filterMap_append.trans (List.append_nil _)
  have hreaders : ({ m with transport }.moveReader 0 (.waiting (source, some line))).readers
      = [.waiting (source, some line)] := by
    rw [moveReader, hm]
    rfl
  refine ⟨?_, ?_, ?_, ?_⟩
  · exact h.single.of_length_eq List.length_set rfl id
  · rw [hrecorded]
    exact h.log_eq
  · rw [hrecorded, linesBack, List.filterMap_append, ← linesBack, h.back_eq, unrecorded_eq hm,
      unrecorded_eq hreaders]
    exact congrArg (· ++ [line]) (List.append_nil _)
  · intro line' hmem
    rw [hreaders, List.mem_singleton] at hmem
    cases hmem

lemma act (h : Records config moves m) {action : Action η} {calls : List (Call η)}
    (hp : m.Permits action) (ht : Transition t.keeping m action calls m') :
    Records config (moves ++ [.act action]) m' := by
  have hrecorded : linesRecorded (moves ++ [.act action])
      = linesRecorded moves ++ (Move.act action).recorded?.toList := by
    rw [linesRecorded, List.filterMap_append, List.filterMap_cons]
    cases (Move.act action).recorded? <;> rfl
  refine ⟨h.single.of_transition ht, ?_, ?_, ?_⟩
  · rw [log_of_transition ht, h.log_eq, hrecorded, List.filter_append, LineLog.recordAll,
      LineLog.recordAll, LineLog.recordAll, List.foldl_append]
  · have hback : linesBack (moves ++ [.act action]) = linesBack moves :=
      List.filterMap_append.trans (List.append_nil _)
    rw [hback, h.back_eq, unrecorded_of_transition h.single hp ht, hrecorded, List.append_assoc]
  · intro line hmem
    rw [hrecorded]
    rcases recorded?_of_holding h.single ht hmem with hline | ⟨hnone, hmem⟩
    · rw [hline]
      exact List.getLast?_concat
    · rw [hnone]
      exact (congrArg List.getLast? (List.append_nil _)).trans (h.holding line hmem)

lemma of_run {transport : σ} (h : Run t config transport moves m) : Records config moves m := by
  -- By induction on the run, with all four facts at once: what is kept is needed for the order, and
  -- that there is one reader is needed for what is kept.
  induction h with
  | new => exact .new config transport
  | snoc _ hm ih =>
    cases hm with
    | back _ line hr => exact ih.back line hr _
    | act _ hp hstep => exact ih.act hp (.of_step hstep)

end Records

/-- However callers and readers interleave, the log holds the last lines, as many as fit, of those
that were recorded and are no updates of a scan, in order. The lines that were recorded are those
that have come back, in the order in which they came, but for at most one that is not recorded yet,
and a line that is about to be handled has been recorded last. -/
theorem entries_of_run {t : Transport σ κ} {config : Config} {transport : σ}
    {moves : List (Move η)} {m : Monitor η σ (κ × Option String)}
    (h : Run t config transport moves m) :
    m.log.entries
        = (((linesRecorded moves).filter fun line => ¬IsScanUpdate line).map LineLog.entry).rtake
          config.logCapacity
      ∧ linesBack moves = linesRecorded moves ++ m.unrecorded
      ∧ m.unrecorded.length ≤ 1
      ∧ ∀ line, Reader.holding line ∈ m.readers → (linesRecorded moves).getLast? = some line := by
  have hrecords := Records.of_run h
  refine ⟨?_, hrecords.back_eq, ?_, hrecords.holding⟩
  · rw [hrecords.log_eq, (LineLog.entries_recordAll _ _).2]
  · exact Nat.le_trans (List.length_filterMap_le _ _) hrecords.single.atMostOne

/-- Two readers one after the other, of which the first crashes over its line: the log with room for
one line holds the line of the second, and none of what a caller handed in meanwhile. -/
theorem entries_of_run_restarted :
    ∃ (moves : List (Move Nat)) (m : Monitor Nat Unit (Unit × Option String)),
      Run Replay.transport { logCapacity := 1 } () moves m
      ∧ linesBack moves = ["A", "B"] ∧ m.log.entries = ["Event [B]"] := by
  have hnew : Run Replay.transport { logCapacity := 1 } () []
      (new { logCapacity := 1 } () : Monitor Nat Unit (Unit × Option String)) := .new
  have hfirst := hnew
    |>.snoc (.act (.start "wlan0") trivial rfl)
    |>.snoc (.act (.check 0) trivial rfl)
    |>.snoc (.act (.await 0) trivial rfl)
    |>.snoc (.back 0 "A" rfl)
    |>.snoc (.act (.broadcast none .scanResults) trivial rfl)
    |>.snoc (.act (.receive 0 "A") rfl rfl)
    |>.snoc (.act (.handleCrash 0 []) trivial rfl)
    |>.snoc (.act (.giveUp 0) trivial rfl)
  have hsecond := hfirst
    |>.snoc (.act (.start "wlan0") trivial rfl)
    |>.snoc (.act (.check 0) trivial rfl)
    |>.snoc (.act (.await 0) trivial rfl)
    |>.snoc (.back 0 "B" rfl)
    |>.snoc (.act (.receive 0 "B") rfl rfl)
  obtain ⟨hentries, -⟩ := entries_of_run hsecond
  exact ⟨_, _, hsecond, rfl, hentries.trans (by decide)⟩

end Monitor

end SupplicantWatch
