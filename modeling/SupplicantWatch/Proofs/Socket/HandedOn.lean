import Mathlib.Tactic.Common
import SupplicantWatch.Proofs.Classifier.ReceiveErrors
import SupplicantWatch.Proofs.Socket.Wiring

/-!
# How often an event is handed on

A reader that still waits when everything is stopped keeps its socket over the next start, and that
socket stays attached beside the new one. An event that is reported then arrives at both, and the
reader receives it twice. Between any two moves the lines that may yet be handed on can be told, and
no other event ever is handed on more often than it was reported. Main statement:
`handedOn_twice_iff`.
-/

namespace SupplicantWatch

/-- A line can be read as the report that the supplicant terminates. -/
def Classifier.ReportsTermination (line : String) : Prop :=
  ∃ config isRegistered interface text,
    resolve? config isRegistered (withoutLineEnd line) = some (interface, text)
      ∧ Control.IsTermination text

open Classifier (ReportsTermination)

namespace Socket

variable {η δ : Type} {react : Reaction δ} {timeout : Nat}

namespace Link

variable {l l' : Link (List Nat × δ)} {n : Nat}

/-- The lines that have arrived at a socket. -/
def linesAt (l : Link (List Nat × δ)) (n : Nat) : List String :=
  (l.world.queueAt n).map eventLine

/-- The lines that have arrived at the socket for events. -/
def lines (l : Link (List Nat × δ)) : List String :=
  l.monitor.elim [] l.linesAt

/-- The line that a reader receives or hands on before it looks whether it is wanted. -/
def imminent (l : Link (List Nat × δ)) : Reader (Option Nat) → List String
  | .holding line => [line]
  | .ready => l.lines.take 1
  | .waiting (some n) => (l.linesAt n).take 1
  | .waiting none | .checking | .crashed => []

/-- The lines that a reader receives after that if it is wanted. -/
def subsequent (l : Link (List Nat × δ)) : Reader (Option Nat) → List String
  | .crashed => []
  | .ready => l.lines.drop 1
  | .waiting source => if source = l.monitor then l.lines.drop 1 else l.lines
  | .checking | .holding _ => l.lines

end Link

namespace Watch

variable {m m' : Watch η δ}

/-- The lines that have arrived and may yet be handed on. -/
def pending (m : Watch η δ) : List String :=
  m.readers.flatMap fun place =>
    m.transport.imminent place ++ if m.connected then m.transport.subsequent place else []

/-- Whether a connection has been made anew while the reader waits at the socket of an old one, and
nothing has arrived there. -/
def straddles (m : Watch η δ) : Bool :=
  m.connected && m.readers.any fun
    | .waiting (some n) =>
      m.transport.monitor != some n && (m.transport.world.queueAt n).isEmpty
    | _ => false

/-- The line of an event that is reported while the reader straddles two sockets. -/
def again (m : Watch η δ) : Move η → List String
  | .report event => if m.straddles then [eventLine event] else []
  | _ => []

/-- The lines of the events that some moves report while the reader straddles two sockets. -/
def repeated (t : Transport (Link (List Nat × δ)) (Option Nat)) (m : Watch η δ) :
    List (Move η) → List String
  | [] => []
  | move :: moves =>
    m.again move ++ (Watch.step t m move).elim [] fun (_, m') => repeated t m' moves

lemma pending_of_readers_eq {place : Reader (Option Nat)} (h : m.readers = [place]) :
    m.pending = m.transport.imminent place
      ++ if m.connected then m.transport.subsequent place else [] := by
  rw [pending, h, List.flatMap_singleton]

lemma pending_of_readers_nil (h : m.readers = []) : m.pending = [] := by
  rw [pending, h, List.flatMap_nil]

lemma straddles_iff : m.straddles = true ↔ m.connected = true ∧ ∃ n, .waiting (some n) ∈ m.readers
    ∧ m.transport.monitor ≠ some n ∧ m.transport.world.queueAt n = [] := by
  rw [straddles, Bool.and_eq_true, List.any_eq_true]
  refine and_congr_right fun _ => ⟨?_, ?_⟩
  · rintro ⟨place, hmem, hplace⟩
    split at hplace
    · next n =>
      rw [Bool.and_eq_true, bne_iff_ne, List.isEmpty_iff] at hplace
      exact ⟨n, hmem, hplace⟩
    · cases hplace
  · rintro ⟨n, hmem, hne, hempty⟩
    refine ⟨_, hmem, ?_⟩
    rw [Bool.and_eq_true, bne_iff_ne, List.isEmpty_iff]
    exact ⟨hne, hempty⟩

/-! ### One move -/

/-- Where nothing happens at the sockets that listen, the same lines are to come. -/
private lemma lines_congr (hw : Wired m) (hk : m.transport.Keeps m'.transport) :
    m'.transport.lines = m.transport.lines := by
  unfold Link.lines
  rw [hk.monitor_eq]
  cases hm : m.transport.monitor with
  | none => rfl
  | some n => exact congrArg (List.map eventLine) (hk.hears (hw.hears n hm)).2

private lemma imminent_congr (hw : Wired m) (hk : m.transport.Keeps m'.transport)
    {place : Reader (Option Nat)} (hp : place ∈ m.readers) :
    m'.transport.imminent place = m.transport.imminent place := by
  cases place with
  | ready => exact congrArg (List.take 1) (lines_congr hw hk)
  | waiting source =>
    -- The socket that is waited at listens, so its queue is kept too.
    obtain ⟨n, rfl, hn, -⟩ := hw.waits source hp
    exact congrArg (fun queue => (queue.map eventLine).take 1) (hk.hears hn).2
  | _ => rfl

private lemma subsequent_congr (hw : Wired m) (hk : m.transport.Keeps m'.transport)
    (place : Reader (Option Nat)) :
    m'.transport.subsequent place = m.transport.subsequent place := by
  have hlines := lines_congr hw hk
  cases place with
  | crashed => rfl
  | ready => exact congrArg (List.drop 1) hlines
  | waiting source =>
    rw [Link.subsequent, Link.subsequent, hk.monitor_eq, hlines]
  | _ => exact hlines

private lemma readers_cases (hw : Wired m) :
    m.readers = [] ∨ ∃ place, m.readers = [place] := by
  have hle := hw.single.atMostOne
  match hm : m.readers with
  | [] => exact .inl rfl
  | [place] => exact .inr ⟨place, rfl⟩
  | _ :: _ :: _ =>
    rw [hm] at hle
    simp at hle

private lemma pending_sublist_of_keeps (hw : Wired m) (hr : m'.readers = m.readers)
    (hc : m'.connected = true → m.connected = true) (hk : m.transport.Keeps m'.transport) :
    m'.pending.Sublist m.pending := by
  rcases readers_cases hw with hm | ⟨place, hm⟩
  · rw [pending_of_readers_nil (hr.trans hm)]
    exact List.nil_sublist _
  · rw [pending_of_readers_eq hm, pending_of_readers_eq (hr.trans hm),
      imminent_congr hw hk (hm ▸ List.mem_cons_self), subsequent_congr hw hk]
    refine List.Sublist.append_left ?_ _
    -- A connection can only have been lost, and with it what was to come after.
    split_ifs with h h'
    · exact List.Sublist.refl _
    · exact absurd (hc h) h'
    · exact List.nil_sublist _
    · exact List.Sublist.refl _

/-- Nothing has arrived yet at a socket that is new. -/
private lemma pending_sublist_of_renews (hw : Wired m) {command monitor : Nat}
    (hr : m'.readers = if m.readers = [] then [.checking] else m.readers)
    (hk : m.transport.Renews m'.transport command monitor) : m'.pending.Sublist m.pending := by
  have hlines : m'.transport.lines = [] := by
    rw [Link.lines, hk.monitor_eq]
    exact congrArg (List.map eventLine) hk.queueAt_eq
  have hsub (place : Reader (Option Nat)) : m'.transport.subsequent place = [] := by
    cases place with
    | waiting source =>
      rw [Link.subsequent, hlines, List.drop_nil, ite_self]
    | _ => simp [Link.subsequent, hlines]
  rcases readers_cases hw with hm | ⟨place, hm⟩
  · rw [if_pos hm] at hr
    rw [pending_of_readers_eq hr, hsub, ite_self, List.append_nil]
    exact List.nil_sublist _
  · rw [if_neg (by rw [hm]; exact List.cons_ne_nil _ _)] at hr
    rw [pending_of_readers_eq (hr.trans hm), hsub, ite_self, List.append_nil,
      pending_of_readers_eq hm]
    -- Nothing is to come from the new socket, so what is imminent decides.
    refine List.Sublist.trans ?_ (List.sublist_append_left _ _)
    cases place with
    | ready => simp [Link.imminent, hlines]
    | waiting source =>
      have hmem : .waiting source ∈ m.readers := hm ▸ List.mem_cons_self
      obtain ⟨n, rfl, hn, -⟩ := hw.waits source hmem
      have hheld : n ∈ m.transport.held := by
        rw [hw.held_eq]
        exact List.mem_flatMap.2 ⟨_, hmem, List.mem_singleton.2 rfl⟩
      rw [Link.imminent, Link.linesAt, (hk.hears hn hheld).2]
      exact List.Sublist.refl _
    | _ => exact List.Sublist.refl _

/-- The line that a reader receives was to be handed on, and still is. -/
private lemma pending_of_arrive (hw : Wired m) {n : Nat} {event : List UInt8}
    {queue : List (List UInt8)} (hr : m.readers = [.waiting (some n)])
    (hq : m.transport.world.queueAt n = event :: queue)
    (hr' : m'.readers = [.holding (eventLine event)]) (hc' : m'.connected = m.connected)
    (ht : m'.transport
      = .release (some n) { m.transport with world := m.transport.world.setQueue n queue }) :
    m'.pending = m.pending := by
  obtain ⟨n', hn', hn, -⟩ := hw.waits (some n) (hr ▸ List.mem_cons_self)
  cases hn'
  obtain ⟨-, -, hmonitor, hkeeps⟩ := hw.release_arrive hr ht
  -- What was to come after the line that is received is now all that is to come: the rest of the
  -- same queue, or the queue of the socket that has replaced it.
  have hlines : m'.transport.lines = m.transport.subsequent (.waiting (some n)) := by
    rw [Link.lines, hmonitor, Link.subsequent, Link.lines]
    cases hk : m.transport.monitor with
    | none => rfl
    | some k =>
      have hqk := (hkeeps k hk).2
      by_cases hkn : k = n
      · subst hkn
        rw [if_pos rfl]
        simp [Link.linesAt, hqk, hq, hn.listens.connected.queueAt_setQueue]
      · rw [if_neg (by simpa using Ne.symm hkn)]
        have hu := World.Untouched.setQueue hkn m.transport.world queue
        exact congrArg (List.map eventLine) (hqk.trans hu.queueAt_eq)
  rw [pending_of_readers_eq hr, pending_of_readers_eq hr', hc', ← hlines]
  simp [Link.imminent, Link.subsequent, Link.linesAt, hq]

private lemma count_take_one_append (lines : List String) (line x : String) :
    ((lines ++ [x]).take 1).count line ≤ (lines.take 1).count line + [x].count line := by
  cases lines with
  | nil => simp
  | cons first lines => simp

/-- Of a queue a reader takes the first line for sure, and the others if it is wanted. -/
private lemma count_queue_append (wanted : Bool) (lines : List String) (line x : String) :
    ((lines ++ [x]).take 1 ++ if wanted then (lines ++ [x]).drop 1 else []).count line
      ≤ (lines.take 1 ++ if wanted then lines.drop 1 else []).count line + [x].count line := by
  cases wanted with
  | true =>
    simp only [if_true, List.take_append_drop, List.count_append]
    exact Nat.le_refl _
  | false =>
    simp only [Bool.false_eq_true, if_false, List.append_nil]
    exact count_take_one_append lines line x

/-- An event arrives at the socket for events and at the one that the reader waits at. -/
private lemma count_pending_report (hw : Wired m) (event : List UInt8) (line : String)
    (hr' : m'.readers = m.readers) (hc' : m'.connected = m.connected)
    (ht : m'.transport = { m.transport with world := m.transport.world.report event }) :
    m'.pending.count line ≤ m.pending.count line + [eventLine event].count line
      + (m.again (.report event)).count line := by
  have hmonitor : m'.transport.monitor = m.transport.monitor := by rw [ht]
  have hat : ∀ n, m.transport.Hears n →
      m'.transport.linesAt n = m.transport.linesAt n ++ [eventLine event] := by
    intro n hn
    rw [ht, Link.linesAt, hn.listens.queueAt_report, List.map_append]
    rfl
  have hlines : ∀ n, m.transport.monitor = some n →
      m'.transport.lines = m.transport.lines ++ [eventLine event] := by
    intro n hn
    rw [Link.lines, hmonitor, hn, Link.lines, hn]
    exact hat n (hw.hears n hn)
  -- Where the event counts depends on the place of the reader; only one that waits can have two
  -- sockets.
  rcases readers_cases hw with hm | ⟨place, hm⟩
  · rw [pending_of_readers_nil (hr'.trans hm)]
    exact Nat.zero_le _
  · rw [pending_of_readers_eq (hr'.trans hm), pending_of_readers_eq hm, hc']
    have hpresent := hw.present
    rw [hm] at hpresent
    cases place with
    | crashed => simp [Link.imminent, Link.subsequent]
    | ready =>
      -- The next line is taken from the socket of the link, wanted or not.
      obtain ⟨n, hn⟩ := hpresent (.inr List.mem_cons_self)
      have hle := count_queue_append m.connected m.transport.lines line (eventLine event)
      rw [Link.imminent, Link.subsequent, Link.imminent, Link.subsequent, hlines n hn]
      omega
    | checking | holding =>
      cases hc : m.connected with
      | false =>
        simp only [Link.imminent, Bool.false_eq_true, if_false, List.count_append, List.count_nil]
        omega
      | true =>
        obtain ⟨n, hn⟩ := hpresent (.inl hc)
        rw [Link.imminent, Link.subsequent, Link.imminent, Link.subsequent, hlines n hn]
        simp only [if_true, List.count_append]
        omega
    | waiting source =>
      obtain ⟨n, rfl, hn, -⟩ := hw.waits source (hm ▸ List.mem_cons_self)
      by_cases hsame : some n = m.transport.monitor
      · -- One socket: the event goes behind what has arrived there.
        have hle := count_queue_append m.connected m.transport.lines line (eventLine event)
        have hn' : m.transport.linesAt n = m.transport.lines := by
          rw [Link.lines, ← hsame]
          rfl
        rw [Link.imminent, Link.subsequent, Link.imminent, Link.subsequent, hmonitor,
          if_pos hsame, if_pos hsame, hat n hn, hlines n hsame.symm, hn']
        omega
      · rw [Link.imminent, Link.subsequent, Link.imminent, Link.subsequent, hmonitor,
          if_neg hsame, if_neg hsame, hat n hn]
        have hle := count_take_one_append (m.transport.linesAt n) line (eventLine event)
        -- The event arrives at both sockets. It will be read from the second only with a
        -- connection, and from the first only if it is the oldest there: then the reader
        -- straddles the two.
        cases hc : m.connected with
        | false =>
          simp only [Bool.false_eq_true, if_false, List.append_nil]
          omega
        | true =>
          obtain ⟨k, hk⟩ := hpresent (.inl hc)
          rw [hlines k hk]
          simp only [if_true, List.count_append]
          cases hq : m.transport.world.queueAt n with
          | nil =>
            have hstraddles : m.straddles = true :=
              straddles_iff.2 ⟨hc, n, hm ▸ List.mem_cons_self, Ne.symm hsame, hq⟩
            rw [again, if_pos hstraddles]
            omega
          | cons first queue =>
            simp only [Link.linesAt, hq, List.map_cons, List.cons_append, List.take_succ_cons,
              List.take_zero]
            omega

/-- A move hands on what was to be handed on or what it brings itself, and an event that is reported
while the reader straddles two sockets is to be handed on once more. -/
private lemma count_of_passage (hw : Wired m) {move : Move η} {lines : List String}
    (h : Passage m move lines m') (line : String) :
    lines.count line + m'.pending.count line
      ≤ m.pending.count line + move.line?.toList.count line + (m.again move).count line := by
  cases h with
  | @keep action m' hr hc hk =>
    have hle := (pending_sublist_of_keeps hw hr hc hk).count_le line
    omega
  | @renew interface m' command monitor hc hr hk =>
    -- What had arrived at the old socket of the link is lost, so nothing is gained.
    have hle := (pending_sublist_of_renews hw hr hk).count_le line
    simp only [List.count_nil]
    omega
  | check hr hc hr' hc' ht =>
    have heq : m'.pending = m.pending := by
      rw [pending_of_readers_eq hr, pending_of_readers_eq hr', hc', hc, ht]
      simp only [Link.imminent, Link.subsequent, if_true, List.take_append_drop, List.nil_append]
    rw [heq, List.count_nil]
    omega
  | @await i n m' hr hm hr' hc' ht =>
    have heq : m'.pending = m.pending := by
      rw [pending_of_readers_eq hr, pending_of_readers_eq hr', hc', ht]
      simp [Link.imminent, Link.subsequent, Link.lines, Link.linesAt, hm]
    rw [heq, List.count_nil]
    omega
  | @arrive i n event queue m' hr hq hr' hc' ht =>
    rw [pending_of_arrive hw hr hq hr' hc' ht, List.count_nil]
    omega
  | crash hr hr' hc' ht | handleCrash hr hr' hc' hk =>
    -- A reader that has crashed hands nothing on any more.
    have hnil : m'.pending = [] := by
      rw [pending_of_readers_eq hr']
      simp [Link.imminent, Link.subsequent]
    rw [hnil, List.count_nil]
    omega
  | handle hr hr' hc' hk =>
    -- The line in hand is handed on, and the others stay where they are.
    rw [pending_of_readers_eq hr, pending_of_readers_eq hr', hc']
    simp only [Link.imminent, Link.subsequent, lines_congr hw hk, List.nil_append,
      List.count_append]
    omega
  | @finish action place m' hr hp hr' hc' hn ht =>
    -- All that is left to be handed on is the line in hand, if the reader has one.
    have hsub : place.inHand.Sublist (m.transport.imminent place) := by
      cases place with
      | holding line => exact .refl _
      | _ => exact List.nil_sublist _
    have hle := hsub.count_le line
    rw [pending_of_readers_nil hr', pending_of_readers_eq hr, List.count_nil, List.count_append]
    omega
  | report event =>
    rw [List.count_nil, Nat.zero_add]
    exact count_pending_report hw event line rfl rfl rfl

/-! ### Runs -/

/-- A run of some moves is a move and a run of the others. -/
lemma steps_cons_eq_some_iff {t : Transport (Link (List Nat × δ)) (Option Nat)} {move : Move η}
    {moves : List (Move η)} {lines : List String} :
    m.steps t (move :: moves) = some (lines, m')
      ↔ ∃ lines₁ m₁ lines₂, Watch.step t m move = some (lines₁, m₁)
        ∧ m₁.steps t moves = some (lines₂, m') ∧ lines = lines₁ ++ lines₂ := by
  constructor
  · intro h
    simp only [steps, Option.bind_eq_bind, Option.bind_eq_some_iff, Option.pure_def,
      Option.some.injEq, Prod.mk.injEq] at h
    obtain ⟨⟨lines₁, m₁⟩, h₁, ⟨lines₂, m₂⟩, h₂, rfl, rfl⟩ := h
    exact ⟨lines₁, m₁, lines₂, h₁, h₂, rfl⟩
  · rintro ⟨lines₁, m₁, lines₂, h₁, h₂, rfl⟩
    simp [steps, h₁, h₂]

/-- A run of some moves and then of others is a run of all of them. -/
lemma steps_append {t : Transport (Link (List Nat × δ)) (Option Nat)} {moves moves' : List (Move η)}
    {lines lines' : List String} {m'' : Watch η δ} (h : m.steps t moves = some (lines, m'))
    (h' : m'.steps t moves' = some (lines', m'')) :
    m.steps t (moves ++ moves') = some (lines ++ lines', m'') := by
  induction moves generalizing m lines with
  | nil =>
    cases h
    exact h'
  | cons move moves ih =>
    obtain ⟨lines₁, m₁, lines₂, h₁, h₂, rfl⟩ := steps_cons_eq_some_iff.1 h
    rw [List.cons_append, List.append_assoc]
    exact steps_cons_eq_some_iff.2 ⟨lines₁, m₁, _, h₁, ih h₂, rfl⟩

lemma repeated_append {t : Transport (Link (List Nat × δ)) (Option Nat)} {moves : List (Move η)}
    {lines : List String} (h : m.steps t moves = some (lines, m')) (moves' : List (Move η)) :
    repeated t m (moves ++ moves') = repeated t m moves ++ repeated t m' moves' := by
  induction moves generalizing m lines with
  | nil =>
    cases h
    rfl
  | cons move moves ih =>
    obtain ⟨lines₁, m₁, lines₂, h₁, h₂, rfl⟩ := steps_cons_eq_some_iff.1 h
    rw [List.cons_append, repeated, repeated, h₁, List.append_assoc]
    exact congrArg (m.again move ++ ·) (ih h₂)

/-- Only a line that some moves bring is ever repeated. -/
lemma mem_line?_of_mem_repeated {t : Transport (Link (List Nat × δ)) (Option Nat)}
    {moves : List (Move η)} {line : String} (h : line ∈ repeated t m moves) :
    line ∈ moves.filterMap Move.line? := by
  induction moves generalizing m with
  | nil => cases h
  | cons move moves ih =>
    rw [repeated, List.mem_append] at h
    rcases h with h | h
    · cases move with
      | report event =>
        rw [again] at h
        split_ifs at h
        · cases List.mem_singleton.1 h
          exact List.mem_filterMap.2 ⟨.report event, List.mem_cons_self, rfl⟩
        · cases h
      | _ => cases h
    · cases hstep : Watch.step t m move with
      | none =>
        rw [hstep] at h
        cases h
      | some result =>
        rw [hstep] at h
        obtain ⟨move', hmem, hline⟩ := List.mem_filterMap.1 (ih h)
        exact List.mem_filterMap.2 ⟨move', List.mem_cons_of_mem _ hmem, hline⟩

lemma count_repeated_eq_zero {t : Transport (Link (List Nat × δ)) (Option Nat)}
    {moves : List (Move η)} {line : String} (h : line ∉ moves.filterMap Move.line?) :
    (repeated t m moves).count line = 0 :=
  List.count_eq_zero.2 fun hmem => h (mem_line?_of_mem_repeated hmem)

/-- A run hands on what was to be handed on or what it brings itself, and events that are reported
while the reader straddles two sockets once more. -/
lemma count_of_steps (hw : Wired m) {moves : List (Move η)} {lines : List String}
    (h : m.steps (Link.transport (attaching react) timeout) moves = some (lines, m'))
    (line : String) :
    Wired m' ∧ lines.count line + m'.pending.count line
      ≤ m.pending.count line + (moves.filterMap Move.line?).count line
        + (repeated (Link.transport (attaching react) timeout) m moves).count line := by
  induction moves generalizing m lines with
  | nil =>
    cases h
    exact ⟨hw, by simp⟩
  | cons move moves ih =>
    obtain ⟨lines₁, m₁, lines₂, h₁, h₂, rfl⟩ := steps_cons_eq_some_iff.1 h
    have hle₁ := count_of_passage hw (.of_step hw h₁) line
    obtain ⟨hw', hle₂⟩ := ih (hw.of_step h₁) h₂
    have hmoves : ((move :: moves).filterMap Move.line?).count line
        = move.line?.toList.count line + (moves.filterMap Move.line?).count line := by
      rw [List.filterMap_cons]
      cases move.line? <;> simp [List.count_cons, Nat.add_comm]
    refine ⟨hw', ?_⟩
    rw [hmoves, repeated, h₁, List.count_append, List.count_append]
    dsimp only [Option.elim_some]
    omega

/-! ### The reader goes on -/

section

variable (react timeout)

private lemma signal_of_classifies {line : String} {classified : Classified}
    {classifier : Classifier} {transport : Link (List Nat × δ)}
    (h : m.Classifies (Link.transport (attaching react) timeout) line classified classifier
      transport) (hn : ¬ReportsTermination line) : classified.signal = .goOn := by
  obtain ⟨exchanges, hrun⟩ := h
  have hsettles := Classifier.settles_classify (Link.transport (attaching react) timeout).query
    m.transport m.classifier m.registry.isRegistered line
  rw [hrun] at hsettles
  refine hsettles.signal_of_not_isTermination ?_
  intro text htext ht
  obtain ⟨⟨interface, text'⟩, hresolve, rfl⟩ := Option.map_eq_some_iff.1 htext
  exact hn ⟨_, _, interface, text', hresolve, ht⟩

private lemma exists_arrive {n : Nat} {event : List UInt8} {queue : List (List UInt8)}
    (hr : m.readers = [.waiting (some n)])
    (hq : m.transport.world.queueAt n = event :: queue) :
    ∃ m', Watch.step (Link.transport (attaching react) timeout) m (.arrive 0) = some ([], m') := by
  have hreceive := World.receive?_eq_some_iff.2 ⟨event, queue, hq, rfl, rfl⟩
  have hline : m.transport.lineFrom? (some n) = some (eventLine event,
      { m.transport with world := m.transport.world.setQueue n queue }) := by
    rw [Link.lineFrom?, hreceive]
    rfl
  obtain ⟨m', harrive⟩ :
      ∃ m', m.arrive? (Link.transport (attaching react) timeout) 0 = some m' := by
    simp [arrive?, hr, hline]
  exact ⟨m', Option.map_eq_some_iff.2 ⟨m', harrive, rfl⟩⟩

private lemma exists_handle {line : String} (hr : m.readers = [.holding line]) :
    ∃ m', Watch.step (Link.transport (attaching react) timeout) m (.act (.handle 0))
        = some ([line], m')
      ∧ (¬ReportsTermination line → m'.readers = [.checking] ∧ m'.connected = m.connected
        ∧ m.transport.Keeps m'.transport) := by
  obtain ⟨classified, classifier, transport, h, hl⟩ :=
    Monitor.exists_classifies (Link.transport (attaching react) timeout) m line
  have hr₀ : m.readers[0]? = some (.holding line) := by rw [hr, List.getElem?_cons_zero]
  refine ⟨(m.handle (Link.transport (attaching react) timeout) 0 line).2,
    step_act_eq_some_iff.2 ⟨by simp, handedOn_handle hr₀,
      (m.handle (Link.transport (attaching react) timeout) 0 line).1, ?_⟩, ?_⟩
  · rw [Monitor.step, hr₀]
  · intro hn
    rw [Monitor.handle, hl, signal_of_classifies react timeout h hn]
    exact ⟨set_readers hr _, rfl, keeps_of_classifies h⟩

private lemma exists_await {k : Nat} (hr : m.readers = [.checking]) (hc : m.connected = true)
    (hk : m.transport.monitor = some k) :
    ∃ m', m.steps (Link.transport (attaching react) timeout)
        [.act (.check 0), .act (.await 0)] = some ([], m')
      ∧ m'.readers = [.waiting (some k)] ∧ m'.transport.world = m.transport.world := by
  have hr₀ : m.readers[0]? = some .checking := by rw [hr, List.getElem?_cons_zero]
  have hcheck : Watch.step (Link.transport (attaching react) timeout) m (.act (.check 0))
      = some ([], m.moveReader 0 .ready) := by
    refine step_act_eq_some_iff.2 ⟨by simp, rfl, [], ?_⟩
    rw [Monitor.step, hr₀, Monitor.check, if_pos hc]
  have hready : (m.moveReader 0 .ready).readers = [.ready] := set_readers hr _
  have hready₀ : (m.moveReader 0 .ready).readers[0]? = some .ready := by
    rw [hready, List.getElem?_cons_zero]
  have hawait : Watch.step (Link.transport (attaching react) timeout) (m.moveReader 0 .ready)
      (.act (.await 0))
      = some ([], (m.moveReader 0 .ready).await (Link.transport (attaching react) timeout) 0) := by
    refine step_act_eq_some_iff.2 ⟨by simp, rfl, [], ?_⟩
    rw [Monitor.step, hready₀]
  refine ⟨(m.moveReader 0 .ready).await (Link.transport (attaching react) timeout) 0, ?_, ?_, ?_⟩
  · exact steps_cons_eq_some_iff.2 ⟨[], _, [], hcheck,
      steps_cons_eq_some_iff.2 ⟨[], _, [], hawait, rfl, rfl⟩, rfl⟩
  · exact (set_readers hready _).trans (congrArg (fun source => [Reader.waiting source]) hk)
  · rfl

/-- A reader that waits at a socket where something has arrived receives it, hands it on, and waits
at the socket of the link then. -/
private lemma exists_round (hw : Wired m) {n k : Nat} {event : List UInt8}
    {queue : List (List UInt8)} (hc : m.connected = true) (hr : m.readers = [.waiting (some n)])
    (hq : m.transport.world.queueAt n = event :: queue) (hk : m.transport.monitor = some k)
    (hne : n ≠ k) (hn : ¬ReportsTermination (eventLine event)) :
    ∃ m', m.steps (Link.transport (attaching react) timeout)
        [.arrive 0, .act (.handle 0), .act (.check 0), .act (.await 0)]
        = some ([eventLine event], m')
      ∧ m'.readers = [.waiting (some k)]
      ∧ m'.transport.world.queueAt k = m.transport.world.queueAt k := by
  obtain ⟨m₁, h₁⟩ := exists_arrive react timeout hr hq
  have hw₁ := hw.of_step h₁
  obtain ⟨hr₁, hc₁, hk₁, hq₁⟩ : m₁.readers = [.holding (eventLine event)]
      ∧ m₁.connected = m.connected ∧ m₁.transport.monitor = some k
      ∧ m₁.transport.world.queueAt k = m.transport.world.queueAt k := by
    -- The inversion says what the receipt leaves behind at the other socket.
    cases Passage.of_step hw h₁ with
    | arrive hwaiting hqueue hr' hc' ht =>
      cases hr.symm.trans hwaiting
      cases hq.symm.trans hqueue
      obtain ⟨-, -, hmonitor, hkeeps⟩ := hw.release_arrive hr ht
      refine ⟨hr', hc', hmonitor.trans hk, (hkeeps k hk).2.trans ?_⟩
      exact (World.Untouched.setQueue (Ne.symm hne) _ _).queueAt_eq
  obtain ⟨m₂, h₂, hgo⟩ := exists_handle react timeout hr₁
  obtain ⟨hr₂, hc₂, hkeeps⟩ := hgo hn
  obtain ⟨m₃, h₃, hr₃, hworld⟩ := exists_await react timeout hr₂ (hc₂.trans (hc₁.trans hc))
    (hkeeps.monitor_eq.trans hk₁)
  refine ⟨m₃, ?_, hr₃, ?_⟩
  · exact steps_cons_eq_some_iff.2 ⟨[], m₁, _, h₁,
      steps_cons_eq_some_iff.2 ⟨[eventLine event], m₂, [], h₂, h₃, rfl⟩, rfl⟩
  · rw [hworld, (hkeeps.hears (hw₁.hears k hk₁)).2, hq₁]

/-- What the reader does to an event that it receives from two sockets. -/
def twoRounds (η : Type) : List (Move η) :=
  [.arrive 0, .act (.handle 0), .act (.check 0), .act (.await 0), .arrive 0, .act (.handle 0)]

/-- An event that is reported while the reader straddles two sockets can be handed on twice. -/
private lemma exists_twice (hw : Wired m) (hs : m.straddles = true) {event : List UInt8}
    (hn : ¬ReportsTermination (eventLine event)) :
    ∃ m', m.steps (Link.transport (attaching react) timeout) (.report event :: twoRounds η)
      = some ([eventLine event, eventLine event], m') := by
  obtain ⟨hc, n, hmem, hne, hempty⟩ := straddles_iff.1 hs
  obtain ⟨k, hk⟩ := hw.present (.inl hc)
  rcases readers_cases hw with hnil | ⟨place, hr⟩
  · rw [hnil] at hmem
    cases hmem
  rw [hr] at hmem
  cases List.mem_singleton.1 hmem
  obtain ⟨n', hn', hears, hbehind⟩ := hw.waits (some n) (hr ▸ List.mem_cons_self)
  cases hn'
  have hreport : Watch.step (Link.transport (attaching react) timeout) m (.report event)
      = some ([], { m with transport.world := m.transport.world.report event }) := rfl
  have hw₁ := hw.of_step hreport
  have hqn := hears.listens.queueAt_report event
  rw [hempty, List.nil_append] at hqn
  -- Nothing has arrived at the second socket either, so the event is alone at both.
  have hqk := (hw.hears k hk).listens.queueAt_report event
  rw [hbehind hempty k hk, List.nil_append] at hqk
  obtain ⟨m₂, h₂, hr₂, hq₂⟩ := exists_round react timeout hw₁ hc hr hqn hk
    (fun h => hne (h ▸ hk)) hn
  have hw₂ := (count_of_steps hw₁ h₂ (eventLine event)).1
  have hq₂' := hq₂.trans hqk
  -- The second receipt, from the socket of the link.
  obtain ⟨m₃, h₃⟩ := exists_arrive react timeout hr₂ hq₂'
  have hr₃ : m₃.readers = [.holding (eventLine event)] := by
    cases Passage.of_step hw₂ h₃ with
    | arrive hwaiting hqueue hr' =>
      cases hr₂.symm.trans hwaiting
      cases hq₂'.symm.trans hqueue
      exact hr'
  obtain ⟨m₄, h₄, -⟩ := exists_handle react timeout hr₃
  have hlast : m₂.steps (Link.transport (attaching react) timeout)
      [.arrive 0, .act (.handle 0)] = some ([eventLine event], m₄) :=
    steps_cons_eq_some_iff.2 ⟨[], m₃, [eventLine event], h₃,
      steps_cons_eq_some_iff.2 ⟨[eventLine event], m₄, [], h₄, rfl, rfl⟩, rfl⟩
  exact ⟨m₄, steps_cons_eq_some_iff.2 ⟨[], _, _, hreport, steps_append h₂ hlast, rfl⟩⟩

end

/-! ### A start while the reader still waits -/

/-- The daemon that has nothing to say but to the sockets that are attached. -/
def quiet : Reaction Unit :=
  fun state _ _ => ([], state)

/-- Everything is stopped and started again while the reader waits. -/
def restart : List (Move Nat) :=
  [.act (.start "wlan0"), .act (.check 0), .act (.await 0), .act .stopAll, .act (.start "wlan0")]

/-- The report that a scan is over. -/
def scanResults : List UInt8 :=
  Utf8.encode "<3>CTRL-EVENT-SCAN-RESULTS ".toList

lemma not_reportsTermination_scanResults : ¬ReportsTermination (eventLine scanResults) := by
  rintro ⟨config, isRegistered, interface, text, hresolve, -, hname⟩
  have hline : Classifier.withoutLineEnd (eventLine scanResults)
      = "CTRL-EVENT-SCAN-RESULTS ".toList := by decide +kernel
  have hmark : List.isPrefixOf? interfaceMark.toList "CTRL-EVENT-SCAN-RESULTS ".toList = none := by
    decide +kernel
  rw [Classifier.resolve?, hline, hmark] at hresolve
  cases hresolve
  revert hname
  decide +kernel

/-- In whatever order callers and the reader go through their sections and events are reported, no
line is handed on more often than it was brought, but for the events that were reported while the
reader straddled two sockets. And whenever it does, an event that is reported can be handed on
twice. -/
theorem handedOn_twice_iff {config : Config} {state : δ} {past : List (Move η)}
    {lines : List String}
    (h : (new config state : Watch η δ).steps (Link.transport (attaching react) timeout) past
      = some (lines, m)) :
    (∀ line, lines.count line ≤ (past.filterMap Move.line?).count line
        + (repeated (Link.transport (attaching react) timeout) (new config state) past).count line)
      ∧ ∀ event, eventLine event ∉ past.filterMap Move.line? →
        ¬ReportsTermination (eventLine event) →
        (m.straddles = true ↔ ∃ moves lines' m',
          (new config state).steps (Link.transport (attaching react) timeout)
              (past ++ .report event :: moves) = some (lines', m')
            ∧ eventLine event ∉ moves.filterMap Move.line?
            ∧ 1 < lines'.count (eventLine event)) := by
  have hnew : Wired (new config state : Watch η δ) := .new config state
  have hpending : (new config state : Watch η δ).pending = [] := rfl
  refine ⟨?_, ?_⟩
  · intro line
    have hle := (count_of_steps hnew h line).2
    rw [hpending, List.count_nil] at hle
    omega
  · intro event hfresh hn
    constructor
    · intro hs
      have hw := (count_of_steps hnew h (eventLine event)).1
      -- The reader takes the event from the socket that it waits at and then from the new one.
      obtain ⟨m', htwice⟩ := exists_twice react timeout hw hs hn
      refine ⟨twoRounds η, _, m', steps_append h htwice, by simp [twoRounds, Move.line?], ?_⟩
      simp [List.count_append]
    · rintro ⟨moves, lines', m', hrun, hafter, hcount⟩
      by_contra hs
      -- The event is reported once in the whole run, and then nothing is repeated.
      have hle := (count_of_steps hnew hrun (eventLine event)).2
      have hbrought : ((past ++ .report event :: moves).filterMap Move.line?).count
          (eventLine event) = 1 := by
        rw [List.filterMap_append, List.count_append, List.count_eq_zero.2 hfresh,
          List.filterMap_cons_some (rfl : Move.line? (.report event : Move η) = _),
          List.count_cons_self, List.count_eq_zero.2 hafter]
      have hrepeated : (repeated (Link.transport (attaching react) timeout) (new config state)
          (past ++ .report event :: moves)).count (eventLine event) = 0 := by
        rw [repeated_append h, List.count_append, repeated, again, if_neg hs, List.nil_append]
        exact congrArg₂ (· + ·) (count_repeated_eq_zero hfresh) (count_repeated_eq_zero hafter)
      rw [hpending, List.count_nil, hbrought, hrepeated] at hle
      omega

/-- After a restart in the middle of a wait the watch reads from both sockets, and a report that
comes then can be handed on twice. -/
theorem handedOn_twice_iff_restart :
    ∃ m : Watch Nat Unit, (new {} ()).steps (Link.transport (attaching quiet) 1000) restart
        = some ([], m)
      ∧ m.straddles = true
      ∧ ∃ moves lines m', (new {} ()).steps (Link.transport (attaching quiet) 1000)
          (restart ++ .report scanResults :: moves) = some (lines, m')
        ∧ eventLine scanResults ∉ moves.filterMap Move.line?
        ∧ 1 < lines.count (eventLine scanResults) := by
  have hstraddles : ((new {} () : Watch Nat Unit).steps (Link.transport (attaching quiet) 1000)
      restart).map (fun result => (result.1, result.2.straddles)) = some ([], true) := by
    decide +kernel
  obtain ⟨⟨lines, m⟩, hsteps, heq⟩ := Option.map_eq_some_iff.1 hstraddles
  obtain ⟨rfl, hs⟩ := Prod.ext_iff.1 heq
  have hfresh : eventLine scanResults ∉ restart.filterMap Move.line? := by decide +kernel
  obtain ⟨-, htwice⟩ := handedOn_twice_iff hsteps
  exact ⟨m, hsteps, hs,
    (htwice scanResults hfresh not_reportsTermination_scanResults).1 hs⟩

/-- A scan that is reported once is handed on twice. -/
theorem scanResults_handed_on_twice :
    ∃ m : Watch Nat Unit, (new {} ()).steps (Link.transport (attaching quiet) 1000)
        (restart ++ .report scanResults :: twoRounds Nat)
        = some (["CTRL-EVENT-SCAN-RESULTS ", "CTRL-EVENT-SCAN-RESULTS "], m)
      ∧ reports scanResults (restart ++ .report scanResults :: twoRounds Nat) = 1 := by
  have hlines : ((new {} () : Watch Nat Unit).steps (Link.transport (attaching quiet) 1000)
      (restart ++ .report scanResults :: twoRounds Nat)).map (·.1)
      = some ["CTRL-EVENT-SCAN-RESULTS ", "CTRL-EVENT-SCAN-RESULTS "] := by
    decide +kernel
  obtain ⟨⟨lines, m⟩, hsteps, rfl⟩ := Option.map_eq_some_iff.1 hlines
  exact ⟨m, hsteps, by decide +kernel⟩

end Watch

end Socket

end SupplicantWatch
