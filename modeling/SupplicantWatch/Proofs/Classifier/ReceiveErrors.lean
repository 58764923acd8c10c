import Mathlib.Data.List.Induction
import Mathlib.Tactic.Common
import SupplicantWatch.Proofs.Classifier.Judgement

/-!
# The receive errors of a run

A classifier does not remember the lines that it was given, only how many receive errors there were
since it last accepted one. Here a record of every line is kept beside it, and the receive errors
are counted on that record. Main statement: `receiveErrors_runOn`, the classifier's count is the
count on record, and the lines that end the connection are those that this count says.
-/

namespace SupplicantWatch.Classifier

open Control (IsSilent IsTermination)

variable {σ : Type}

/-- What is done to a classifier: it has to forget its receive errors, or is given a line. -/
inductive Input where
  | reset
  | line (isRegistered : String → Bool) (raw : String)

/-- Whether an input is a line. -/
def Input.isLine : Input → Bool
  | reset => false
  | line .. => true

/-- What is on record of an input: of a line the text that is about its interface, none if it was
malformed, and what became of it. -/
inductive Record where
  | reset
  | line (text : Option (List Char)) (classified : Classified)
deriving DecidableEq

namespace Record

/-- Whether a new count begins: on demand, or because a line was accepted, which means that it had
an ordinary event or is known and silent. -/
def clears : Record → Bool
  | reset => true
  | line text classified =>
    (classified.signal = .goOn && classified.event.isSome) || text.any fun text => IsSilent text

/-- Whether a line was a receive error. -/
def isReceiveError : Record → Bool
  | reset => false
  | line text _ => text.any fun text => Control.IsReceiveError text

end Record

/-- The receive errors since the latest reset or accepted line, of records with the latest first. -/
def errorsSince (past : List Record) : Nat :=
  (past.takeWhile fun record => !record.clears).countP Record.isReceiveError

/-- A line that has no say in the count: it is malformed, of no family, a control event with an
empty or unknown name, of another family but without an event, or a termination for another
reason. -/
def IsNeutral (classified : Classified) : Option (List Char) → Prop
  | none => True
  | some text =>
    Family.of? text = none
      ∨ (Control.mark <+: text ∧ ∀ row ∈ Control.Kind.table, row.1.toList ≠ Control.nameOf text)
      ∨ ((∃ family, Family.of? text = some family ∧ family ≠ .control) ∧ classified.event = none)
      ∨ (IsTermination text ∧ ¬Control.IsReceiveError text)

/-- A classifier with its daemon and what is on record, the latest first. -/
structure Run (σ : Type) where
  classifier : Classifier
  daemon : σ
  past : List Record

/-- The run after one more input. -/
def Run.feed (daemon : Daemon σ) (run : Run σ) : Input → Run σ
  | .reset => ⟨run.classifier.resetReceiveErrors, run.daemon, .reset :: run.past⟩
  | .line isRegistered raw =>
    let resolved := resolve? run.classifier.config isRegistered (withoutLineEnd raw)
    let ((classified, classifier), _, state) :=
      (run.classifier.classify isRegistered raw).run daemon run.daemon
    ⟨classifier, state, .line (resolved.map (·.2)) classified :: run.past⟩

/-- The run of a new classifier on some inputs. -/
def runOn (daemon : Daemon σ) (config : Config) (state : σ) (inputs : List Input) : Run σ :=
  inputs.foldl (Run.feed daemon) ⟨new config, state, []⟩

/-! ### One line -/

/-- What a line may do to a classifier: the text about its interface, what becomes of it, and the
classifier after it. -/
inductive Settles (c : Classifier) : Option (List Char) → Classified → Classifier → Prop where
  | malformed : Settles c none ⟨none, none, .goOn⟩ c
  | judged (interface : String) {text : List Char} {verdict : Verdict}
      (hv : Judges text verdict) :
    Settles c (some text) ((c.remember interface text).settle interface verdict).1
      ((c.remember interface text).settle interface verdict).2

lemma config_remember (c : Classifier) (interface : String) (text : List Char) :
    (c.remember interface text).config = c.config := by
  rw [remember]
  split_ifs <;> rfl

lemma receiveErrors_remember (c : Classifier) (interface : String) (text : List Char) :
    (c.remember interface text).receiveErrors = c.receiveErrors := by
  rw [remember]
  split_ifs <;> rfl

lemma settles_classify (daemon : Daemon σ) (state : σ) (c : Classifier)
    (isRegistered : String → Bool) (raw : String) :
    Settles c ((resolve? c.config isRegistered (withoutLineEnd raw)).map (·.2))
      ((c.classify isRegistered raw).run daemon state).1.1
      ((c.classify isRegistered raw).run daemon state).1.2 := by
  rw [classify]
  cases resolve? c.config isRegistered (withoutLineEnd raw) with
  | none => exact .malformed
  | some resolved =>
    obtain ⟨interface, text⟩ := resolved
    dsimp only
    rw [Dialogue.run_bind]
    exact .judged interface ((judges_verdict _ interface text).run daemon state)

/-- The number of receive errors after a verdict. -/
def count (n : Nat) : Verdict → Nat
  | .event _ => 0
  | .silent => 0
  | .receiveError => n + 1
  | .closed => n
  | .unrecognized => n

lemma receiveErrors_settle {c : Classifier} (h : c.receiveErrors + 1 < UInt32.size)
    (interface : String) (verdict : Verdict) :
    (c.settle interface verdict).2.receiveErrors = count c.receiveErrors verdict := by
  cases verdict with
  | receiveError =>
    rw [settle, count, Nat.mod_eq_of_lt h]
    split_ifs <;> rfl
  | _ => rfl

lemma config_settle (c : Classifier) (interface : String) (verdict : Verdict) :
    (c.settle interface verdict).2.config = c.config := by
  cases verdict with
  | receiveError =>
    rw [settle]
    split_ifs <;> rfl
  | _ => rfl

/-- A verdict ends the connection if the supplicant did, or with one receive error too many. -/
lemma signal_settle {c : Classifier} (h : c.receiveErrors + 1 < UInt32.size) (interface : String)
    (verdict : Verdict) :
    (c.settle interface verdict).1.signal = .terminate
      ↔ verdict = .closed
        ∨ verdict = .receiveError ∧ c.config.maxReceiveErrors < count c.receiveErrors verdict := by
  cases verdict with
  | closed => exact iff_of_true rfl (.inl rfl)
  | receiveError =>
    -- Below the bound the count cannot have wrapped around.
    rw [settle, count, Nat.mod_eq_of_lt h]
    split_ifs with hle
    · refine iff_of_false nofun ?_
      rintro (h | ⟨-, h⟩)
      · cases h
      · exact Nat.not_lt.2 hle h
    · exact iff_of_true rfl (.inr ⟨rfl, Nat.lt_of_not_le hle⟩)
  | _ =>
    refine iff_of_false nofun ?_
    rintro (h | ⟨h, -⟩)
    · cases h
    · cases h

/-- A line that ends the connection is for every interface and reports the disconnection. -/
lemma settle_of_terminate {c : Classifier} {interface : String} {verdict : Verdict}
    (h : (c.settle interface verdict).1.signal = .terminate) :
    (c.settle interface verdict).1 = ⟨none, some .supplicantDisconnection, .terminate⟩ := by
  cases verdict with
  | closed => rfl
  | receiveError =>
    rw [settle] at h ⊢
    split_ifs at h ⊢
    rfl
  | _ => cases h

/-! ### The record of one line -/

lemma isReceiveError_iff {text : List Char} {verdict : Verdict} (hv : Judges text verdict) :
    Control.IsReceiveError text ↔ verdict = .receiveError := by
  cases hv with
  | receiveError hr => exact iff_of_true hr rfl
  | silent hs => exact iff_of_false (fun hr => not_isTermination_of_isSilent hs hr.1) nofun
  | closed ht hr => exact iff_of_false hr nofun
  | event event hk ht => exact iff_of_false (fun hr => ht hr.1) nofun
  | unrecognized hs ht => exact iff_of_false (fun hr => ht hr.1) nofun

/-- The record of a line clears the count exactly if its verdict does. -/
lemma clears_settle (c : Classifier) (interface : String) {text : List Char} {verdict : Verdict}
    (hv : Judges text verdict) :
    (Record.line (some text) (c.settle interface verdict).1).clears = true
      ↔ verdict = .silent ∨ ∃ event, verdict = .event event := by
  cases hv with
  | event event => exact iff_of_true rfl (.inr ⟨event, rfl⟩)
  | silent hs => exact iff_of_true (decide_eq_true hs) (.inl rfl)
  | closed ht hr =>
    have hs : ¬IsSilent text := fun hs => not_isTermination_of_isSilent hs ht
    simp [Record.clears, settle, hs]
  | unrecognized hs ht => simp [Record.clears, settle, hs]
  | receiveError hr =>
    have hs : ¬IsSilent text := fun hs => not_isTermination_of_isSilent hs hr.1
    rw [settle]
    split_ifs
    · simp [Record.clears, hs]
    · simp [Record.clears, hs]

lemma errorsSince_of_clears {record : Record} (h : record.clears = true) (past : List Record) :
    errorsSince (record :: past) = 0 := by
  rw [errorsSince, List.takeWhile_cons_of_neg, List.countP_nil]
  rw [h]
  exact Bool.false_ne_true

lemma errorsSince_of_not_clears {record : Record} (h : ¬record.clears = true)
    (past : List Record) :
    errorsSince (record :: past)
      = errorsSince past + if record.isReceiveError = true then 1 else 0 := by
  rw [errorsSince, List.takeWhile_cons_of_pos, List.countP_cons, errorsSince]
  rw [Bool.not_eq_true] at h
  rw [h]
  rfl

lemma errorsSince_cons_le (record : Record) (past : List Record) :
    errorsSince (record :: past) ≤ errorsSince past + 1 := by
  by_cases h : record.clears = true
  · rw [errorsSince_of_clears h]
    exact Nat.zero_le _
  · rw [errorsSince_of_not_clears h]
    split_ifs
    · exact Nat.le_refl _
    · exact Nat.le_succ _

lemma errorsSince_malformed (classified : Classified) (h : classified.event = none)
    (past : List Record) : errorsSince (.line none classified :: past) = errorsSince past := by
  refine errorsSince_of_not_clears ?_ past
  simp [Record.clears, h]

/-- The number of receive errors on record changes as the verdict on the line has it. -/
lemma errorsSince_settle (c : Classifier) (interface : String) {text : List Char}
    {verdict : Verdict} (hv : Judges text verdict) (past : List Record) :
    errorsSince (.line (some text) (c.settle interface verdict).1 :: past)
      = count (errorsSince past) verdict := by
  have hc := clears_settle c interface hv
  have hr : (Record.line (some text) (c.settle interface verdict).1).isReceiveError = true
      ↔ verdict = .receiveError := decide_eq_true_iff.trans (isReceiveError_iff hv)
  cases verdict with
  | event event => exact errorsSince_of_clears (hc.2 (.inr ⟨event, rfl⟩)) past
  | silent => exact errorsSince_of_clears (hc.2 (.inl rfl)) past
  | receiveError =>
    rw [errorsSince_of_not_clears (hc.not.2 (by simp)), if_pos (hr.2 rfl)]
    rfl
  | closed | unrecognized =>
    rw [errorsSince_of_not_clears (hc.not.2 (by simp)), if_neg (hr.not.2 nofun)]
    rfl

namespace Settles

variable {c c' : Classifier} {text : Option (List Char)} {classified : Classified}

lemma config_eq (h : Settles c text classified c') : c'.config = c.config := by
  cases h with
  | malformed => rfl
  | judged interface hv => rw [config_settle, config_remember]

/-- A count that agrees with the record before a line agrees with it after the line. -/
lemma receiveErrors_eq (h : Settles c text classified c') {past : List Record}
    (hc : c.receiveErrors = errorsSince past) (hlt : errorsSince past + 1 < UInt32.size) :
    c'.receiveErrors = errorsSince (.line text classified :: past) := by
  cases h with
  | malformed => rw [errorsSince_malformed _ rfl, hc]
  | @judged interface text verdict hv =>
    have hr : (c.remember interface text).receiveErrors = errorsSince past := by
      rw [receiveErrors_remember, hc]
    rw [receiveErrors_settle (by rw [hr]; exact hlt), errorsSince_settle _ _ hv, hr]

/-- With one receive error too many on record, or with another termination, the connection ends. -/
lemma terminate_iff (h : Settles c text classified c') {past : List Record}
    (hc : c.receiveErrors = errorsSince past) (hlt : errorsSince past + 1 < UInt32.size) :
    classified.signal = .terminate
      ↔ ∃ t, text = some t ∧ IsTermination t ∧ (¬Control.IsReceiveError t
        ∨ c.config.maxReceiveErrors < errorsSince (.line text classified :: past)) := by
  cases h with
  | malformed => exact iff_of_false nofun nofun
  | @judged interface text verdict hv =>
    have hr : (c.remember interface text).receiveErrors = errorsSince past := by
      rw [receiveErrors_remember, hc]
    rw [signal_settle (by rw [hr]; exact hlt), errorsSince_settle _ _ hv, hr, config_remember,
      ← isReceiveError_iff hv]
    simp only [Option.some.injEq, exists_eq_left']
    -- Both sides leave only the two verdicts that end a connection, and the judgement tells which.
    constructor
    · rintro (rfl | ⟨hre, hlt⟩)
      · cases hv with
        | closed ht hre => exact ⟨ht, .inl hre⟩
      · exact ⟨hre.1, .inr hlt⟩
    · rintro ⟨ht, hre⟩
      cases hv with
      | closed => exact .inl rfl
      | receiveError hr => exact .inr ⟨hr, hre.resolve_left (not_not_intro hr)⟩
      | silent hs => exact absurd ht (not_isTermination_of_isSilent hs)
      | event event hk hn => exact absurd ht hn
      | unrecognized hs hn => exact absurd ht hn

/-- A line without a say in the count does not change it. -/
lemma errorsSince_of_isNeutral (h : Settles c text classified c') (hn : IsNeutral classified text)
    (past : List Record) :
    errorsSince (.line text classified :: past) = errorsSince past := by
  cases h with
  | malformed => exact errorsSince_malformed _ rfl past
  | @judged interface text verdict hv =>
    rw [errorsSince_settle _ _ hv]
    -- In each of the four ways to have no say, the judgement rules out the verdicts that count or
    -- clear.
    rcases hn with hf | ⟨hm, hne⟩ | ⟨⟨family, hf, hc⟩, he⟩ | ⟨ht, hre⟩
    · have hm : ¬Control.mark <+: text := Family.of?_eq_control_iff.not.1 (hf ▸ nofun)
      cases hv with
      | closed | unrecognized => rfl
      | event event hk => exact absurd hf hk.1
      | silent hs => exact absurd (mark_prefix_of_isSilent hs) hm
      | receiveError hr => exact absurd hr.1.1 hm
    · have hk := Control.kind?_eq_none_iff.2 hne
      cases hv with
      | closed | unrecognized => rfl
      | event event hknown => exact absurd hk (hknown.2 hm)
      | silent hs =>
        obtain ⟨kind, hkind, -⟩ := (Control.isSilent_iff hm).1 hs
        cases hk.symm.trans hkind
      | receiveError hr => cases hk.symm.trans ((Control.isTermination_iff hm).1 hr.1)
    · have hm : ¬Control.mark <+: text := by
        rw [← Family.of?_eq_control_iff, hf, Option.some.injEq]
        exact hc
      cases hv with
      | closed | unrecognized => rfl
      | event event => cases he
      | silent hs => exact absurd (mark_prefix_of_isSilent hs) hm
      | receiveError hr => exact absurd hr.1.1 hm
    · cases hv with
      | closed | unrecognized => rfl
      | event event hk hn => exact absurd ht hn
      | silent hs => exact absurd ht (not_isTermination_of_isSilent hs)
      | receiveError hr => exact absurd hr hre

/-- A line that reports no termination does not end the connection. -/
lemma signal_of_not_isTermination (h : Settles c text classified c')
    (hn : ∀ t, text = some t → ¬IsTermination t) : classified.signal = .goOn := by
  cases h with
  | malformed => rfl
  | judged interface hv =>
    cases hv with
    | receiveError hr => exact absurd hr.1 (hn _ rfl)
    | closed ht => exact absurd ht (hn _ rfl)
    | _ => rfl

lemma disconnection_of_terminate (h : Settles c text classified c')
    (ht : classified.signal = .terminate) :
    classified.interface = none ∧ classified.event = some .supplicantDisconnection := by
  cases h with
  | malformed => cases ht
  | judged interface hv =>
    rw [settle_of_terminate ht]
    exact ⟨rfl, rfl⟩

end Settles

/-! ### Any run -/

/-- What became of a line is as the receive errors on record have it. -/
structure AsCounted (config : Config) (text : Option (List Char)) (classified : Classified)
    (earlier : List Record) : Prop where
  terminate_iff : classified.signal = .terminate
    ↔ ∃ t, text = some t ∧ IsTermination t ∧ (¬Control.IsReceiveError t
      ∨ config.maxReceiveErrors < errorsSince (.line text classified :: earlier))
  unchanged : IsNeutral classified text →
    errorsSince (.line text classified :: earlier) = errorsSince earlier
  disconnection : classified.signal = .terminate →
    classified.interface = none ∧ classified.event = some .supplicantDisconnection

/-- What holds between a classifier and the record after so many lines. -/
structure Counted (config : Config) (lines : Nat) (run : Run σ) : Prop where
  config_eq : run.classifier.config = config
  receiveErrors_eq : run.classifier.receiveErrors = errorsSince run.past
  errorsSince_le : errorsSince run.past ≤ lines
  asCounted : ∀ text classified earlier, .line text classified :: earlier <:+ run.past →
    AsCounted config text classified earlier

namespace Counted

variable {config : Config} {lines : Nat} {run : Run σ}

lemma new (config : Config) (state : σ) : Counted config 0 ⟨.new config, state, []⟩ := by
  refine ⟨rfl, rfl, Nat.le_refl 0, ?_⟩
  intro text classified earlier h
  cases List.suffix_nil.1 h

lemma feed_reset (h : Counted config lines run) (daemon : Daemon σ) :
    Counted config lines (run.feed daemon .reset) := by
  refine ⟨h.config_eq, rfl, Nat.zero_le lines, ?_⟩
  intro text classified earlier hs
  rcases List.suffix_cons_iff.1 hs with heq | hs
  · cases heq
  · exact h.asCounted text classified earlier hs

lemma feed_line (h : Counted config lines run) (hlt : lines + 1 < UInt32.size) (daemon : Daemon σ)
    (isRegistered : String → Bool) (raw : String) :
    Counted config (lines + 1) (run.feed daemon (.line isRegistered raw)) := by
  obtain ⟨⟨⟨classified, classifier⟩, exchanges, state⟩, hrun⟩ :
      ∃ r, (run.classifier.classify isRegistered raw).run daemon run.daemon = r := ⟨_, rfl⟩
  have hs := settles_classify daemon run.daemon run.classifier isRegistered raw
  rw [hrun] at hs
  -- There are at most as many errors as lines, so one more does not wrap around.
  have hlt' : errorsSince run.past + 1 < UInt32.size :=
    Nat.lt_of_le_of_lt (Nat.succ_le_succ h.errorsSince_le) hlt
  have hcount := hs.receiveErrors_eq h.receiveErrors_eq hlt'
  rw [Run.feed, hrun]
  refine ⟨hs.config_eq.trans h.config_eq, hcount, ?_, ?_⟩
  · exact Nat.le_trans (errorsSince_cons_le _ _) (Nat.succ_le_succ h.errorsSince_le)
  · intro text classified earlier hsuffix
    rcases List.suffix_cons_iff.1 hsuffix with heq | hsuffix
    · cases heq
      refine ⟨?_, fun hn => hs.errorsSince_of_isNeutral hn run.past, hs.disconnection_of_terminate⟩
      rw [← h.config_eq]
      exact hs.terminate_iff h.receiveErrors_eq hlt'
    · exact h.asCounted text classified earlier hsuffix

end Counted

lemma counted_runOn (daemon : Daemon σ) (config : Config) (state : σ) (inputs : List Input)
    (h : inputs.countP Input.isLine < UInt32.size) :
    Counted config (inputs.countP Input.isLine) (runOn daemon config state inputs) := by
  -- From the end, because the record of a run grows at the last input.
  induction inputs using List.reverseRecOn with
  | nil => exact .new config state
  | append_singleton inputs input ih =>
    rw [List.countP_append] at h ⊢
    rw [runOn, List.foldl_append]
    have hinputs := ih (Nat.lt_of_le_of_lt (Nat.le_add_right _ _) h)
    cases input with
    | reset => exact hinputs.feed_reset daemon
    | line isRegistered raw => exact hinputs.feed_line h daemon isRegistered raw

/-- After any inputs with fewer than 2^32 lines among them, the classifier has counted the receive
errors since the latest reset or accepted line. A line ended the connection exactly if it was a
termination that was no receive error or was one too many of them. -/
theorem receiveErrors_runOn (daemon : Daemon σ) (config : Config) (state : σ) (inputs : List Input)
    (h : inputs.countP Input.isLine < UInt32.size) :
    (runOn daemon config state inputs).classifier.receiveErrors
        = errorsSince (runOn daemon config state inputs).past
      ∧ ∀ text classified earlier,
        Record.line text classified :: earlier <:+ (runOn daemon config state inputs).past →
          AsCounted config text classified earlier := by
  have hc := counted_runOn daemon config state inputs h
  exact ⟨hc.receiveErrors_eq, hc.asCounted⟩

/-- The receive errors before a scan are forgotten, a line of no family changes nothing, and the
second receive error after the scan is one too many. -/
theorem receiveErrors_runOn_afterScan :
    ∃ run : Run Unit, ∃ earlier,
      run = runOn Daemon.silent { maxReceiveErrors := 1 } ()
        [.line (fun _ => false) "CTRL-EVENT-TERMINATING - recv error",
          .line (fun _ => false) "CTRL-EVENT-SCAN-RESULTS",
          .line (fun _ => true) "IFNAME=wlan0 CTRL-EVENT-TERMINATING - recv error",
          .line (fun _ => false) "nothing known",
          .line (fun _ => false) "CTRL-EVENT-TERMINATING - recv error -5"]
      ∧ run.classifier.receiveErrors = errorsSince run.past
      ∧ errorsSince run.past = 2
      ∧ run.past = .line (some "CTRL-EVENT-TERMINATING - recv error -5".toList)
        ⟨none, some .supplicantDisconnection, .terminate⟩ :: earlier := by
  have h := receiveErrors_runOn Daemon.silent { maxReceiveErrors := 1 } ()
    [.line (fun _ => false) "CTRL-EVENT-TERMINATING - recv error",
      .line (fun _ => false) "CTRL-EVENT-SCAN-RESULTS",
      .line (fun _ => true) "IFNAME=wlan0 CTRL-EVENT-TERMINATING - recv error",
      .line (fun _ => false) "nothing known",
      .line (fun _ => false) "CTRL-EVENT-TERMINATING - recv error -5"] (by decide)
  exact ⟨_, _, rfl, h.1, h.1.symm.trans rfl, rfl⟩

end SupplicantWatch.Classifier
