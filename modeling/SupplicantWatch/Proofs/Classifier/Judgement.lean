import Mathlib.Tactic.Common
import SupplicantWatch.Proofs.Classifier.Families

/-!
# What a text comes to

The texts that report a receive error, another termination or something known of which nothing is
delivered, as conditions on the text alone. Whatever the daemon replies, they decide what a text
comes to, up to the event that it yields. Main statement: `Classifier.judges_verdict`.
-/

namespace SupplicantWatch

variable {text : List Char}

namespace Control

/-! ### Names -/

/-- A text is a control event of the given name. -/
def HasName (name : String) (text : List Char) : Prop :=
  mark <+: text ∧ nameOf text = name.toList

instance (name : String) (text : List Char) : Decidable (HasName name text) :=
  inferInstanceAs (Decidable (_ ∧ _))

private lemma eq_of_name_eq : ∀ a ∈ Kind.table, ∀ b ∈ Kind.table, a.1 = b.1 → a = b := by
  decide

private lemma eq_of_kind_eq : ∀ a ∈ Kind.table, ∀ b ∈ Kind.table, a.2 = b.2 → a = b := by
  decide

/-- A line is of a kind exactly if it carries the name of the kind. -/
lemma kind?_eq_some_iff {name : String} {kind : Kind} (h : (name, kind) ∈ Kind.table) :
    kind? text = some kind ↔ nameOf text = name.toList := by
  constructor
  · intro hk
    obtain ⟨row, hfind, rfl⟩ := Option.map_eq_some_iff.1 hk
    have hrow := eq_of_kind_eq row (List.mem_of_find?_eq_some hfind) _ h rfl
    have hname := List.find?_some hfind
    rw [decide_eq_true_iff] at hname
    rw [← hname, hrow]
  · intro hname
    cases hfind : Kind.table.find? fun row => row.1.toList = nameOf text with
    | none =>
      have hne := List.find?_eq_none.1 hfind _ h
      rw [hname] at hne
      exact absurd (decide_eq_true rfl) hne
    | some row =>
      have hrow := List.find?_some hfind
      rw [decide_eq_true_iff] at hrow
      have heq := eq_of_name_eq row (List.mem_of_find?_eq_some hfind) _ h
        (String.toList_inj.1 (hrow.trans hname))
      rw [kind?, hfind, heq]
      rfl

lemma kind?_eq_none_iff :
    kind? text = none ↔ ∀ row ∈ Kind.table, row.1.toList ≠ nameOf text := by
  rw [kind?, Option.map_eq_none_iff, List.find?_eq_none]
  simp only [decide_eq_true_eq, ne_eq]

lemma hasName_iff (hm : mark <+: text) {name : String} {kind : Kind}
    (h : (name, kind) ∈ Kind.table) : HasName name text ↔ kind? text = some kind := by
  rw [HasName, kind?_eq_some_iff h]
  exact and_iff_right hm

/-! ### Texts -/

/-- A text ends the connection, or would if it were no receive error. -/
def IsTermination (text : List Char) : Prop :=
  HasName "TERMINATING" text

/-- A text reports that a line could not be received. -/
def IsReceiveError (text : List Char) : Prop :=
  IsTermination text ∧ "recv error".toList <+: afterDash text

/-- A text is a known control event of which nothing is delivered. -/
def IsSilent (text : List Char) : Prop :=
  HasName "BSS-ADDED" text ∨ HasName "BSS-REMOVED" text ∨ HasName "LINK-SPEED" text
    ∨ (HasName "DRIVER-STATE" text ∧ (text.splitOn ' ')[1]? ≠ some "HANGED".toList)
    ∨ (HasName "EAP-FAILURE" text ∧ ¬"EAP authentication failed".toList <+: afterSpace text)
    ∨ (HasName "STATE-CHANGE" text
      ∧ (valuesOf "state" (afterSpace text)).filterMap (Text.int? 64) = [])

instance (text : List Char) : Decidable (IsTermination text) :=
  inferInstanceAs (Decidable (HasName _ _))

instance (text : List Char) : Decidable (IsReceiveError text) :=
  inferInstanceAs (Decidable (_ ∧ _))

instance (text : List Char) : Decidable (IsSilent text) :=
  inferInstanceAs (Decidable (_ ∨ _))

lemma isTermination_iff (hm : mark <+: text) :
    IsTermination text ↔ kind? text = some .terminating :=
  hasName_iff hm (by decide)

lemma stateChange?_eq_none_iff {payload : List Char} :
    stateChange? payload = none
      ↔ (valuesOf "state" payload).filterMap (Text.int? 64) = [] := by
  rw [← List.getLast?_eq_none_iff, stateChange?]
  cases ((valuesOf "state" payload).filterMap (Text.int? 64)).getLast? with
  | none => exact iff_of_true rfl rfl
  | some index => exact iff_of_false nofun nofun

lemma verdict_stateChange :
    Kind.stateChange.verdict text = .silent
      ↔ (valuesOf "state" (afterSpace text)).filterMap (Text.int? 64) = [] := by
  rw [← stateChange?_eq_none_iff, Kind.verdict]
  cases stateChange? (afterSpace text) with
  | none => exact iff_of_true rfl rfl
  | some change => exact iff_of_false nofun nofun

lemma verdict_driverState :
    Kind.driverState.verdict text = .silent
      ↔ (text.splitOn ' ')[1]? ≠ some "HANGED".toList := by
  rw [Kind.verdict]
  split_ifs with h
  · exact iff_of_false nofun (not_not_intro h)
  · exact iff_of_true rfl h

lemma verdict_eapFailure :
    Kind.eapFailure.verdict text = .silent
      ↔ ¬"EAP authentication failed".toList <+: afterSpace text := by
  rw [Kind.verdict, ← List.isPrefixOf_iff_prefix]
  split_ifs with h
  · exact iff_of_false nofun (not_not_intro h)
  · exact iff_of_true rfl h

lemma verdict_terminating :
    Kind.terminating.verdict text
      = if "recv error".toList <+: afterDash text then .receiveError else .closed := by
  rw [Kind.verdict]
  simp only [List.isPrefixOf_iff_prefix]

/-- A kind other than a termination yields an event or nothing. -/
lemma verdict_of_ne_terminating {kind : Kind} (h : kind ≠ .terminating) :
    (∃ event, kind.verdict text = .event event) ∨ kind.verdict text = .silent := by
  cases kind with
  | terminating => exact absurd rfl h
  | stateChange =>
    rw [Kind.verdict]
    cases stateChange? (afterSpace text) with
    | none => exact .inr rfl
    | some change => exact .inl ⟨_, rfl⟩
  | driverState | eapFailure =>
    rw [Kind.verdict]
    split_ifs
    · exact .inl ⟨_, rfl⟩
    · exact .inr rfl
  | linkSpeed | bssAdded | bssRemoved => exact .inr rfl
  | _ => exact .inl ⟨_, rfl⟩

/-- The silent texts are those for which the reading of a known kind has nothing to deliver. -/
lemma isSilent_iff (hm : mark <+: text) :
    IsSilent text ↔ ∃ kind, kind? text = some kind ∧ kind.verdict text = .silent := by
  have hba : HasName "BSS-ADDED" text ↔ kind? text = some .bssAdded := hasName_iff hm (by decide)
  have hbr : HasName "BSS-REMOVED" text ↔ kind? text = some .bssRemoved :=
    hasName_iff hm (by decide)
  have hls : HasName "LINK-SPEED" text ↔ kind? text = some .linkSpeed := hasName_iff hm (by decide)
  have hds : HasName "DRIVER-STATE" text ↔ kind? text = some .driverState :=
    hasName_iff hm (by decide)
  have hef : HasName "EAP-FAILURE" text ↔ kind? text = some .eapFailure :=
    hasName_iff hm (by decide)
  have hsc : HasName "STATE-CHANGE" text ↔ kind? text = some .stateChange :=
    hasName_iff hm (by decide)
  -- Every condition on a name is one on the kind, and every further condition is that the verdict
  -- of the kind is silent.
  rw [IsSilent, hba, hbr, hls, hds, hef, hsc, ← verdict_driverState, ← verdict_eapFailure,
    ← verdict_stateChange]
  cases kind? text with
  | none => simp only [reduceCtorEq, false_and, or_false, exists_false]
  | some kind =>
    simp only [Option.some.injEq, exists_eq_left']
    constructor
    · rintro (rfl | rfl | rfl | ⟨rfl, h⟩ | ⟨rfl, h⟩ | ⟨rfl, h⟩)
      · rfl
      · rfl
      · rfl
      · exact h
      · exact h
      · exact h
    · intro h
      cases kind with
      | bssAdded => exact .inl rfl
      | bssRemoved => exact .inr (.inl rfl)
      | linkSpeed => exact .inr (.inr (.inl rfl))
      | driverState => exact .inr (.inr (.inr (.inl ⟨rfl, h⟩)))
      | eapFailure => exact .inr (.inr (.inr (.inr (.inl ⟨rfl, h⟩))))
      | stateChange => exact .inr (.inr (.inr (.inr (.inr ⟨rfl, h⟩))))
      | terminating =>
        rw [verdict_terminating] at h
        split_ifs at h
      | _ => cases h

end Control

/-! ### Families -/

/-- The lines of the control family are those that begin with its mark. -/
lemma Family.of?_eq_control_iff : Family.of? text = some .control ↔ Control.mark <+: text :=
  Family.of?_eq_iff_prefix (by simp [Family.table])

/-- A text is of a family, and of a kind with a known name if it is a control event. -/
def IsKnown (text : List Char) : Prop :=
  Family.of? text ≠ none ∧ (Control.mark <+: text → Control.kind? text ≠ none)

open Control (IsReceiveError IsSilent IsTermination)

/-- What a text may come to. -/
inductive Judges (text : List Char) : Verdict → Prop where
  | event (event : Event) (hk : IsKnown text) (ht : ¬IsTermination text) :
    Judges text (.event event)
  | silent (hs : IsSilent text) : Judges text .silent
  | receiveError (hr : IsReceiveError text) : Judges text .receiveError
  | closed (ht : IsTermination text) (hr : ¬IsReceiveError text) : Judges text .closed
  | unrecognized (hs : ¬IsSilent text) (ht : ¬IsTermination text) : Judges text .unrecognized

lemma not_isTermination_of_isSilent (h : IsSilent text) : ¬IsTermination text := by
  have hne : ∀ name : String, Control.HasName name text → name ≠ "TERMINATING" →
      ¬IsTermination text := by
    intro name hname hne ht
    exact hne (String.toList_inj.1 (hname.2.symm.trans ht.2))
  rcases h with h | h | h | ⟨h, -⟩ | ⟨h, -⟩ | ⟨h, -⟩
  all_goals exact hne _ h (by decide)

lemma mark_prefix_of_isSilent (h : IsSilent text) : Control.mark <+: text := by
  rcases h with h | h | h | ⟨h, -⟩ | ⟨h, -⟩ | ⟨h, -⟩
  all_goals exact h.1

/-- What a control event comes to. -/
lemma judges_control (hm : Control.mark <+: text) : Judges text (Control.verdict text) := by
  have hfamily : Family.of? text ≠ none := by
    rw [Family.of?_eq_control_iff.2 hm]
    exact nofun
  rw [Control.verdict]
  cases hk : Control.kind? text with
  | none =>
    refine .unrecognized ?_ ?_
    · rw [Control.isSilent_iff hm, hk]
      rintro ⟨kind, hkind, -⟩
      cases hkind
    · rw [Control.isTermination_iff hm, hk]
      exact nofun
  | some kind =>
    have hknown : IsKnown text := ⟨hfamily, fun _ => hk ▸ nofun⟩
    -- A termination comes to one of two ends of its own, and no other kind does.
    by_cases ht : IsTermination text
    · have hkt := (Control.isTermination_iff hm).1 ht
      rw [hk, Option.some.injEq] at hkt
      subst hkt
      dsimp only
      rw [Control.verdict_terminating]
      split_ifs with hr
      · exact .receiveError ⟨ht, hr⟩
      · exact .closed ht fun h => hr h.2
    · have hkt : kind ≠ .terminating := by
        rintro rfl
        exact ht ((Control.isTermination_iff hm).2 hk)
      dsimp only
      rcases Control.verdict_of_ne_terminating hkt with ⟨event, hv⟩ | hv
      · rw [hv]
        exact .event event hknown ht
      · rw [hv]
        exact .silent ((Control.isSilent_iff hm).2 ⟨kind, hk, hv⟩)

/-- What a text that is no control event comes to is an event or nothing known. -/
lemma yields_familyVerdict {p : Verdict → Prop} (hevent : ∀ event, p (.event event))
    (hunrecognized : p .unrecognized) {family : Family} (hf : family ≠ .control) (chunkSize : Nat)
    (bssid : MacAddress) (text : List Char) :
    (Classifier.familyVerdict chunkSize bssid text family).Yields p := by
  have hof (e : Option Event) : p (.ofEvent? e) := by
    cases e with
    | none => exact hunrecognized
    | some event => exact hevent event
  have hread (reading : Except PayloadError Event) : p (Classifier.verdictOf reading) := by
    cases reading with
    | ok event => exact hevent event
    | error _ => exact hunrecognized
  cases family with
  | control => exact absurd rfl hf
  | peer | accessPoint | credential => exact hof _
  | anqp | icon => exact Dialogue.yields_map hread _
  | remediation | deauth => exact hread _
  | _ => exact hevent _

/-- Whatever the daemon replies, a text comes to what it may come to. -/
theorem Classifier.judges_verdict (c : Classifier) (interface : String) (text : List Char) :
    (c.verdict interface text).Yields (Judges text) := by
  rw [Classifier.verdict]
  cases hf : Family.of? text with
  | none =>
    have hm : ¬Control.mark <+: text := Family.of?_eq_control_iff.not.1 (hf ▸ nofun)
    exact .unrecognized (fun hs => hm (mark_prefix_of_isSilent hs)) fun ht => hm ht.1
  | some family =>
    refine Dialogue.Yields.onInterface ?_ interface
    by_cases hc : family = .control
    · subst hc
      exact judges_control (Family.of?_eq_control_iff.1 hf)
    · -- In another family the line has no control mark, so it is neither silent nor a termination.
      have hm : ¬Control.mark <+: text := by
        intro hm
        rw [Family.of?_eq_control_iff.2 hm, Option.some.injEq] at hf
        exact hc hf.symm
      have hknown : IsKnown text := ⟨hf ▸ nofun, fun h => absurd h hm⟩
      have hs : ¬IsSilent text := fun hs => hm (mark_prefix_of_isSilent hs)
      have ht : ¬IsTermination text := fun ht => hm ht.1
      exact yields_familyVerdict (.event · hknown ht) (.unrecognized hs ht) hc _ _ text

end SupplicantWatch
