import Mathlib.Tactic.Common
import SupplicantWatch.Proofs.Control.NameEnd
import SupplicantWatch.Proofs.Control.ReportEnd

/-!
# White space behind a control event

White space that goes on the name of an event hides what kind of event it is. Otherwise it is for
the kind to read it or not: the text behind the name of a network that is disabled is all of the
line, while most of the kinds find what they look for in front of the white space. Main statement:
`verdict_append_blanks_iff`.
-/

namespace SupplicantWatch.Control

open Text (IsBlank IsSolid Sticks)

variable {t b : List Char} {kind : Kind}

/-! ### What a control event shows -/

/-- Where white space behind a line does not hide the kind of the event, the kind reads it. -/
def Kind.Minds (t b : List Char) : Kind → Prop
  | connected =>
    ¬Sticks b ∧ (EndsInDash t ∧ connectionEvent t ≠ .networkConnection (-1) none
      ∨ ¬EndsInDash t ∧ EndsInOtherBracket (afterDash t))
  | disconnected =>
    ¬Sticks b ∧ EndsInDash t ∧ disconnectionEvent t ≠ .networkDisconnection "" 0 false
  | assocReject => ¬Sticks b ∧ EndsInDash t ∧ rejectionEvent t ≠ .associationRejection "" (-1)
  | stateChange =>
    stateChange? (afterSpace t) ≠ none
      ∧ (NameAtEnd (afterSpace t) ∨ Sticks b ∧ FieldAtEnd (afterSpace t))
  | driverState => Sticks b ∧ t = "CTRL-EVENT-DRIVER-STATE HANGED".toList
  | tempDisabled | reenabled => True
  | terminating | eapFailure | linkSpeed | bssAdded | bssRemoved | scanResults | scanFailed => False

/-- What a control event comes to depends on the white space behind it: that goes on the name of the
event, or the kind of the event reads it. -/
def Minds (t b : List Char) : Prop :=
  ∃ kind, kind? t = some kind ∧ (' ' ∉ t ∧ Sticks b ∨ kind.Minds t b)

/-! ### Names -/

lemma not_prefix_of_mark {w : List Char} (hm : mark <+: t) (h : ¬w <+: mark ∧ ¬mark <+: w) :
    ¬w <+: t :=
  fun hw => (List.prefix_or_prefix_of_prefix hw hm).elim h.1 h.2

lemma nameOf_mark_append (s : List Char) : nameOf (mark ++ s) = Text.before ' ' s := by
  rw [nameOf, List.drop_left]

lemma before_eq_mark_append_nameOf (hm : mark <+: t) : Text.before ' ' t = mark ++ nameOf t := by
  obtain ⟨s, rfl⟩ := hm
  rw [nameOf_mark_append, Text.before_append_of_notMem (by decide)]

lemma kind?_append_of_visible (hm : mark <+: t) (h : ' ' ∈ t ∨ ¬Sticks b) :
    kind? (t ++ b) = kind? t := by
  obtain ⟨s, rfl⟩ := hm
  have hname : nameOf (mark ++ s ++ b) = nameOf (mark ++ s) := by
    rw [List.append_assoc, nameOf_mark_append, nameOf_mark_append]
    refine Text.before_append_of_not_sticks (h.imp_left fun hmem => ?_)
    exact (List.mem_append.1 hmem).resolve_left (by decide)
  rw [kind?, kind?, hname]

/-- No name of an event has white space in it. -/
lemma kind?_append_of_hidden (hm : mark <+: t) (hspace : ' ' ∉ t) (hb : IsBlank b)
    (hsticks : Sticks b) : kind? (t ++ b) = none := by
  obtain ⟨s, rfl⟩ := hm
  have hs : ' ' ∉ s := fun hmem => hspace (List.mem_append_right mark hmem)
  obtain ⟨c, hmem, hc⟩ := hsticks.exists_mem_before hb
  rw [kind?_eq_none_iff, List.append_assoc, nameOf_mark_append, Text.before_append_of_notMem hs]
  intro row hrow heq
  have hnames : ∀ row ∈ Kind.table, ∀ c ∈ row.1.toList, Text.isBlank c = false := by
    decide
  have hnot := hnames row hrow c (heq ▸ List.mem_append_right s hmem)
  rw [hc] at hnot
  cases hnot

lemma Kind.verdict_ne_unrecognized (t : List Char) (kind : Kind) :
    kind.verdict t ≠ .unrecognized := by
  by_cases h : kind = .terminating
  · rw [h, verdict_terminating]
    split_ifs <;> exact nofun
  · have hother : (∃ event, kind.verdict t = .event event) ∨ kind.verdict t = .silent :=
      verdict_of_ne_terminating h
    rcases hother with ⟨event, hv⟩ | hv <;> rw [hv] <;> exact nofun

/-! ### Kinds -/

lemma afterDash_suffix (t : List Char) : afterDash t <:+ t := by
  rw [afterDash]
  cases hfind : Text.find? " - ".toList t with
  | none => exact List.suffix_rfl
  | some parts =>
    have ht := Text.eq_of_find? hfind
    exact ⟨parts.1 ++ " - ".toList, ht.symm⟩

lemma afterSpace_append_of_mem (h : ' ' ∈ t) (b : List Char) :
    afterSpace (t ++ b) = afterSpace t ++ b := by
  obtain ⟨front, rest, rfl, hfront⟩ := List.eq_append_cons_of_mem h
  have hcut : Text.cut? ' ' (front ++ ' ' :: rest) = some (front, rest) :=
    Text.cut?_eq_some_iff.2 ⟨rfl, hfront⟩
  have hcut' : Text.cut? ' ' (front ++ ' ' :: rest ++ b) = some (front, rest ++ b) :=
    Text.cut?_eq_some_iff.2 ⟨by rw [List.append_assoc, List.cons_append], hfront⟩
  rw [afterSpace, afterSpace, hcut, hcut']
  rfl

lemma afterSpace_append_cons (h : ' ' ∉ t) (b : List Char) :
    afterSpace t = t ∧ afterSpace (t ++ ' ' :: b) = b := by
  rw [afterSpace, afterSpace, Text.cut?_eq_none_iff.2 h, Text.cut?_eq_some_iff.2 ⟨rfl, h⟩]
  exact ⟨rfl, rfl⟩

/-- A word that does not end in white space begins what is behind a dash just as without the white
space behind the line. -/
lemma prefix_afterDash_append_blanks_iff {w : List Char} (hw : IsSolid w) (hwt : ¬w <+: t)
    (hb : IsBlank b) : w <+: afterDash (t ++ b) ↔ w <+: afterDash t := by
  by_cases h : EndsInDash t ∧ ¬Sticks b ∧ b ≠ []
  · obtain ⟨hdash, hsticks, hne⟩ := h
    obtain ⟨b, rfl⟩ := Text.exists_of_not_sticks hsticks hne
    obtain ⟨ht, htb⟩ := hdash.afterDash_append_cons b
    rw [ht, htb]
    have hblank : IsBlank b := (List.forall_mem_cons.1 hb).2
    exact iff_of_false (fun hp => hw.not_infix_of_isBlank hblank hp.isInfix) hwt
  · rw [afterDash_append_blanks hb h, hw.isPrefix_append_iff hb]

lemma prefix_afterSpace_append_blanks_iff {w : List Char} (hw : IsSolid w) (hwt : ¬w <+: t)
    (hb : IsBlank b) (hne : b ≠ []) (h : ' ' ∈ t ∨ ¬Sticks b) :
    w <+: afterSpace (t ++ b) ↔ w <+: afterSpace t := by
  by_cases hmem : ' ' ∈ t
  · rw [afterSpace_append_of_mem hmem, hw.isPrefix_append_iff hb]
  · obtain ⟨b, rfl⟩ := Text.exists_of_not_sticks (h.resolve_left hmem) hne
    obtain ⟨ht, htb⟩ := afterSpace_append_cons hmem b
    rw [ht, htb]
    have hblank : IsBlank b := (List.forall_mem_cons.1 hb).2
    exact iff_of_false (fun hp => hw.not_infix_of_isBlank hblank hp.isInfix) hwt

/-- What is searched for behind a dash, and is found in front of the white space behind the line, is
read otherwise only where the white space makes a dash. -/
lemma afterDash_append_blanks_iff {f : List Char → Event} (none : Event) (hb : IsBlank b)
    (hne : b ≠ []) (hf : ∀ s b, IsBlank b → f (s ++ b) = f s) (hnone : f [] = none) :
    f (afterDash (t ++ b)) = f (afterDash t) ↔ ¬(¬Sticks b ∧ EndsInDash t ∧ f t ≠ none) := by
  by_cases h : EndsInDash t ∧ ¬Sticks b ∧ b ≠ []
  · obtain ⟨hdash, hsticks, hne⟩ := h
    obtain ⟨b, rfl⟩ := Text.exists_of_not_sticks hsticks hne
    obtain ⟨ht, htb⟩ := hdash.afterDash_append_cons b
    have hblank : f b = none := (hf [] b (List.forall_mem_cons.1 hb).2).trans hnone
    rw [ht, htb, hblank]
    tauto
  · rw [afterDash_append_blanks hb h, hf _ b hb]
    tauto

lemma disconnectionEvent_append_blanks (s b : List Char) (hb : IsBlank b) :
    disconnectionEvent (s ++ b) = disconnectionEvent s := by
  rw [disconnectionEvent, Text.search_append_blanks disconnection?_append_blanks hb,
    disconnectionEvent]

lemma rejectionEvent_append_blanks (s b : List Char) (hb : IsBlank b) :
    rejectionEvent (s ++ b) = rejectionEvent s := by
  rw [rejectionEvent, Text.search_append_blanks rejection?_append_blanks hb, rejectionEvent]

lemma connectionEvent_of_isBlank (hb : IsBlank b) (hline : '\n' ∉ b) :
    connectionEvent b = .networkConnection (-1) none := by
  rw [connectionEvent_of_notMem hline,
    connection?_of_search_eq_none (search_spacedAddress?_of_isBlank hb)]

/-- The second word of a line about the driver is `HANGED` as before, unless that ends the line and
white space goes on it. -/
lemma verdict_driverState_append_blanks_iff (hm : mark <+: t)
    (hkind : kind? t = some .driverState) (hb : IsBlank b) :
    Kind.driverState.verdict (t ++ b) = Kind.driverState.verdict t
      ↔ ¬Kind.driverState.Minds t b := by
  have hverdict (u : List Char) : Kind.driverState.verdict u
      = if (u.splitOn ' ')[1]? = some "HANGED".toList then .event .driverHung else .silent := rfl
  have hiff (P Q : Prop) [Decidable P] [Decidable Q] :
      (if P then Verdict.event .driverHung else .silent)
        = (if Q then Verdict.event .driverHung else .silent) ↔ (P ↔ Q) := by
    split_ifs <;> simp [*]
  have hhanged : List.splitOn ' ' "CTRL-EVENT-DRIVER-STATE HANGED".toList
      = ["CTRL-EVENT-DRIVER-STATE".toList, "HANGED".toList] := by
    decide
  have hblank {s : List Char} {c : Char} (hmem : c ∈ s) (hc : Text.isBlank c = true) :
      s ≠ "HANGED".toList := by
    rintro rfl
    have hall : ∀ c ∈ "HANGED".toList, Text.isBlank c = false := by decide
    rw [hall c hmem] at hc
    cases hc
  rw [hverdict, hverdict, hiff, Kind.Minds]
  obtain ⟨init, last, rest, hs, ht, hst⟩ := Text.exists_splitOn_append ' ' t b
  rw [hs, hst]
  -- The white space goes on the last word, which may be the name, the second word or a later one.
  match init with
  | [] =>
    have hrest : rest[0]? ≠ some "HANGED".toList := by
      intro hfirst
      have hmem : "HANGED".toList ∈ b.splitOn ' ' :=
        ht ▸ List.mem_cons_of_mem _ (List.mem_of_getElem? hfirst)
      exact absurd (Text.isBlank_of_mem_splitOn hb hmem) (by decide)
    refine iff_of_true (iff_of_false hrest nofun) ?_
    rintro ⟨-, rfl⟩
    rw [hhanged] at hs
    cases hs
  | [event] =>
    -- The line is the whole text just if its second word is the last and is `HANGED`.
    have htext : t = "CTRL-EVENT-DRIVER-STATE HANGED".toList ↔ last = "HANGED".toList := by
      have hrow : ("DRIVER-STATE", Kind.driverState) ∈ Kind.table := by decide
      have hname := (kind?_eq_some_iff hrow).1 hkind
      obtain ⟨tail, hsplit⟩ := Text.exists_splitOn_eq_before_cons ' ' t
      rw [before_eq_mark_append_nameOf hm, hname, hs] at hsplit
      obtain ⟨rfl, -⟩ := List.cons.inj hsplit
      have hwhole : [' '].intercalate (t.splitOn ' ') = t := List.intercalate_splitOn ' '
      rw [hs] at hwhole
      rw [← hwhole]
      constructor
      · intro h
        rw [← hwhole] at hs
        rw [h, hhanged] at hs
        cases hs
        rfl
      · rintro rfl
        rfl
    by_cases hsticks : Sticks b
    · obtain ⟨c, hmem, hc⟩ := hsticks.exists_mem_before hb
      have hnot : last ++ Text.before ' ' b ≠ "HANGED".toList :=
        hblank (List.mem_append_right last hmem) hc
      simp only [List.cons_append, List.nil_append, List.getElem?_cons_succ,
        List.getElem?_cons_zero, Option.some_inj, hnot, false_iff, htext, hsticks, true_and]
    · refine iff_of_true ?_ fun h => hsticks h.1
      rw [Sticks, ne_eq, not_not] at hsticks
      rw [hsticks, List.append_nil]
      rfl
  | event :: state :: init =>
    refine iff_of_true Iff.rfl ?_
    rintro ⟨-, rfl⟩
    rw [hhanged] at hs
    cases init <;> cases hs

/-- What is said of a network that is disabled is all of the line, with the white space. -/
lemma disabledEvent_append_blanks_ne {event : Int → Option String → Event}
    (hevent : ∀ id id' s s', event id s = event id' s' → s = s') (hne : b ≠ [])
    (h : ' ' ∈ t ∨ ¬Sticks b) : disabledEvent event (t ++ b) ≠ disabledEvent event t := by
  by_cases hmem : ' ' ∈ t
  · obtain ⟨front, rest, rfl, hfront⟩ := List.eq_append_cons_of_mem hmem
    have hcut : Text.cut? ' ' (front ++ ' ' :: rest) = some (front, rest) :=
      Text.cut?_eq_some_iff.2 ⟨rfl, hfront⟩
    have hcut' : Text.cut? ' ' (front ++ ' ' :: rest ++ b) = some (front, rest ++ b) :=
      Text.cut?_eq_some_iff.2 ⟨by rw [List.append_assoc, List.cons_append], hfront⟩
    rw [disabledEvent, disabledEvent, hcut, hcut']
    intro heq
    have hdetail := hevent _ _ _ _ heq
    rw [Option.some_inj, String.ofList_inj, List.append_right_eq_self] at hdetail
    exact hne hdetail
  · obtain ⟨b, rfl⟩ := Text.exists_of_not_sticks (h.resolve_left hmem) hne
    rw [disabledEvent, disabledEvent, Text.cut?_eq_none_iff.2 hmem,
      Text.cut?_eq_some_iff.2 ⟨rfl, hmem⟩]
    intro heq
    cases hevent _ _ _ _ heq

/-- A state change is read otherwise only if there is a payload. -/
lemma stateChange?_afterSpace_append_blanks_iff (hm : mark <+: t) (hb : IsBlank b) (hne : b ≠ [])
    (h : ' ' ∈ t ∨ ¬Sticks b) :
    stateChange? (afterSpace (t ++ b)) = stateChange? (afterSpace t)
      ↔ ¬Kind.stateChange.Minds t b := by
  by_cases hmem : ' ' ∈ t
  · rw [afterSpace_append_of_mem hmem, stateChange?_append_blanks_iff hb hne, Kind.Minds]
  · obtain ⟨b, rfl⟩ := Text.exists_of_not_sticks (h.resolve_left hmem) hne
    obtain ⟨ht, htb⟩ := afterSpace_append_cons hmem b
    have hnone {s : List Char} (h : valuesOf "state" s = []) : stateChange? s = none := by
      rw [stateChange?_eq_none_iff, h]
      rfl
    have hstart : ¬"state".toList ++ ['='] <+: t := not_prefix_of_mark hm (by decide)
    have hinner : ¬spacedKey "state" <:+: t := fun h => hmem (h.subset (by decide))
    have hshort := hnone (valuesOf_eq_nil hstart hinner)
    have hblank := hnone (valuesOf_of_isBlank "state" (List.forall_mem_cons.1 hb).2)
    rw [htb, hblank, Kind.Minds, ht, hshort]
    exact iff_of_true rfl fun h => h.1 rfl

/-- The kinds that read the white space behind a line, and how. -/
lemma Kind.verdict_append_blanks_iff (hm : mark <+: t) (hkind : kind? t = some kind)
    (hb : IsBlank b) (hne : b ≠ []) (hline : '\n' ∉ t ++ b) (h : ' ' ∈ t ∨ ¬Sticks b) :
    kind.verdict (t ++ b) = kind.verdict t ↔ ¬kind.Minds t b := by
  cases kind with
  | connected =>
    have hafter : '\n' ∉ afterDash t ++ b := fun hmem =>
      hline (((afterDash_suffix t).sublist.append_right b).subset hmem)
    rw [Kind.verdict, Kind.verdict, Verdict.event.injEq, Kind.Minds]
    by_cases hdash : EndsInDash t
    · by_cases hsticks : Sticks b
      · rw [afterDash_append_blanks hb (by tauto), connectionEvent_append_blanks_iff hb hne hafter]
        tauto
      · -- With the white space the payload is blank, and without it all of the line is the payload.
        obtain ⟨b, rfl⟩ := Text.exists_of_not_sticks hsticks hne
        obtain ⟨ht, htb⟩ := hdash.afterDash_append_cons b
        have hline' : '\n' ∉ b := fun hmem => hline (by simp [hmem])
        have hblank : connectionEvent b = .networkConnection (-1) none :=
          connectionEvent_of_isBlank (List.forall_mem_cons.1 hb).2 hline'
        rw [ht, htb, hblank]
        tauto
    · rw [afterDash_append_blanks hb (by tauto), connectionEvent_append_blanks_iff hb hne hafter]
      tauto
  | disconnected =>
    have hiff := afterDash_append_blanks_iff (t := t) (.networkDisconnection "" 0 false) hb hne
      disconnectionEvent_append_blanks rfl
    rw [Kind.verdict, Kind.verdict, Verdict.event.injEq, hiff, Kind.Minds]
  | assocReject =>
    have hiff := afterDash_append_blanks_iff (t := t) (.associationRejection "" (-1)) hb hne
      rejectionEvent_append_blanks rfl
    rw [Kind.verdict, Kind.verdict, Verdict.event.injEq, hiff, Kind.Minds]
  | stateChange =>
    rw [← stateChange?_afterSpace_append_blanks_iff hm hb hne h, Kind.verdict, Kind.verdict]
    cases stateChange? (afterSpace (t ++ b)) <;> cases stateChange? (afterSpace t) <;> simp
  | driverState => exact verdict_driverState_append_blanks_iff hm hkind hb
  | terminating =>
    have hsolid : IsSolid "recv error".toList := by decide
    have hstart : ¬"recv error".toList <+: t := not_prefix_of_mark hm (by decide)
    rw [verdict_terminating, verdict_terminating]
    simp only [prefix_afterDash_append_blanks_iff hsolid hstart hb]
    exact iff_of_true trivial not_false
  | eapFailure =>
    have hsolid : IsSolid "EAP authentication failed".toList := by decide
    have hstart : ¬"EAP authentication failed".toList <+: t := not_prefix_of_mark hm (by decide)
    have hprefix := prefix_afterSpace_append_blanks_iff hsolid hstart hb hne h
    rw [← List.isPrefixOf_iff_prefix, ← List.isPrefixOf_iff_prefix, ← Bool.eq_iff_iff] at hprefix
    rw [Kind.verdict, Kind.verdict, hprefix]
    exact iff_of_true rfl not_false
  | tempDisabled =>
    refine iff_of_false ?_ (not_not_intro trivial)
    rw [Kind.verdict, Kind.verdict, Verdict.event.injEq]
    exact disabledEvent_append_blanks_ne (by rintro _ _ _ _ ⟨⟩; rfl) hne h
  | reenabled =>
    refine iff_of_false ?_ (not_not_intro trivial)
    rw [Kind.verdict, Kind.verdict, Verdict.event.injEq]
    exact disabledEvent_append_blanks_ne (by rintro _ _ _ _ ⟨⟩; rfl) hne h
  | linkSpeed | bssAdded | bssRemoved | scanResults | scanFailed => exact iff_of_true rfl not_false

/-- What a control event comes to depends on the white space behind it exactly if the event shows
that. -/
theorem verdict_append_blanks_iff (hm : mark <+: t) (hb : IsBlank b) (hne : b ≠ [])
    (hline : '\n' ∉ t ++ b) : verdict (t ++ b) = verdict t ↔ ¬Minds t b := by
  rw [verdict, verdict, Minds]
  by_cases h : ' ' ∈ t ∨ ¬Sticks b
  · rw [kind?_append_of_visible hm h]
    cases hkind : kind? t with
    | none => exact iff_of_true rfl (by simp)
    | some kind =>
      have hnot : ¬(' ' ∉ t ∧ Sticks b) := by tauto
      simp only [Option.some.injEq, exists_eq_left', hnot, false_or]
      exact Kind.verdict_append_blanks_iff hm hkind hb hne hline h
  · -- The white space hides the kind, and no kind comes to nothing recognized.
    push Not at h
    rw [kind?_append_of_hidden hm h.1 hb h.2]
    cases hkind : kind? t with
    | none => exact iff_of_true rfl (by simp)
    | some kind =>
      refine iff_of_false ?_ ?_
      · exact fun heq => kind.verdict_ne_unrecognized t heq.symm
      · exact not_not_intro ⟨kind, rfl, .inl h⟩

end SupplicantWatch.Control
