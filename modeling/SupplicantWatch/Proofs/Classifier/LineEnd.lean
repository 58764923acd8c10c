import Mathlib.Tactic.Common
import SupplicantWatch.Proofs.Classifier.LastConnection
import SupplicantWatch.Proofs.Control.LineEnd
import SupplicantWatch.Proofs.Credential.LineEnd
import SupplicantWatch.Proofs.Hotspot.LineEnd
import SupplicantWatch.Proofs.Peer.LineEnd

/-!
# White space behind a text

Which family a text is of goes by how it begins, for two of the families also by how it ends. So
with white space behind it a text stays in its family, drops out of one of those two, or is of one
of the two that end in a space themselves. What the text then comes to is for its family to say.
Main statements: `verdict_append_blanks_iff` and `remember_append_blanks`.
-/

namespace SupplicantWatch

open Text (IsBlank IsSolid Sticks)

variable {t b : List Char}

namespace Classifier

/-! ### Payloads of the small families -/

lemma optionalCode_append_blanks {w : String} (hw : IsSolid w.toList) (hb : IsBlank b)
    (s : List Char) : optionalCode w (s ++ b)
      = ((optionalCode w s).1, (optionalCode w s).2 ++ b) := by
  have hdigits := Text.some?_append_blanks (fun _ => Text.isDecimalDigit_of_isBlank) hb
  rw [optionalCode, optionalCode, Text.isPrefixOf?_append_blanks hw hb]
  cases List.isPrefixOf? w.toList s with
  | none => rfl
  | some rest =>
    rw [Option.map_some, Option.bind_some, Option.bind_some, hdigits]
    cases Text.some? Text.isDecimalDigit rest <;> rfl

lemma wpsCodes?_append_blanks (s b : List Char) (hb : IsBlank b) :
    wpsCodes? (s ++ b) = wpsCodes? s := by
  have hdigits := Text.some?_append_blanks (fun _ => Text.isDecimalDigit_of_isBlank) hb
  have hmark : IsSolid "WPS-FAIL msg=".toList := by decide
  have hconfig := optionalCode_append_blanks (w := " config_error=") (by decide) hb
  have hreason := optionalCode_append_blanks (w := " reason=") (by decide) hb
  rw [wpsCodes?, wpsCodes?, Text.isPrefixOf?_append_blanks hmark hb]
  cases List.isPrefixOf? "WPS-FAIL msg=".toList s with
  | none => rfl
  | some rest =>
    simp only [Option.map_some, Option.bind_eq_bind, Option.bind_some, hdigits]
    cases Text.some? Text.isDecimalDigit rest with
    | none => rfl
    | some parts => simp only [Option.map_some, Option.bind_some, hconfig, hreason]

lemma wpsFailEvent_append_blanks (hb : IsBlank b) (t : List Char) :
    wpsFailEvent (t ++ b) = wpsFailEvent t := by
  rw [wpsFailEvent, wpsFailEvent, Text.search_append_blanks wpsCodes?_append_blanks hb]

lemma addressAfter?_append_blanks {phrase : String} (h : phrase.toList <+: t) (hb : IsBlank b) :
    addressAfter? phrase (t ++ b) = addressAfter? phrase t := by
  obtain ⟨rest, rfl⟩ := h
  rw [addressAfter?, addressAfter?, List.append_assoc, Text.isPrefixOf?_append,
    Text.isPrefixOf?_append]
  simp only [Option.bind_eq_bind, Option.bind_some, MacAddress.takeLower?_append_blanks hb]
  cases MacAddress.takeLower? rest <;> rfl

/-- A field that the station shows ends the line. -/
def MindsStation (t : List Char) : Prop :=
  Text.before ' ' t ∈ ["AP-STA-CONNECTED".toList, "AP-STA-DISCONNECTED".toList]
    ∧ Peer.Device.Minds t

/-- A line of one word says nothing of a station, and white space on the word makes it another. -/
lemma stationEvent?_append_sticking (hspace : ' ' ∉ t) (hb : IsBlank b) (hsticks : Sticks b) :
    stationEvent? (t ++ b) = none ∧ stationEvent? t = none ∧ ¬MindsStation t := by
  have hbefore := Text.before_append_of_notMem hspace b
  obtain ⟨c, hmem, hc⟩ := hsticks.exists_mem_before hb
  have hne {w : List Char} (hw : ∀ c ∈ w, Text.isBlank c = false) : t ++ Text.before ' ' b ≠ w := by
    rintro rfl
    rw [hw c (List.mem_append_right t hmem)] at hc
    cases hc
  have hnone {w : List Char} (hw : w ∈ ["AP-STA-CONNECTED".toList, "AP-STA-DISCONNECTED".toList]) :
      Peer.Device.ofLine? w = none := by
    simp only [List.mem_cons, List.not_mem_nil, or_false] at hw
    rcases hw with rfl | rfl
    · decide +kernel
    · decide +kernel
  refine ⟨?_, ?_, ?_⟩
  · rw [stationEvent?, hbefore, if_neg (hne (by decide)), if_neg (hne (by decide))]
  · rw [stationEvent?, Text.before_of_notMem hspace]
    split_ifs with hjoined hleft
    · rw [hnone (hjoined ▸ List.mem_cons_self)]
      rfl
    · rw [hnone (hleft ▸ List.mem_cons_of_mem _ List.mem_cons_self)]
      rfl
    · rfl
  · rintro ⟨hname, hdevice, -⟩
    rw [Text.before_of_notMem hspace] at hname
    exact hdevice (hnone hname)

lemma stationEvent?_append_blanks_iff (hb : IsBlank b) (t : List Char) :
    stationEvent? (t ++ b) = stationEvent? t ↔ ¬(Sticks b ∧ MindsStation t) := by
  by_cases h : ' ' ∈ t ∨ ¬Sticks b
  · have hjoined : Function.Injective (Option.map Event.stationConnected) :=
      Option.map_injective fun _ _ => Event.stationConnected.inj
    have hleft : Function.Injective (Option.map Event.stationDisconnected) :=
      Option.map_injective fun _ _ => Event.stationDisconnected.inj
    rw [stationEvent?, stationEvent?, Text.before_append_of_not_sticks h, MindsStation]
    split_ifs with hwhole hleave
    · rw [hjoined.eq_iff, Peer.Device.ofLine?_append_blanks_iff hb, hwhole]
      simp only [List.mem_cons_self, true_and]
    · rw [hleft.eq_iff, Peer.Device.ofLine?_append_blanks_iff hb, hleave]
      simp only [List.mem_cons_of_mem, List.mem_cons_self, true_and]
    · refine iff_of_true rfl fun hminds => ?_
      simp only [List.mem_cons, List.not_mem_nil, or_false] at hminds
      exact hminds.2.1.elim hwhole hleave
  · push Not at h
    obtain ⟨hboth, halone, hnot⟩ := stationEvent?_append_sticking h.1 hb h.2
    rw [hboth, halone]
    exact iff_of_true rfl fun hminds => hnot hminds.2

end Classifier

/-! ### Families -/

namespace Family

variable {family : Family}

lemma of?_eq_targetBssid_iff :
    of? t = some .targetBssid ↔ "Trying to associate with ".toList <+: t :=
  of?_eq_iff_prefix (by simp [table])

lemma of?_eq_associatedBssid_iff :
    of? t = some .associatedBssid ↔ "Associated with ".toList <+: t :=
  of?_eq_iff_prefix (by simp [table])

lemma exists_row (family : Family) : ∃ row ∈ table, row.2 = family := by
  cases family <;> decide

/-- A text stays in its family, if that goes by how the text begins. -/
lemma of?_append (h : of? t = some family) (hf : family ∉ [.authTimeout, .wrongPassword])
    (b : List Char) : of? (t ++ b) = some family := by
  have hending : ∀ row ∈ table,
      row.2 ∉ [authTimeout, wrongPassword] → row.1.ending.toList = [] := by
    decide
  obtain ⟨row, hrow, rfl⟩ := exists_row family
  rw [of?_eq_some_iff hrow, Rule.fits, Bool.and_eq_true, List.isPrefixOf_iff_prefix,
    List.isSuffixOf_iff_suffix] at h ⊢
  rw [hending row hrow hf]
  exact ⟨h.1.trans (List.prefix_append t b), List.nil_suffix⟩

/-- A phrase with a space behind it. -/
lemma append_space_prefix_append_blanks {w : List Char} (hw : IsSolid w) (hb : IsBlank b)
    (h : w ++ [' '] <+: t ++ b) : w ++ [' '] <+: t ∨ t = w ∧ ¬Sticks b := by
  obtain ⟨rest, rfl⟩ := (hw.isPrefix_append_iff hb).1 ((List.prefix_append w [' ']).trans h)
  rw [List.append_assoc, List.prefix_append_right_inj] at h
  cases rest with
  | nil =>
    obtain ⟨b, rfl⟩ := h
    exact .inr ⟨List.append_nil w, Text.not_sticks_iff.2 (.inr ⟨b, rfl⟩)⟩
  | cons c rest =>
    obtain ⟨rfl, -⟩ := List.cons_prefix_cons.1 h
    exact .inl ⟨rest, by rw [List.append_assoc]; rfl⟩

/-- With white space behind it a text is of the family it is of without, unless the family's phrase
takes its last space from there. -/
lemma of?_of_append_blanks (h : of? (t ++ b) = some family) (hb : IsBlank b) (hne : b ≠ []) :
    family ∉ [.authTimeout, .wrongPassword] ∧ (of? t = some family
      ∨ ¬Sticks b ∧ (t = "Trying to associate with".toList ∨ t = "Associated with".toList)) := by
  -- Of each row of the table: the endings are solid or empty, and so are the beginnings but for the
  -- two phrases with a space at their end.
  have hending : ∀ row ∈ table, row.2 ∈ [authTimeout, wrongPassword] →
      IsSolid row.1.ending.toList := by
    decide
  have hnoEnding : ∀ row ∈ table, row.2 ∉ [authTimeout, wrongPassword] → row.1.ending = "" := by
    decide
  have hstart : ∀ row ∈ table, IsSolid row.1.start.toList
      ∨ ∃ w ∈ ["Trying to associate with".toList, "Associated with".toList],
        row.1.start.toList = w ++ [' '] := by
    decide
  have hphrase : ∀ w ∈ ["Trying to associate with".toList, "Associated with".toList],
      IsSolid w := by
    decide
  obtain ⟨row, hrow, rfl⟩ := exists_row family
  have hfits := h
  rw [of?_eq_some_iff hrow, Rule.fits, Bool.and_eq_true, List.isPrefixOf_iff_prefix,
    List.isSuffixOf_iff_suffix] at hfits
  obtain ⟨hstarts, front, hsuffix⟩ := hfits
  have hf : row.2 ∉ [authTimeout, wrongPassword] := by
    intro hf
    have hsolid := (hending row hrow hf).append_left front
    rw [hsuffix] at hsolid
    exact Text.not_isSolid_append_blanks hb hne hsolid
  have hof (hp : row.1.start.toList <+: t) : of? t = some row.2 := by
    rw [of?_eq_some_iff hrow, Rule.fits, Bool.and_eq_true, List.isPrefixOf_iff_prefix,
      hnoEnding row hrow hf]
    exact ⟨hp, rfl⟩
  refine ⟨hf, ?_⟩
  rcases hstart row hrow with hsolid | ⟨w, hw, heq⟩
  · exact .inl (hof ((hsolid.isPrefix_append_iff hb).1 hstarts))
  · rw [heq] at hstarts
    rcases append_space_prefix_append_blanks (hphrase w hw) hb hstarts with hp | ⟨rfl, hsticks⟩
    · exact .inl (hof (heq ▸ hp))
    · simp only [List.mem_cons, List.not_mem_nil, or_false] at hw
      exact .inr ⟨hsticks, hw⟩

/-- The phrases are of no family without their last space. -/
lemma of?_phrase (h : t = "Trying to associate with".toList ∨ t = "Associated with".toList) :
    of? t = none := by
  rcases h with rfl | rfl
  · decide
  · decide

lemma of?_append_blanks_of_ending (h : of? t = some family)
    (hf : family ∈ [.authTimeout, .wrongPassword]) (hb : IsBlank b) (hne : b ≠ []) :
    of? (t ++ b) = none := by
  rw [Option.eq_none_iff_forall_ne_some]
  intro family' hboth
  obtain ⟨hf', heq | ⟨-, hphrase⟩⟩ := of?_of_append_blanks hboth hb hne
  · rw [h] at heq
    cases heq
    exact hf' hf
  · rw [of?_phrase hphrase] at h
    cases h

lemma of?_append_blanks_of_phrase (hne : b ≠ []) (h : ¬Sticks b
      ∧ (t = "Trying to associate with".toList ∨ t = "Associated with".toList)) :
    of? (t ++ b) = some .targetBssid ∨ of? (t ++ b) = some .associatedBssid := by
  obtain ⟨hsticks, hphrase⟩ := h
  obtain ⟨b, rfl⟩ := Text.exists_of_not_sticks hsticks hne
  have htarget : "Trying to associate with ".toList
      = "Trying to associate with".toList ++ [' '] := by
    decide
  have hassociated : "Associated with ".toList = "Associated with".toList ++ [' '] := by
    decide
  rw [of?_eq_targetBssid_iff, of?_eq_associatedBssid_iff, htarget, hassociated, List.append_cons]
  rcases hphrase with rfl | rfl
  · exact .inl (List.prefix_append _ b)
  · exact .inr (List.prefix_append _ b)

/-- What a text of a family comes to depends on the white space behind it. -/
def Minds (t b : List Char) : Family → Prop
  | control => Control.Minds t b
  | peer => Sticks b ∧ Peer.Minds t
  | accessPoint => Sticks b ∧ Classifier.MindsStation t
  | anqp => Sticks b ∧ Hotspot.MindsAddress t
  | icon => Hotspot.IsIcon t
  | remediation => ∃ url, Hotspot.IsNotice 1 t url ∨ Hotspot.IsNotice 1 (t ++ b) url
  | deauth => ∃ url, Hotspot.IsNotice 2 t url ∨ Hotspot.IsNotice 2 (t ++ b) url
  | credential => Credential.ShowsName (t ++ b)
  | authTimeout | wrongPassword => True
  | wpsSuccess | wpsFail | wpsOverlap | wpsTimeout | targetBssid | associatedBssid => False

/-- What a text of a family that goes by how a text begins comes to is for the family to say. -/
lemma familyVerdict_append_blanks_iff {chunkSize : Nat} {bssid : MacAddress}
    (h : of? t = some family) (hf : family ∉ [.authTimeout, .wrongPassword]) (ht : IsSolid t)
    (hb : IsBlank b) (hne : b ≠ []) (hline : '\n' ∉ t ++ b) :
    (Classifier.familyVerdict chunkSize bssid (t ++ b) family).unanswered
        = (Classifier.familyVerdict chunkSize bssid t family).unanswered
      ↔ ¬family.Minds t b := by
  -- No event is taken for the lack of one, so the verdicts agree just if the events do.
  have hevent {x y : Option Event} : Verdict.ofEvent? x = Verdict.ofEvent? y ↔ x = y := by
    cases x <;> cases y <;> simp [Verdict.ofEvent?]
  cases family with
  | control => exact Control.verdict_append_blanks_iff (of?_eq_control_iff.1 h) hb hne hline
  | peer => exact hevent.trans (Peer.eventOfLine?_append_blanks_iff hb t)
  | accessPoint => exact hevent.trans (Classifier.stationEvent?_append_blanks_iff hb t)
  | credential => exact hevent.trans (Credential.eventOfLine?_append_blanks_iff ht hb hne hline)
  | anqp =>
    rw [Classifier.familyVerdict, Classifier.familyVerdict, Dialogue.unanswered_map,
      Dialogue.unanswered_map]
    exact Hotspot.anqpEvent_append_blanks_iff hb t
  | icon =>
    rw [Classifier.familyVerdict, Classifier.familyVerdict, Dialogue.unanswered_map,
      Dialogue.unanswered_map]
    exact Hotspot.iconEvent_append_blanks_iff hb hne t
  | remediation => exact Hotspot.remediationEvent_append_blanks_iff ht hb hne
  | deauth => exact Hotspot.deauthEvent_append_blanks_iff ht hb hne
  | wpsFail =>
    refine iff_of_true ?_ not_false
    rw [Classifier.familyVerdict, Classifier.familyVerdict,
      Classifier.wpsFailEvent_append_blanks hb]
  | targetBssid =>
    refine iff_of_true ?_ not_false
    rw [Classifier.familyVerdict, Classifier.familyVerdict,
      Classifier.addressAfter?_append_blanks (of?_eq_targetBssid_iff.1 h) hb]
  | associatedBssid =>
    refine iff_of_true ?_ not_false
    rw [Classifier.familyVerdict, Classifier.familyVerdict,
      Classifier.addressAfter?_append_blanks (of?_eq_associatedBssid_iff.1 h) hb]
  | wpsSuccess | wpsOverlap | wpsTimeout => exact iff_of_true rfl not_false
  | authTimeout | wrongPassword => exact absurd (by decide) hf

end Family

namespace Classifier

variable {c : Classifier} {i : String}

/-- What a text comes to depends on the white space behind it. Apart from what the families see of
it, there are two phrases that are known only with a space behind them. -/
def Minds (t b : List Char) : Prop :=
  (Family.of? t).elim
    (¬Sticks b ∧ (t = "Trying to associate with".toList ∨ t = "Associated with".toList))
    (Family.Minds t b)

lemma unanswered_verdict (c : Classifier) (i : String) (text : List Char) :
    (c.verdict i text).unanswered
      = (Family.of? text).elim .unrecognized fun family =>
        (familyVerdict c.config.iconChunkSize ((c.lastBssid? i).getD .zero) text
          family).unanswered := by
  rw [verdict]
  cases Family.of? text with
  | none => rfl
  | some family => exact Dialogue.unanswered_onInterface i _

/-- When no command is answered, what a text comes to depends on the white space behind it exactly
if the text shows that. -/
theorem verdict_append_blanks_iff (ht : IsSolid t) (hb : IsBlank b) (hne : b ≠ [])
    (hline : '\n' ∉ t ++ b) :
    (c.verdict i (t ++ b)).unanswered = (c.verdict i t).unanswered ↔ ¬Minds t b := by
  rw [unanswered_verdict, unanswered_verdict, Minds]
  cases hof : Family.of? t with
  | some family =>
    by_cases hf : family ∉ [.authTimeout, .wrongPassword]
    · rw [Family.of?_append hof hf b]
      exact Family.familyVerdict_append_blanks_iff hof hf ht hb hne hline
    · rw [not_not] at hf
      rw [Family.of?_append_blanks_of_ending hof hf hb hne]
      simp only [List.mem_cons, List.not_mem_nil, or_false] at hf
      -- Both yield an event without the white space and are unknown with it.
      rcases hf with rfl | rfl
      · exact iff_of_false nofun (not_not_intro trivial)
      · exact iff_of_false nofun (not_not_intro trivial)
  | none =>
    by_cases hphrase : ¬Sticks b
      ∧ (t = "Trying to associate with".toList ∨ t = "Associated with".toList)
    · refine iff_of_false ?_ (not_not_intro hphrase)
      rcases Family.of?_append_blanks_of_phrase hne hphrase with hboth | hboth
      · rw [hboth]
        exact nofun
      · rw [hboth]
        exact nofun
    · -- Without one of the phrases the white space makes no family of the text.
      have hboth : Family.of? (t ++ b) = none := by
        rw [Option.eq_none_iff_forall_ne_some]
        intro family hboth
        obtain ⟨-, heq | heq⟩ := Family.of?_of_append_blanks hboth hb hne
        · rw [hof] at heq
          cases heq
        · exact hphrase heq
      rw [hboth]
      exact iff_of_true rfl hphrase

/-! ### Connections -/

variable {isRegistered : String → Bool} {line line' : String} {text : List Char}

end Classifier

end SupplicantWatch
