import Mathlib.Tactic.Common
import SupplicantWatch.Proofs.Dialogue.Course
import SupplicantWatch.Proofs.Hotspot.Commands
import SupplicantWatch.Proofs.MacAddress.Reading
import SupplicantWatch.Proofs.Text.Blanks

/-!
# White space behind a notice of Hotspot 2.0

These lines are told apart by the number of their parts, and their last part is a value. White space
behind an icon notification makes it unreadable, behind a network management notice it becomes a
part of the address on the web, and behind the address of an access point it makes that no address.
Main statements: `anqpEvent_append_blanks_iff`, `iconEvent_append_blanks_iff`,
`remediationEvent_append_blanks_iff` and `deauthEvent_append_blanks_iff`.
-/

namespace SupplicantWatch

open Text (IsBlank IsSolid Sticks)

/-- A text with white space in it is no address. -/
lemma MacAddress.ofChars?_eq_none_of_isBlank {s : List Char} {c : Char}
    (hc : Text.isBlank c = true) (h : c ∈ s) : ofChars? s = none := by
  have hdigit {d : Char} (hd : IsHexDigit d) : Text.isBlank d = false := by
    obtain ⟨v, hv⟩ := exists_digit?_of_isHexDigit hd
    exact Text.isBlank_of_digit? hv
  rw [Option.eq_none_iff_forall_ne_some]
  intro m hm
  obtain ⟨⟨groups, -, hgroups, rfl⟩, -⟩ := of_ofChars? hm
  -- Every character of an address is a digit, a colon or the sign in front of a digit.
  have hall : ∀ d ∈ [':'].intercalate groups, Text.isBlank d = false := by
    refine Text.forall_mem_intercalate (p := (Text.isBlank · = false)) (by decide) fun g hg => ?_
    rcases hgroups g hg with ⟨d, e, rfl, hd, he⟩ | ⟨d, rfl, hd⟩
    · rw [List.forall_mem_cons, List.forall_mem_singleton]
      exact ⟨hdigit hd, hdigit he⟩
    · rw [List.forall_mem_cons, List.forall_mem_singleton]
      exact ⟨by decide, hdigit hd⟩
  rw [hall c h] at hc
  cases hc

namespace Hotspot

open Classifier (verdictOf)

variable {t b : List Char} {bssid : MacAddress} {chunkSize count : Nat}

/-! ### Queries -/

/-- A report that a query has ended has its result, and ends in an address that can be used. -/
def MindsAddress (t : List Char) : Prop :=
  valueAfter? "result=" t ≠ none ∧ ∃ front address bssid,
    Text.find? "addr=".toList t = some (front, address) ∧ ' ' ∉ address
      ∧ MacAddress.ofChars? address = some bssid ∧ bssid ≠ .zero

/-- Without a reply there are no elements, so of a report only the address is left. -/
lemma verdictOf_unanswered_anqpEvent (t : List Char) :
    verdictOf (anqpEvent t).unanswered
      = .ofEvent? ((valueAfter? "result=" t).bind fun _ =>
        (valueAfter? "addr=" t).map fun address =>
          .anqpDone ⟨(MacAddress.ofChars? address).getD .zero, none⟩) := by
  rw [anqpEvent]
  cases valueAfter? "addr=" t with
  | none => cases valueAfter? "result=" t <;> rfl
  | some address =>
    cases valueAfter? "result=" t with
    | none => rfl
    | some result =>
      simp only [Option.bind_some, Option.map_some]
      cases MacAddress.ofChars? address with
      | none => rfl
      | some bssid =>
        dsimp only
        split_ifs <;> rfl

lemma valueAfter?_append_blanks {marker : String} (hm : IsSolid marker.toList) (hb : IsBlank b)
    (t : List Char) : valueAfter? marker (t ++ b)
      = (Text.find? marker.toList t).map fun parts => Text.before ' ' (parts.2 ++ b) := by
  rw [valueAfter?, Text.find?_append_blanks hm hb, Option.map_map]
  rfl

/-- A report that a query has ended is read otherwise with white space behind it if that goes on an
address that can be used. -/
theorem anqpEvent_append_blanks_iff (hb : IsBlank b) (t : List Char) :
    verdictOf (anqpEvent (t ++ b)).unanswered = verdictOf (anqpEvent t).unanswered
      ↔ ¬(Sticks b ∧ MindsAddress t) := by
  have hresult : IsSolid "result=".toList := by decide
  have haddress : IsSolid "addr=".toList := by decide
  rw [verdictOf_unanswered_anqpEvent, verdictOf_unanswered_anqpEvent, MindsAddress,
    valueAfter?_append_blanks hresult hb, valueAfter?_append_blanks haddress hb, valueAfter?,
    valueAfter?]
  cases Text.find? "result=".toList t with
  | none => exact iff_of_true rfl (by simp)
  | some parts =>
    cases Text.find? "addr=".toList t with
    | none => exact iff_of_true rfl (by simp)
    | some parts =>
      obtain ⟨front, address⟩ := parts
      simp only [Option.map_some, Option.bind_some, Verdict.ofEvent?, Verdict.event.injEq,
        Event.anqpDone.injEq, AnqpResult.mk.injEq, and_true]
      by_cases h : ' ' ∈ address ∨ ¬Sticks b
      · rw [Text.before_append_of_not_sticks h]
        refine iff_of_true rfl ?_
        rintro ⟨hsticks, -, front', address', bssid, hfind, hspace, -⟩
        cases hfind
        tauto
      · push Not at h
        obtain ⟨hspace, hsticks⟩ := h
        obtain ⟨c, hmem, hc⟩ := hsticks.exists_mem_before hb
        have hnone : MacAddress.ofChars? (address ++ Text.before ' ' b) = none :=
          MacAddress.ofChars?_eq_none_of_isBlank hc (List.mem_append_right address hmem)
        rw [Text.before_append_of_notMem hspace, Text.before_of_notMem hspace, hnone]
        cases hbssid : MacAddress.ofChars? address with
        | none => simp [hbssid]
        | some bssid => simp [hbssid, hspace, hsticks, eq_comm]

/-! ### Icons -/

/-- A notification of an icon that can be read. -/
def IsIcon (t : List Char) : Prop :=
  ∃ event address file number bssid size, t.splitOn ' ' = [event, address, file, number]
    ∧ MacAddress.ofChars? address = some bssid ∧ Text.word? 10 32 number = some size

lemma parse_ofList_eq_ok_iff {address : List Char} :
    MacAddress.parse (String.ofList address) = .ok bssid
      ↔ MacAddress.ofChars? address = some bssid := by
  rw [MacAddress.parse_eq_ok_iff, String.toList_ofList]

/-- A notification of an icon is read exactly if it can be. -/
lemma verdictOf_unanswered_iconEvent (chunkSize : Nat) (t : List Char) :
    verdictOf (iconEvent t chunkSize).unanswered ≠ .unrecognized ↔ IsIcon t := by
  constructor
  · intro h
    unfold iconEvent at h
    split at h
    · next event address file number hsplit =>
      split at h
      · exact absurd rfl h
      · exact absurd rfl h
      · next size bssid hsize hparse =>
        exact ⟨event, address, file, number, bssid, size, hsplit,
          parse_ofList_eq_ok_iff.1 hparse, hsize⟩
    · exact absurd rfl h
  · rintro ⟨event, address, file, number, bssid, size, hsplit, hbssid, hsize⟩
    have hparse := parse_ofList_eq_ok_iff.2 hbssid
    rw [iconEvent, hsplit]
    simp only [hsize, hparse]
    split_ifs
    · rw [Dialogue.unanswered_bind]
      rintro ⟨⟩
    · rintro ⟨⟩

/-- No icon can be read where the line ends in white space, so a notification is read otherwise with
white space behind it if it can be read without. -/
theorem iconEvent_append_blanks_iff (hb : IsBlank b) (hne : b ≠ []) (t : List Char) :
    verdictOf (iconEvent (t ++ b) chunkSize).unanswered
        = verdictOf (iconEvent t chunkSize).unanswered
      ↔ ¬IsIcon t := by
  have hblank : verdictOf (iconEvent (t ++ b) chunkSize).unanswered = .unrecognized := by
    by_contra h
    obtain ⟨event, address, file, number, bssid, size, hsplit, -, hsize⟩ :=
      (verdictOf_unanswered_iconEvent chunkSize _).1 h
    have hpieces : List.splitOn ' ' (t ++ b) = [event, address, file] ++ [number] := hsplit
    have hsolid := (Text.isSolid_last_splitOn_iff hpieces).1 (Text.isSolid_of_word? hsize)
    exact Text.not_isSolid_append_blanks hb hne hsolid
  rw [hblank, ← verdictOf_unanswered_iconEvent chunkSize t, not_not, eq_comm]

/-! ### Network management -/

/-- A network management notice that can be read: its numbers and the address on the web. -/
def IsNotice (count : Nat) (t url : List Char) : Prop :=
  ∃ event numbers, t.splitOn ' ' = event :: numbers ++ [url] ∧ numbers.length = count
    ∧ ∀ number ∈ numbers, Text.int? 32 number ≠ none

/-- The address on the web in a network management notice. -/
def urlOf? : Verdict → Option (List Char)
  | .event (.management (.subscriptionRemediation _ url _)) => some url.toList
  | .event (.management (.deauthImminent _ url _ _)) => some url.toList
  | _ => none

/-- A notice is read with its address on the web exactly if it can be. -/
structure ReadsNotice (count : Nat) (t : List Char) (verdict : Verdict) : Prop where
  urlOf?_eq_some_iff : ∀ url, urlOf? verdict = some url ↔ IsNotice count t url
  eq_unrecognized : urlOf? verdict = none → verdict = .unrecognized

lemma ReadsNotice.eq_iff {verdict verdict' : Verdict} (h : ReadsNotice count t verdict)
    (h' : ReadsNotice count (t ++ b) verdict') (ht : IsSolid t) (hb : IsBlank b) (hne : b ≠ []) :
    verdict' = verdict ↔ ¬∃ url, IsNotice count t url ∨ IsNotice count (t ++ b) url := by
  constructor
  · rintro rfl ⟨url, hnotice⟩
    rw [← h.urlOf?_eq_some_iff, ← h'.urlOf?_eq_some_iff, or_self] at hnotice
    -- The address is the last part of both lines, but ends in white space in one of them only.
    obtain ⟨event, numbers, hsplit, -⟩ := (h.urlOf?_eq_some_iff url).1 hnotice
    obtain ⟨event', numbers', hsplit', -⟩ := (h'.urlOf?_eq_some_iff url).1 hnotice
    have hsolid : IsSolid (t ++ b) :=
      (Text.isSolid_last_splitOn_iff hsplit').1 ((Text.isSolid_last_splitOn_iff hsplit).2 ht)
    exact Text.not_isSolid_append_blanks hb hne hsolid
  · intro hnot
    push Not at hnot
    have hnone : urlOf? verdict = none :=
      Option.eq_none_iff_forall_ne_some.2 fun url hurl =>
        (hnot url).1 ((h.urlOf?_eq_some_iff url).1 hurl)
    have hnone' : urlOf? verdict' = none :=
      Option.eq_none_iff_forall_ne_some.2 fun url hurl =>
        (hnot url).2 ((h'.urlOf?_eq_some_iff url).1 hurl)
    rw [h.eq_unrecognized hnone, h'.eq_unrecognized hnone']

lemma readsNotice_remediationEvent (t : List Char) :
    ReadsNotice 1 t (verdictOf (remediationEvent t bssid)) := by
  have hiff (url : List Char) : IsNotice 1 t url
      ↔ ∃ event method, t.splitOn ' ' = [event, method, url]
        ∧ Text.int? 32 method ≠ none := by
    simp only [IsNotice, List.length_eq_one_iff]
    constructor
    · rintro ⟨event, _, hsplit, ⟨method, rfl⟩, hmethod⟩
      exact ⟨event, method, hsplit, hmethod method List.mem_cons_self⟩
    · rintro ⟨event, method, hsplit, hmethod⟩
      exact ⟨event, [method], hsplit, ⟨method, rfl⟩, List.forall_mem_singleton.2 hmethod⟩
  unfold remediationEvent
  split
  · next event method url hsplit =>
    split
    · next n hn =>
      refine ⟨fun url' => ?_, nofun⟩
      rw [hiff, hsplit]
      simp [verdictOf, urlOf?, hn]
    · next hn =>
      refine ⟨fun url' => ?_, fun _ => rfl⟩
      rw [hiff, hsplit]
      simp [verdictOf, urlOf?, hn]
  · next hnot =>
    refine ⟨fun url => iff_of_false nofun ?_, fun _ => rfl⟩
    rw [hiff]
    rintro ⟨event, method, hsplit, -⟩
    exact hnot event method url hsplit

lemma readsNotice_deauthEvent (t : List Char) :
    ReadsNotice 2 t (verdictOf (deauthEvent t bssid)) := by
  have hiff (url : List Char) : IsNotice 2 t url
      ↔ ∃ event code delay, t.splitOn ' ' = [event, code, delay, url]
        ∧ Text.int? 32 code ≠ none ∧ Text.int? 32 delay ≠ none := by
    simp only [IsNotice, List.length_eq_two]
    constructor
    · rintro ⟨event, _, hsplit, ⟨code, delay, rfl⟩, hnumbers⟩
      rw [List.forall_mem_cons, List.forall_mem_singleton] at hnumbers
      exact ⟨event, code, delay, hsplit, hnumbers⟩
    · rintro ⟨event, code, delay, hsplit, hnumbers⟩
      refine ⟨event, [code, delay], hsplit, ⟨code, delay, rfl⟩, ?_⟩
      rwa [List.forall_mem_cons, List.forall_mem_singleton]
  unfold deauthEvent
  split
  · next event code delay url hsplit =>
    split
    · next hcode hdelay =>
      refine ⟨fun url' => ?_, nofun⟩
      rw [hiff, hsplit]
      simp [verdictOf, urlOf?, hcode, hdelay]
    · next hnot =>
      refine ⟨fun url' => ?_, fun _ => rfl⟩
      rw [hiff, hsplit]
      refine iff_of_false nofun ?_
      rintro ⟨_, _, _, ⟨⟩, hcode, hdelay⟩
      obtain ⟨c, hc⟩ := Option.ne_none_iff_exists'.1 hcode
      obtain ⟨d, hd⟩ := Option.ne_none_iff_exists'.1 hdelay
      exact hnot c d hc hd
  · next hnot =>
    refine ⟨fun url => iff_of_false nofun ?_, fun _ => rfl⟩
    rw [hiff]
    rintro ⟨event, code, delay, hsplit, -⟩
    exact hnot event code delay url hsplit

/-- A notice that can be read shows the end of its line. -/
theorem remediationEvent_append_blanks_iff (ht : IsSolid t) (hb : IsBlank b) (hne : b ≠ []) :
    verdictOf (remediationEvent (t ++ b) bssid) = verdictOf (remediationEvent t bssid)
      ↔ ¬∃ url, IsNotice 1 t url ∨ IsNotice 1 (t ++ b) url :=
  (readsNotice_remediationEvent t).eq_iff (readsNotice_remediationEvent _) ht hb hne

/-- A warning that can be read shows the end of its line. -/
theorem deauthEvent_append_blanks_iff (ht : IsSolid t) (hb : IsBlank b) (hne : b ≠ []) :
    verdictOf (deauthEvent (t ++ b) bssid) = verdictOf (deauthEvent t bssid)
      ↔ ¬∃ url, IsNotice 2 t url ∨ IsNotice 2 (t ++ b) url :=
  (readsNotice_deauthEvent t).eq_iff (readsNotice_deauthEvent _) ht hb hne

end Hotspot

end SupplicantWatch
