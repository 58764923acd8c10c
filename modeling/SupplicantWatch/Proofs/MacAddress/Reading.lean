import Mathlib.Data.List.Forall2
import Mathlib.Tactic.Common
import SupplicantWatch.Proofs.Control.Address

/-!
# Which texts are addresses

An address is written as six groups of two hexadecimal digits between colons. Each group is read as
a numeral, and a numeral may have a sign: so a plus sign is taken where the first digit of a group
belongs, and the octet is that of the other digit. No other text is read as an address. Main
statement: `parse_iff_isAddress_or_isSigned`.
-/

namespace SupplicantWatch.MacAddress

variable {b : UInt8} {c d : Char} {g s : List Char} {m : MacAddress}

/-! ### Written addresses -/

/-- A hexadecimal digit in either case. -/
def IsHexDigit (c : Char) : Prop :=
  ('0' ≤ c ∧ c ≤ '9') ∨ ('a' ≤ c ∧ c ≤ 'f') ∨ ('A' ≤ c ∧ c ≤ 'F')

/-- Two hexadecimal digits. -/
def IsPair (g : List Char) : Prop :=
  ∃ c d, g = [c, d] ∧ IsHexDigit c ∧ IsHexDigit d

/-- A plus sign and a hexadecimal digit. -/
def IsSignedDigit (g : List Char) : Prop :=
  ∃ d, g = ['+', d] ∧ IsHexDigit d

/-- Six groups with single colons between them and nothing else, each group as said. -/
def IsGrouped (p : List Char → Prop) (s : List Char) : Prop :=
  ∃ groups : List (List Char),
    groups.length = 6 ∧ (∀ g ∈ groups, p g) ∧ s = [':'].intercalate groups

/-- Six groups of two hexadecimal digits. -/
def IsAddress (s : List Char) : Prop :=
  IsGrouped IsPair s

/-- Six such groups, but that in one of them at least a plus sign is in the place of the first
digit. -/
def IsSigned (s : List Char) : Prop :=
  '+' ∈ s ∧ IsGrouped (fun g => IsPair g ∨ IsSignedDigit g) s

/-- A character as it is written in an address, where a plus sign counts as a zero. -/
def lowered (c : Char) : Char :=
  if c = '+' then '0' else c.toLower

/-! ### Groups -/

lemma isHexDigit_iff : IsHexDigit c ↔ ∃ v, Text.hexValue? c = some v := by
  rw [IsHexDigit, Text.hexValue?]
  split_ifs <;> simp_all

lemma digit?_eq_some_iff {v : Nat} :
    Text.digit? 16 c = some v ↔ v < 16 ∧ c.toLower = Nat.digitChar v := by
  rw [Text.digit?, Option.filter_eq_some_iff, Text.hexValue?_eq_some_iff, decide_eq_true_iff]
  tauto

lemma digits?_singleton : Text.digits? 16 [d] = Text.digit? 16 d := by
  cases h : Text.digit? 16 d <;> simp [Text.digits?, h, Text.ofDigits]

lemma digits?_pair :
    Text.digits? 16 [c, d]
      = (Text.digit? 16 c).bind fun v => (Text.digit? 16 d).map fun w => 16 * v + w := by
  cases hc : Text.digit? 16 c with
  | none => simp [Text.digits?, hc]
  | some v =>
    have hone : Text.digits? 16 [c] = some v := digits?_singleton.trans hc
    exact Text.digits?_append d hone

lemma ne_plus_of_isHexDigit (h : IsHexDigit c) : c ≠ '+' := by
  rintro rfl
  revert h
  unfold IsHexDigit
  decide

lemma isHexDigit_of_digit? {v : Nat} (h : Text.digit? 16 c = some v) : IsHexDigit c :=
  isHexDigit_iff.2 ⟨v, (Option.filter_eq_some_iff.1 h).1⟩

lemma exists_digit?_of_isHexDigit (h : IsHexDigit c) : ∃ v, Text.digit? 16 c = some v := by
  obtain ⟨v, hv⟩ := isHexDigit_iff.1 h
  exact ⟨v, digit?_eq_some_iff.2 (Text.hexValue?_eq_some_iff.1 hv)⟩

lemma lowered_of_digit? {v : Nat} (h : Text.digit? 16 c = some v) :
    v < 16 ∧ lowered c = Nat.digitChar v := by
  rw [lowered, if_neg (ne_plus_of_isHexDigit (isHexDigit_of_digit? h))]
  exact digit?_eq_some_iff.1 h

lemma octet?_signed : octet? ['+', d] = (Text.digit? 16 d).map UInt8.ofNat := by
  have hoctet : octet? ['+', d] = ((Text.digits? 16 [d]).filter (· < 256)).map UInt8.ofNat := rfl
  rw [hoctet, digits?_singleton]
  cases h : Text.digit? 16 d with
  | none => rfl
  | some v =>
    have hlt : v < 256 := by
      have hv := (lowered_of_digit? h).1
      omega
    rw [Option.filter_some, if_pos (decide_eq_true hlt)]

lemma octet?_pair (hc : c ≠ '+') :
    octet? [c, d] = (Text.digit? 16 c).bind fun v =>
      (Text.digit? 16 d).map fun w => UInt8.ofNat (16 * v + w) := by
  have hword : Text.word? 16 8 [c, d] = (Text.digits? 16 [c, d]).filter (· < 256) := by
    unfold Text.word?
    split
    · next heq => exact absurd (List.cons.inj heq).1 hc
    · rfl
  have hoctet : octet? [c, d] = (Text.word? 16 8 [c, d]).map UInt8.ofNat := rfl
  rw [hoctet, hword, digits?_pair]
  cases hv : Text.digit? 16 c with
  | none => rfl
  | some v =>
    cases hw : Text.digit? 16 d with
    | none => rfl
    | some w =>
      have hlt : 16 * v + w < 256 := by
        have hv := (lowered_of_digit? hv).1
        have hw := (lowered_of_digit? hw).1
        omega
      rw [Option.bind_some, Option.map_some, Option.filter_some, if_pos (decide_eq_true hlt)]
      rfl

lemma isPair_or_isSignedDigit_of_octet? (h : octet? g = some b) : IsPair g ∨ IsSignedDigit g := by
  have hlength : g.length = 2 := by
    by_contra hne
    rw [octet?, if_neg hne] at h
    cases h
  obtain ⟨c, d, rfl⟩ := List.length_eq_two.1 hlength
  by_cases hc : c = '+'
  · subst hc
    rw [octet?_signed, Option.map_eq_some_iff] at h
    obtain ⟨v, hd, -⟩ := h
    exact .inr ⟨d, rfl, isHexDigit_of_digit? hd⟩
  · rw [octet?_pair hc, Option.bind_eq_some_iff] at h
    obtain ⟨v, hv, h⟩ := h
    obtain ⟨w, hw, -⟩ := Option.map_eq_some_iff.1 h
    exact .inl ⟨c, d, rfl, isHexDigit_of_digit? hv, isHexDigit_of_digit? hw⟩

lemma exists_octet? (h : IsPair g ∨ IsSignedDigit g) :
    ∃ b, octet? g = some b ∧ g.map lowered = Text.hexByte b := by
  rcases h with ⟨c, d, rfl, hc, hd⟩ | ⟨d, rfl, hd⟩
  · obtain ⟨v, hv⟩ := exists_digit?_of_isHexDigit hc
    obtain ⟨w, hw⟩ := exists_digit?_of_isHexDigit hd
    obtain ⟨hvlt, hvlow⟩ := lowered_of_digit? hv
    obtain ⟨hwlt, hwlow⟩ := lowered_of_digit? hw
    refine ⟨UInt8.ofNat (16 * v + w), ?_, ?_⟩
    · rw [octet?_pair (ne_plus_of_isHexDigit hc), hv, hw]
      rfl
    · rw [Text.hexByte_ofNat hvlt hwlt, ← hvlow, ← hwlow]
      rfl
  · obtain ⟨w, hw⟩ := exists_digit?_of_isHexDigit hd
    obtain ⟨hwlt, hwlow⟩ := lowered_of_digit? hw
    refine ⟨UInt8.ofNat (16 * 0 + w), ?_, ?_⟩
    · rw [octet?_signed, hw, Nat.mul_zero, Nat.zero_add]
      rfl
    · rw [Text.hexByte_ofNat (by omega) hwlt, ← hwlow]
      rfl

/-- A group is read as the octet whose digits it has, where a plus sign counts as a zero. -/
lemma octet?_eq_some_iff :
    octet? g = some b ↔ (IsPair g ∨ IsSignedDigit g) ∧ g.map lowered = Text.hexByte b := by
  constructor
  · intro h
    have hgroup := isPair_or_isSignedDigit_of_octet? h
    obtain ⟨b', hoctet, hlow⟩ := exists_octet? hgroup
    obtain rfl : b = b' := Option.some.inj (h.symm.trans hoctet)
    exact ⟨hgroup, hlow⟩
  · rintro ⟨hgroup, hlow⟩
    obtain ⟨b', hoctet, hlow'⟩ := exists_octet? hgroup
    obtain rfl : b' = b := Text.hexByte_inj.1 (hlow'.symm.trans hlow)
    exact hoctet

/-! ### Texts -/

lemma colon_notMem (h : IsPair g ∨ IsSignedDigit g) : ':' ∉ g := by
  have hcolon : ¬IsHexDigit ':' := by
    unfold IsHexDigit
    decide
  intro hmem
  rcases h with ⟨c, d, rfl, hc, hd⟩ | ⟨d, rfl, hd⟩
  · simp only [List.mem_cons, List.not_mem_nil, or_false] at hmem
    rcases hmem with rfl | rfl
    · exact hcolon hc
    · exact hcolon hd
  · simp only [List.mem_cons, List.not_mem_nil, or_false] at hmem
    rcases hmem with h | rfl
    · cases h
    · exact hcolon hd

lemma exists_mapM_octet? {groups : List (List Char)}
    (h : ∀ g ∈ groups, IsPair g ∨ IsSignedDigit g) :
    ∃ octets, groups.mapM octet? = some octets := by
  induction groups with
  | nil => exact ⟨[], rfl⟩
  | cons g groups ih =>
    rw [List.forall_mem_cons] at h
    obtain ⟨b, hb, -⟩ := exists_octet? h.1
    obtain ⟨octets, hoctets⟩ := ih h.2
    exact ⟨b :: octets, by simp [List.mapM_cons, hb, hoctets]⟩

/-- Groups that are read as some octets have their digits. -/
lemma of_mapM_octet? {groups : List (List Char)} {octets : List UInt8}
    (h : groups.mapM octet? = some octets) :
    (∀ g ∈ groups, IsPair g ∨ IsSignedDigit g)
      ∧ groups.map (·.map lowered) = octets.map Text.hexByte := by
  induction groups generalizing octets with
  | nil =>
    obtain rfl : [] = octets := Option.some.inj h
    exact ⟨List.forall_mem_nil _, rfl⟩
  | cons g groups ih =>
    simp only [List.mapM_cons, Option.bind_eq_bind, Option.bind_eq_some_iff, Option.pure_def,
      Option.some.injEq] at h
    obtain ⟨b, hb, octets, hoctets, rfl⟩ := h
    obtain ⟨hg, hlow⟩ := octet?_eq_some_iff.1 hb
    obtain ⟨hgroups, hlows⟩ := ih hoctets
    exact ⟨List.forall_mem_cons.2 ⟨hg, hgroups⟩, by rw [List.map_cons, List.map_cons, hlow, hlows]⟩

lemma ofChars?_eq_some_iff_mapM :
    ofChars? s = some m ↔ (s.splitOn ':').mapM octet? = some m.octets := by
  unfold ofChars?
  split
  · next a b c d e f h =>
    rw [h, Option.some.injEq, Option.some.injEq]
    cases m
    simp [octets]
  · next hnot =>
    simp only [reduceCtorEq, false_iff]
    exact fun h => hnot _ _ _ _ _ _ h

/-- A text that is read as an address has its written form, where a plus sign counts as a zero. -/
lemma of_ofChars? (h : ofChars? s = some m) :
    IsGrouped (fun g => IsPair g ∨ IsSignedDigit g) s ∧ s.map lowered = m.toChars := by
  obtain ⟨hgroups, hlow⟩ := of_mapM_octet? (ofChars?_eq_some_iff_mapM.1 h)
  have hlength : (s.splitOn ':').length = 6 := by
    have hlength := congrArg List.length hlow
    rwa [List.length_map, List.length_map] at hlength
  refine ⟨⟨_, hlength, hgroups, (List.intercalate_splitOn ':').symm⟩, ?_⟩
  calc s.map lowered
      = ([':'].intercalate (s.splitOn ':')).map lowered := by rw [List.intercalate_splitOn]
    _ = [':'].intercalate (m.octets.map Text.hexByte) := by
      rw [Text.map_intercalate, hlow]
      rfl

/-- The pieces of six groups are the groups. -/
lemma splitOn_intercalate_groups {groups : List (List Char)} (hlength : groups.length = 6)
    (hgroups : ∀ g ∈ groups, IsPair g ∨ IsSignedDigit g) :
    List.splitOn ':' ([':'].intercalate groups) = groups := by
  have hne : groups ≠ [] := by
    rintro rfl
    cases hlength
  rw [Text.splitOn_intercalate_eq_flatMap hne,
    List.flatMap_congr fun g hg => List.splitOn_eq_singleton (colon_notMem (hgroups g hg)),
    List.flatMap_singleton']

/-- Six groups are read as some address. -/
lemma exists_ofChars? (h : IsGrouped (fun g => IsPair g ∨ IsSignedDigit g) s) :
    ∃ m, ofChars? s = some m := by
  obtain ⟨groups, hlength, hgroups, rfl⟩ := h
  obtain ⟨octets, hoctets⟩ := exists_mapM_octet? hgroups
  have hsix : octets.length = 6 := by
    have hlow := congrArg List.length (of_mapM_octet? hoctets).2
    rw [List.length_map, List.length_map, hlength] at hlow
    exact hlow.symm
  rw [← splitOn_intercalate_groups hlength hgroups] at hoctets
  match octets, hsix with
  | [a, b, c, d, e, f], _ => exact ⟨⟨a, b, c, d, e, f⟩, ofChars?_eq_some_iff_mapM.2 hoctets⟩

lemma plus_notMem_of_isAddress (h : IsAddress s) : '+' ∉ s := by
  obtain ⟨groups, -, hgroups, rfl⟩ := h
  have hplus : ∀ c ∈ [':'].intercalate groups, c ≠ '+' := by
    refine Text.forall_mem_intercalate (p := (· ≠ '+')) (by decide) fun g hg => ?_
    obtain ⟨c, d, rfl, hc, hd⟩ := hgroups g hg
    rw [List.forall_mem_cons, List.forall_mem_singleton]
    exact ⟨ne_plus_of_isHexDigit hc, ne_plus_of_isHexDigit hd⟩
  exact fun hmem => hplus '+' hmem rfl

/-- Where a group is no pair of hexadecimal digits there is a plus sign in the text. -/
lemma isAddress_or_isSigned_iff :
    IsAddress s ∨ IsSigned s ↔ IsGrouped (fun g => IsPair g ∨ IsSignedDigit g) s := by
  constructor
  · rintro (⟨groups, hlength, hgroups, rfl⟩ | ⟨-, h⟩)
    · exact ⟨groups, hlength, fun g hg => .inl (hgroups g hg), rfl⟩
    · exact h
  · intro h
    by_cases hplus : '+' ∈ s
    · exact .inr ⟨hplus, h⟩
    · obtain ⟨groups, hlength, hgroups, rfl⟩ := h
      refine .inl ⟨groups, hlength, fun g hg => (hgroups g hg).resolve_right ?_, rfl⟩
      rintro ⟨d, rfl, -⟩
      rw [← splitOn_intercalate_groups hlength hgroups] at hg
      exact hplus (Text.mem_of_mem_splitOn hg List.mem_cons_self)

lemma map_lowered_of_isAddress (h : IsAddress s) : s.map lowered = s.map Char.toLower := by
  apply List.map_congr_left
  intro c hc
  have hplus : c ≠ '+' := by
    rintro rfl
    exact plus_notMem_of_isAddress h hc
  exact if_neg hplus

lemma parse_eq_ok_iff {s : String} : parse s = .ok m ↔ ofChars? s.toList = some m := by
  rw [parse]
  cases ofChars? s.toList <;> simp

/-- A text is read as an address exactly if it is six groups of two hexadecimal digits in either
case, or such groups with a plus sign in place of a first digit; no other text is. The written form
of what is read is the text in lower case, where a plus sign has become a zero. The error of a text
that is not read carries the text, and the written form of each address is read as that address. -/
theorem parse_iff_isAddress_or_isSigned (s : String) :
    ((∃ m, parse s = .ok m) ↔ IsAddress s.toList ∨ IsSigned s.toList)
      ∧ (∀ m, parse s = .ok m → m.render = String.ofList (s.toList.map lowered)
          ∧ (IsAddress s.toList → m.render = String.ofList (s.toList.map Char.toLower)))
      ∧ (parse s = .error (.malformedMac s) ↔ ¬(IsAddress s.toList ∨ IsSigned s.toList))
      ∧ ∀ m : MacAddress, parse m.render = .ok m := by
  have hread : (∃ m, parse s = .ok m) ↔ IsAddress s.toList ∨ IsSigned s.toList := by
    rw [isAddress_or_isSigned_iff]
    constructor
    · rintro ⟨m, hm⟩
      exact (of_ofChars? (parse_eq_ok_iff.1 hm)).1
    · intro h
      obtain ⟨m, hm⟩ := exists_ofChars? h
      exact ⟨m, parse_eq_ok_iff.2 hm⟩
  refine ⟨hread, fun m hm => ?_, ?_, fun m => ?_⟩
  · have hlow := (of_ofChars? (parse_eq_ok_iff.1 hm)).2
    refine ⟨by rw [render, ← hlow], fun haddress => ?_⟩
    rw [render, ← hlow, map_lowered_of_isAddress haddress]
  · rw [← hread, parse]
    cases ofChars? s.toList <;> simp
  · rw [parse_eq_ok_iff, render, String.toList_ofList]
    exact ofChars?_toChars m

/-- Upper case is read and written in lower case. -/
theorem parse_upperCase :
    parse "AC:22:0B:24:70:74" = .ok ⟨0xac, 0x22, 0x0b, 0x24, 0x70, 0x74⟩
      ∧ IsAddress "AC:22:0B:24:70:74".toList
      ∧ render ⟨0xac, 0x22, 0x0b, 0x24, 0x70, 0x74⟩ = "ac:22:0b:24:70:74" := by
  obtain ⟨hread, hrender, -, -⟩ := parse_iff_isAddress_or_isSigned "AC:22:0B:24:70:74"
  have hok : parse "AC:22:0B:24:70:74" = .ok ⟨0xac, 0x22, 0x0b, 0x24, 0x70, 0x74⟩ := by
    decide +kernel
  have hplus : '+' ∉ "AC:22:0B:24:70:74".toList := by decide
  have haddress : IsAddress "AC:22:0B:24:70:74".toList :=
    (hread.1 ⟨_, hok⟩).resolve_right fun hsigned => hplus hsigned.1
  exact ⟨hok, haddress, (hrender _ hok).2 haddress⟩

/-- A plus sign is no hexadecimal digit, and yet it is read as one. -/
theorem parse_plusSign :
    ¬IsAddress "+f:00:00:00:00:00".toList
      ∧ parse "+f:00:00:00:00:00" = .ok ⟨0x0f, 0, 0, 0, 0, 0⟩ :=
  ⟨fun h => plus_notMem_of_isAddress h (by decide), by decide +kernel⟩

end SupplicantWatch.MacAddress
