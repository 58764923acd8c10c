import Mathlib.Tactic.Common
import SupplicantWatch.Proofs.Control.Connection
import SupplicantWatch.Proofs.Text.Blanks

/-!
# White space behind a report of a connection

What is read of a connection, a disconnection or a rejected association ends in front of the white
space behind the payload. Only a space can be part of what is looked for: one behind a dash makes
that the dash in front of a payload, and one behind the start of a bracket closes the bracket. Main
statements: `afterDash_append_blanks` and `connectionEvent_append_blanks_iff`.
-/

namespace SupplicantWatch

namespace MacAddress

variable {s b : List Char}

lemma isSolid_of_isLower (h : isLower s = true) : Text.IsSolid s := by
  have hne : s ≠ [] := by
    rintro rfl
    cases h
  refine ⟨s.getLast hne, List.getLast?_eq_some_getLast hne, ?_⟩
  rcases forall_mem_of_isLower h _ (List.getLast_mem hne) with hc | hc
  · rw [hc]
    decide
  · exact Text.isBlank_of_isLowerHex hc

lemma takeLower?_append_blanks (hb : Text.IsBlank b) (s : List Char) :
    takeLower? (s ++ b) = (takeLower? s).map fun parts => (parts.1, parts.2 ++ b) := by
  cases h : takeLower? s with
  | some parts =>
    obtain ⟨hs, hlower⟩ := takeLower?_eq_some_iff.1 h
    exact takeLower?_eq_some_iff.2 ⟨by rw [hs, List.append_assoc], hlower⟩
  | none =>
    rw [Option.map_none, Option.eq_none_iff_forall_ne_some]
    rintro ⟨address, rest⟩ hsome
    obtain ⟨heq, hlower⟩ := takeLower?_eq_some_iff.1 hsome
    have hsplit : s ++ b = [] ++ (address ++ rest) := heq
    obtain ⟨rest', -, hs⟩ := (isSolid_of_isLower hlower).exists_of_append_eq hb hsplit
    have hread : takeLower? s = some (address, rest') := takeLower?_eq_some_iff.2 ⟨hs, hlower⟩
    rw [h] at hread
    cases hread

end MacAddress

namespace Control

open Text (IsBlank IsSolid Sticks IsNumeral decimalOr)

variable {t b s p digits : List Char}

/-! ### Behind a dash -/

/-- A space behind the text would make its end the first dash between spaces. -/
def EndsInDash (t : List Char) : Prop :=
  " -".toList <:+ t ∧ ¬" - ".toList <:+: t

lemma afterDash_append_blanks (hb : IsBlank b) (h : ¬(EndsInDash t ∧ ¬Sticks b ∧ b ≠ [])) :
    afterDash (t ++ b) = afterDash t ++ b := by
  cases hfind : Text.find? " - ".toList t with
  | some parts =>
    rw [afterDash, afterDash, hfind, Text.find?_append_of_eq_some hfind]
    rfl
  | none =>
    have hnot : ¬" - ".toList <:+: t := Text.find?_eq_none_iff.1 hfind
    have hnone : Text.find? " - ".toList (t ++ b) = none := by
      rw [Text.find?_eq_none_iff]
      rintro ⟨front, rest, heq⟩
      have hsolid : IsSolid " -".toList := by decide
      have hdash : t ++ b = front ++ (" -".toList ++ ' ' :: rest) := by
        rw [← heq, List.append_assoc]
        rfl
      -- The dash and the space in front of it are of the text, so only the space behind may be
      -- white space.
      obtain ⟨rest', hrest, rfl⟩ := hsolid.exists_of_append_eq hb hdash
      cases rest' with
      | nil =>
        rw [List.nil_append] at hrest
        subst hrest
        refine h ⟨⟨⟨front, by rw [List.append_nil]⟩, hnot⟩, ?_, List.cons_ne_nil _ _⟩
        rw [Text.not_sticks_iff]
        exact .inr ⟨rest, rfl⟩
      | cons c rest' =>
        obtain ⟨rfl, -⟩ := List.cons.inj hrest
        exact hnot ⟨front, rest', by simp⟩
    rw [afterDash, afterDash, hfind, hnone]
    rfl

lemma EndsInDash.afterDash_append_cons (h : EndsInDash t) (b : List Char) :
    afterDash t = t ∧ afterDash (t ++ ' ' :: b) = b := by
  obtain ⟨⟨front, rfl⟩, hnot⟩ := h
  constructor
  · rw [afterDash, Text.find?_eq_none_iff.2 hnot]
    rfl
  · have hfind : Text.find? " - ".toList (front ++ " -".toList ++ ' ' :: b) = some (front, b) := by
      refine Text.find?_eq_some_iff.2 ⟨by simp, ?_⟩
      intro front' rest' heq
      by_contra hlt
      have hle : (front' ++ " - ".toList).length ≤ (front ++ " -".toList).length := by
        have hdash : " - ".toList.length = 3 := rfl
        have hdash' : " -".toList.length = 2 := rfl
        rw [List.length_append, List.length_append, hdash, hdash']
        omega
      obtain ⟨tail, htail, -⟩ := Text.exists_of_length_le heq hle
      exact hnot ⟨front', tail, htail.symm⟩
    rw [afterDash, hfind]
    rfl

/-! ### Connections -/

/-- What is read behind a word that some spaces are in front of. -/
lemma bind_space_isPrefixOf?_append_blanks {α : Type} {w : List Char} {f : List Char → Option α}
    (hw : IsSolid w) (hf : ∀ s, f (s ++ b) = f s) (hb : IsBlank b) (s : List Char) :
    ((Text.some? (· == ' ') (s ++ b)).bind fun parts => (List.isPrefixOf? w parts.2).bind f)
      = (Text.some? (· == ' ') s).bind fun parts => (List.isPrefixOf? w parts.2).bind f := by
  rw [← Option.bind_assoc, Text.some?_space_isPrefixOf?_append_blanks hw hb, Option.bind_map,
    ← Option.bind_assoc]
  exact Option.bind_congr fun r _ => hf r

lemma bind_map_append {α : Type} {f : List Char × List Char → Option α}
    (hf : ∀ front s, f (front, s ++ b) = f (front, s)) (parts : Option (List Char × List Char)) :
    (parts.map fun parts => (parts.1, parts.2 ++ b)).bind f = parts.bind f := by
  rw [Option.bind_map]
  exact Option.bind_congr fun parts _ => hf parts.1 parts.2

lemma disconnection?_append_blanks (s b : List Char) (hb : IsBlank b) :
    disconnection? (s ++ b) = disconnection? s := by
  unfold disconnection?
  simp only [Option.bind_eq_bind]
  rw [MacAddress.takeLower?_append_blanks hb]
  refine bind_map_append (fun address s => ?_) _
  refine bind_space_isPrefixOf?_append_blanks (by decide) (fun s => ?_) hb s
  rw [Text.some?_append_blanks (fun _ => Text.isDigit_of_isBlank) hb]
  refine bind_map_append (fun digits s => ?_) _
  refine bind_space_isPrefixOf?_append_blanks (by decide) (fun s => ?_) hb s
  cases s with
  | cons c s => rfl
  | nil =>
    cases b with
    | nil => rfl
    | cons c b =>
      have hc := hb c List.mem_cons_self
      have hnot : ¬(c = '0' ∨ c = '1') := by
        rintro (rfl | rfl)
        · cases hc
        · cases hc
      exact if_neg hnot

lemma rejection?_append_blanks (s b : List Char) (hb : IsBlank b) :
    rejection? (s ++ b) = rejection? s := by
  have hstatus (s : List Char) : statusCode? (s ++ b) = statusCode? s := by
    unfold statusCode?
    simp only [Option.bind_eq_bind]
    rw [Text.isPrefixOf?_append_blanks (by decide) hb, Option.bind_map]
    refine Option.bind_congr fun s _ => ?_
    simp only [Function.comp_apply]
    rw [Text.some?_append_blanks (fun _ => Text.isDigit_of_isBlank) hb]
    exact bind_map_append (fun _ _ => rfl) _
  have haddressed : addressedStatus? (s ++ b) = addressedStatus? s := by
    unfold addressedStatus?
    simp only [Option.bind_eq_bind]
    rw [MacAddress.takeLower?_append_blanks hb]
    refine bind_map_append (fun address s => ?_) _
    unfold statusCode?
    simp only [Option.bind_eq_bind, Option.bind_assoc]
    refine bind_space_isPrefixOf?_append_blanks (by decide) (fun s => ?_) hb s
    rw [Text.some?_append_blanks (fun _ => Text.isDigit_of_isBlank) hb]
    exact bind_map_append (fun _ _ => rfl) _
  rw [rejection?, haddressed, hstatus, rejection?]

/-! ### Brackets -/

/-- The text ends in the start of a bracket with the digits in it. -/
def EndsInMark (digits s : List Char) : Prop :=
  IsNumeral digits ∧ " [id=".toList ++ digits <:+ s

lemma networkMark?_append_blanks (hb : IsBlank b) (h : Sticks b ∨ ∀ digits, ¬EndsInMark digits s) :
    networkMark? (s ++ b) = networkMark? s := by
  ext digits
  rw [networkMark?_eq_some_iff, networkMark?_eq_some_iff]
  refine and_congr_right fun hdigits => ⟨?_, fun hp => hp.trans (List.prefix_append s b)⟩
  rintro ⟨rest, heq⟩
  have hsolid : IsSolid (" [id=".toList ++ digits) := by
    refine IsSolid.append_left ?_ _
    refine ⟨digits.getLast hdigits.ne_nil, List.getLast?_eq_some_getLast _, ?_⟩
    exact Text.isBlank_of_isDigit (hdigits.isDigit _ (List.getLast_mem _))
  have hsplit : s ++ b = [] ++ (" [id=".toList ++ digits ++ ' ' :: rest) := by
    rw [← heq, bracket_append, List.nil_append, List.append_assoc]
  obtain ⟨rest', hrest, rfl⟩ := hsolid.exists_of_append_eq hb hsplit
  -- The digits are of the text, and the space behind them is of the text or the first of the white
  -- space.
  cases rest' with
  | nil =>
    rw [List.nil_append] at hrest
    subst hrest
    rcases h with h | h
    · exact absurd (Text.not_sticks_iff.2 (.inr ⟨rest, rfl⟩)) (not_not_intro h)
    · exact absurd ⟨hdigits, List.suffix_append_of_suffix (by simp)⟩ (h digits)
  | cons c rest' =>
    obtain ⟨rfl, -⟩ := List.cons.inj hrest
    exact ⟨rest', by rw [bracket_append]; simp⟩

lemma networkMark?_of_isBlank (hb : IsBlank b) : networkMark? b = none := by
  apply networkMark?_eq_none
  rintro ⟨rest, rfl⟩
  exact hb.notMem (c := '[') (by decide) (by simp)

lemma searchLast_networkMark?_of_isBlank (hb : IsBlank b) :
    Text.searchLast networkMark? b = none :=
  Text.searchLast_eq_none_iff.2 fun _ ht =>
    networkMark?_of_isBlank fun c hc => hb c (ht.subset hc)

lemma searchLast_networkMark?_append_blanks (hb : IsBlank b)
    (h : Sticks b ∨ ∀ digits, ¬EndsInMark digits s) :
    Text.searchLast networkMark? (s ++ b) = Text.searchLast networkMark? s := by
  induction s with
  | nil =>
    rw [List.nil_append, searchLast_networkMark?_of_isBlank hb]
    rfl
  | cons c s ih =>
    have htail : Sticks b ∨ ∀ digits, ¬EndsInMark digits s :=
      h.imp_right fun h digits hmark => h digits ⟨hmark.1, hmark.2.trans (List.suffix_cons c s)⟩
    rw [List.cons_append, Text.searchLast, ih htail, ← List.cons_append,
      networkMark?_append_blanks hb h, Text.searchLast]

/-- A space closes the bracket that the text ends in. -/
lemma EndsInMark.searchLast_append_cons (h : EndsInMark digits s) (hb : IsBlank b) :
    Text.searchLast networkMark? (s ++ ' ' :: b) = some digits := by
  obtain ⟨hdigits, front, rfl⟩ := h
  have hmark : networkMark? (" [id=".toList ++ (digits ++ ' ' :: b)) = some digits :=
    networkMark?_eq_some_iff.2 ⟨hdigits, b, bracket_append digits b⟩
  have hnone (t : List Char) (ht : ¬(' ' :: "[id=".toList <+: t)) : networkMark? t = none :=
    networkMark?_eq_none ht
  have hspace : ' ' ∉ digits := Text.notMem_of_forall hdigits.isDigit (by decide)
  have hcons : " [id=".toList = ' ' :: "[id=".toList := rfl
  have hblank : IsBlank (' ' :: b) := List.forall_mem_cons.2 ⟨by decide, hb⟩
  rw [List.append_assoc, List.append_assoc]
  apply Text.searchLast_append_of_eq_some
  rw [hcons, List.cons_append] at hmark ⊢
  -- No other bracket begins in the bracket, in its digits or in the white space.
  rw [Text.searchLast, hmark,
    Text.searchLast_append (Text.scan_append_of_notMem hnone (by decide) _),
    Text.searchLast_append (Text.scan_append_of_notMem hnone hspace _),
    searchLast_networkMark?_of_isBlank hblank]
  rfl

/-! ### Connections -/

lemma spacedAddress?_eq_some_iff {address rest : List Char} :
    spacedAddress? s = some (address, rest)
      ↔ s = address ++ ' ' :: rest ∧ MacAddress.isLower address = true := by
  simp only [spacedAddress?, Option.bind_eq_bind, Option.bind_eq_some_iff, Prod.exists,
    MacAddress.takeLower?_eq_some_iff, List.isPrefixOf?_eq_some_iff_append_eq]
  constructor
  · rintro ⟨_, _, ⟨rfl, hlower⟩, _, rfl, ⟨⟩⟩
    exact ⟨rfl, hlower⟩
  · rintro ⟨rfl, hlower⟩
    exact ⟨address, ' ' :: rest, ⟨rfl, hlower⟩, rest, rfl, rfl⟩

/-- An address that is found with white space behind the text is found without, unless the text
ends with it. -/
lemma spacedAddress?_append_blanks {address rest : List Char} (hb : IsBlank b)
    (h : spacedAddress? (s ++ b) = some (address, rest)) :
    (∃ rest', spacedAddress? s = some (address, rest') ∧ rest = rest' ++ b)
      ∨ s = address ∧ IsBlank rest := by
  obtain ⟨heq, hlower⟩ := spacedAddress?_eq_some_iff.1 h
  have hsplit : s ++ b = [] ++ (address ++ ' ' :: rest) := heq
  obtain ⟨rest', hrest, hs⟩ := (MacAddress.isSolid_of_isLower hlower).exists_of_append_eq hb hsplit
  rw [List.nil_append] at hs
  cases rest' with
  | nil =>
    rw [List.nil_append] at hrest
    subst hrest
    exact .inr ⟨by rw [hs, List.append_nil], (List.forall_mem_cons.1 hb).2⟩
  | cons c rest' =>
    obtain ⟨rfl, rfl⟩ := List.cons.inj hrest
    exact .inl ⟨rest', spacedAddress?_eq_some_iff.2 ⟨hs, hlower⟩, rfl⟩

lemma search_spacedAddress?_of_isBlank (hb : IsBlank b) : Text.search spacedAddress? b = none := by
  cases h : Text.search spacedAddress? b with
  | none => rfl
  | some found =>
    obtain ⟨t, ht, hscan, -⟩ := Text.search_eq_some_iff.1 h
    obtain ⟨rfl, hlower⟩ := spacedAddress?_eq_some_iff.1 hscan
    obtain ⟨c, hc, hnot⟩ := MacAddress.isSolid_of_isLower hlower
    have hblank := hb c (ht.subset (List.mem_append_left _ (List.mem_of_mem_getLast? hc)))
    rw [hblank] at hnot
    cases hnot

lemma search_spacedAddress?_of_isLower {c : Char} (h : MacAddress.isLower (c :: s) = true) :
    Text.search spacedAddress? s = none := by
  cases hsearch : Text.search spacedAddress? s with
  | none => rfl
  | some found =>
    obtain ⟨t, ht, hscan, -⟩ := Text.search_eq_some_iff.1 hsearch
    obtain ⟨rfl, hlower⟩ := spacedAddress?_eq_some_iff.1 hscan
    have hle := ht.length_le
    have hlength := MacAddress.length_of_isLower h
    rw [List.length_append, MacAddress.length_of_isLower hlower] at hle
    rw [List.length_cons] at hlength
    omega

/-- White space behind a text lets an address be found only at its end, with nothing but white space
behind the address. -/
lemma search_spacedAddress?_append_blanks (hb : IsBlank b) (s : List Char) :
    Text.search spacedAddress? (s ++ b)
        = (Text.search spacedAddress? s).map (fun found => (found.1, found.2 ++ b))
      ∨ Text.search spacedAddress? s = none
        ∧ ∃ address rest, Text.search spacedAddress? (s ++ b) = some (address, rest)
          ∧ IsBlank rest := by
  induction s with
  | nil => exact .inl (search_spacedAddress?_of_isBlank hb)
  | cons c s ih =>
    rw [List.cons_append, Text.search, Text.search, ← List.cons_append]
    cases hscan : spacedAddress? (c :: s) with
    | some found =>
      obtain ⟨hs, hlower⟩ := spacedAddress?_eq_some_iff.1 hscan
      have happend : spacedAddress? (c :: s ++ b) = some (found.1, found.2 ++ b) :=
        spacedAddress?_eq_some_iff.2 ⟨by rw [hs, List.append_assoc, List.cons_append], hlower⟩
      rw [happend]
      exact .inl rfl
    | none =>
      -- The text may end in an address, whose space is then the first of the white space.
      cases happend : spacedAddress? (c :: s ++ b) with
      | none => exact ih
      | some found =>
        rcases spacedAddress?_append_blanks hb happend with ⟨rest', hrest', -⟩ | ⟨hs, hrest⟩
        · rw [hscan] at hrest'
          cases hrest'
        · have hlower := (spacedAddress?_eq_some_iff.1 happend).2
          rw [← hs] at hlower
          rw [search_spacedAddress?_of_isLower hlower]
          exact .inr ⟨rfl, _, _, rfl, hrest⟩

lemma connection?_of_search {address rest : List Char}
    (h : Text.search spacedAddress? p = some (address, rest)) :
    connection? p = (Text.searchLast networkMark? rest).map fun digits =>
      (address, (Text.int? 32 digits).getD (-1)) := by
  rw [connection?, h]
  simp only [Option.bind_eq_bind, Option.bind_some]
  cases Text.searchLast networkMark? rest <;> rfl

lemma connection?_of_search_eq_none (h : Text.search spacedAddress? p = none) :
    connection? p = none := by
  rw [connection?, h]
  rfl

/-- What is searched for a network identifier ends in the start of a bracket. -/
def EndsInBracket (p address digits : List Char) : Prop :=
  ∃ rest, Text.search spacedAddress? p = some (address, rest) ∧ EndsInMark digits rest

lemma EndsInBracket.connection?_eq {address : List Char} (h : EndsInBracket p address digits)
    (hb : IsBlank b) : connection? (p ++ ' ' :: b) = some (address, decimalOr (-1) digits) := by
  obtain ⟨rest, hfound, hmark⟩ := h
  have hblank : IsBlank (' ' :: b) := List.forall_mem_cons.2 ⟨by decide, hb⟩
  rcases search_spacedAddress?_append_blanks hblank p with hsearch | ⟨hnone, -⟩
  · rw [hfound, Option.map_some] at hsearch
    rw [connection?_of_search hsearch, hmark.searchLast_append_cons hb, Option.map_some,
      Text.getD_int?_of_isDigit hmark.1.isDigit]
  · rw [hfound] at hnone
    cases hnone

lemma connection?_append_blanks (hb : IsBlank b)
    (h : Sticks b ∨ ∀ address digits, ¬EndsInBracket p address digits) :
    connection? (p ++ b) = connection? p := by
  rcases search_spacedAddress?_append_blanks hb p with
    hsearch | ⟨hnone, address, rest, hsome, hrest⟩
  · cases hfound : Text.search spacedAddress? p with
    | none =>
      rw [hfound] at hsearch
      rw [connection?_of_search_eq_none hfound, connection?_of_search_eq_none hsearch]
    | some found =>
      rw [hfound] at hsearch
      have hmark : Sticks b ∨ ∀ digits, ¬EndsInMark digits found.2 :=
        h.imp_right fun h digits hmark => h found.1 digits ⟨found.2, hfound, hmark⟩
      rw [connection?_of_search hfound, connection?_of_search hsearch,
        searchLast_networkMark?_append_blanks hb hmark]
  · rw [connection?_of_search_eq_none hnone, connection?_of_search hsome,
      searchLast_networkMark?_of_isBlank hrest]
    rfl

lemma connectionEvent_of_notMem (h : '\n' ∉ p) :
    connectionEvent p = match connection? p with
      | some (address, id) => .networkConnection id (some (String.ofList address))
      | none => .networkConnection (-1) none := by
  rw [connectionEvent, List.splitOn_eq_singleton h, List.findSome?_cons, List.findSome?_nil]
  cases connection? p <;> rfl

/-- A space behind the payload would close a bracket, and the digits in that are not what is read
without. -/
def EndsInOtherBracket (p : List Char) : Prop :=
  ∃ address digits, EndsInBracket p address digits
    ∧ connectionEvent p ≠ .networkConnection (decimalOr (-1) digits) (some (String.ofList address))

lemma connectionEvent_append_blanks_iff (hb : IsBlank b) (hne : b ≠ []) (hline : '\n' ∉ p ++ b) :
    connectionEvent (p ++ b) = connectionEvent p ↔ ¬(¬Sticks b ∧ EndsInOtherBracket p) := by
  have hp : '\n' ∉ p := fun hmem => hline (List.mem_append_left b hmem)
  by_cases h : Sticks b ∨ ∀ address digits, ¬EndsInBracket p address digits
  · rw [connectionEvent_of_notMem hline, connection?_append_blanks hb h,
      ← connectionEvent_of_notMem hp]
    refine iff_of_true rfl ?_
    rintro ⟨hsticks, address, digits, hbracket, -⟩
    exact h.elim hsticks fun h => h address digits hbracket
  · push Not at h
    obtain ⟨hsticks, address, digits, hbracket⟩ := h
    obtain ⟨b, rfl⟩ := Text.exists_of_not_sticks hsticks hne
    -- With the space the digits of the bracket are read, and what was read before decides.
    have hread {address digits} (h : EndsInBracket p address digits) :
        connectionEvent (p ++ ' ' :: b)
          = .networkConnection (decimalOr (-1) digits) (some (String.ofList address)) := by
      rw [connectionEvent_of_notMem hline, h.connection?_eq (List.forall_mem_cons.1 hb).2]
    constructor
    · rintro heq ⟨-, address', digits', hbracket', hother⟩
      exact hother (heq.symm.trans (hread hbracket'))
    · intro h
      by_contra hother
      have hread := hread hbracket
      exact h ⟨hsticks, address, digits, hbracket, fun heq => hother (hread.trans heq.symm)⟩

end Control
end SupplicantWatch
