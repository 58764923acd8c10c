import Mathlib.Tactic.Common
import SupplicantWatch.Proofs.Control.ItemOrder
import SupplicantWatch.Proofs.Ssid.Blanks

/-!
# White space behind a state change

White space behind the payload of a state change is a part of the name, where the name comes last.
If it begins with another character than a space it is also a part of the last word, and no numeral
has white space in it. Main statement: `stateChange?_append_blanks_iff`.
-/

namespace SupplicantWatch.Control

open Text (IsBlank IsSolid Sticks)

variable {key : String} {p b s word : List Char}

/-! ### Values -/

/-- The network identifier that a payload shows, -1 if it shows none. -/
def idOf (p : List Char) : Int :=
  ((valuesOf "id" p).filterMap (Text.int? 32)).getLast?.getD (-1)

/-- The state that a payload shows. -/
def stateOf? (p : List Char) : Option SupplicantState :=
  ((valuesOf "state" p).filterMap (Text.int? 64)).getLast?.map .ofIndex

/-- The address that a payload shows. -/
def bssidOf? (p : List Char) : Option String :=
  (valuesOf "BSSID" p).getLast?.map String.ofList

lemma stateChange?_eq (p : List Char) :
    stateChange? p = (stateOf? p).map fun state =>
      ⟨idOf p, (writtenSsid? p).map Ssid.decode, bssidOf? p, state⟩ := by
  rw [stateChange?, stateOf?, Option.map_map]
  cases ((valuesOf "state" p).filterMap (Text.int? 64)).getLast? <;> rfl

lemma valuesOf_eq_flatMap (key : String) (p : List Char) :
    valuesOf key p = (p.splitOn ' ').flatMap (valuesOf key) := by
  have hwhole : [' '].intercalate (p.splitOn ' ') = p := List.intercalate_splitOn ' '
  conv_lhs => rw [← hwhole]
  exact valuesOf_intercalate key _

lemma valuesOf_of_isBlank (key : String) (hb : IsBlank b) : valuesOf key b = [] := by
  have hnot {w : List Char} (h : key.toList ++ ['='] <:+: w) (hw : w = b) : False := by
    subst hw
    exact hb.notMem (c := '=') (by decide) (h.subset (by simp))
  refine valuesOf_eq_nil (fun h => hnot h.isInfix rfl) fun h => hnot ?_ rfl
  exact (List.suffix_cons ' ' _).isInfix.trans h

/-- White space that goes on a word goes on the value in it. -/
lemma valuesOf_word_append (hword : ' ' ∉ word) (hspace : ' ' ∉ b) (hb : IsBlank b) :
    valuesOf key (word ++ b) = (valuesOf key word).map (· ++ b) := by
  have hequal : '=' ∉ b := hb.notMem (by decide)
  have hboth : ' ' ∉ word ++ b := by simp [hword, hspace]
  obtain ⟨init, last, rest, hs, ht, hst⟩ := Text.exists_splitOn_append '=' word b
  rw [List.splitOn_eq_singleton hequal] at ht
  obtain ⟨hbefore, rfl⟩ := List.cons.inj ht
  rw [← hbefore] at hst
  rw [valuesOf, valuesOf, List.splitOn_eq_singleton hword, List.splitOn_eq_singleton hboth]
  simp only [List.filterMap_cons, List.filterMap_nil, hs, hst]
  rcases init with _ | ⟨name, _ | ⟨_, _ | _⟩⟩
  · rfl
  · simp only [List.cons_append, List.nil_append]
    split_ifs <;> rfl
  · rfl
  · rfl

/-- What white space behind a payload does to the values of a key. -/
lemma exists_valuesOf_append_blanks (hb : IsBlank b) (p : List Char) :
    ∃ words last, p.splitOn ' ' = words ++ [last] ∧ ∀ key,
      valuesOf key p = valuesOf key ([' '].intercalate words) ++ valuesOf key last
      ∧ valuesOf key (p ++ b) = valuesOf key ([' '].intercalate words)
        ++ (valuesOf key last).map (· ++ Text.before ' ' b) := by
  obtain ⟨words, last, rest, hs, ht, hst⟩ := Text.exists_splitOn_append ' ' p b
  refine ⟨words, last, hs, fun key => ⟨?_, ?_⟩⟩
  · rw [valuesOf_eq_flatMap, hs, List.flatMap_append, valuesOf_intercalate, List.flatMap_singleton]
  · have hlast : ' ' ∉ last := Text.notMem_of_mem_splitOn (by rw [hs]; simp)
    have hspace : ' ' ∉ Text.before ' ' b := (Text.before_eq_iff.1 rfl).1
    have hblank : IsBlank (Text.before ' ' b) := fun c hc => hb c (List.takeWhile_subset _ hc)
    have hrest : rest.flatMap (valuesOf key) = [] := by
      rw [List.flatMap_eq_nil_iff]
      intro piece hpiece
      have hmem : piece ∈ b.splitOn ' ' := ht ▸ List.mem_cons_of_mem _ hpiece
      exact valuesOf_of_isBlank key (Text.isBlank_of_mem_splitOn hb hmem)
    rw [valuesOf_eq_flatMap, hst, List.flatMap_append, List.flatMap_cons, hrest, List.append_nil,
      valuesOf_intercalate, valuesOf_word_append hlast hspace hblank]

/-- The values that are read as something are, where the white space begins with another character
than a space, those in front of the last word. -/
lemma filterMap_valuesOf_append_blanks {α : Type} {read : List Char → Option α}
    (hread : ∀ c s, Text.isBlank c = true → c ∈ s → read s = none) (hsticks : Sticks b)
    (hb : IsBlank b) {words : List (List Char)} {last : List Char}
    (h : valuesOf key (p ++ b) = valuesOf key ([' '].intercalate words)
      ++ (valuesOf key last).map (· ++ Text.before ' ' b)) :
    (valuesOf key (p ++ b)).filterMap read
      = (valuesOf key ([' '].intercalate words)).filterMap read := by
  obtain ⟨c, hmem, hc⟩ := hsticks.exists_mem_before hb
  have hnone : ((valuesOf key last).map (· ++ Text.before ' ' b)).filterMap read = [] := by
    rw [List.filterMap_map, List.filterMap_eq_nil_iff]
    intro value _
    exact hread c _ hc (List.mem_append_right value hmem)
  rw [h, List.filterMap_append, hnone, List.append_nil]

/-! ### The name -/

lemma searchLast_isPrefixOf?_append_blanks {w : List Char} (hw : IsSolid w) (hb : IsBlank b)
    (s : List Char) :
    Text.searchLast (List.isPrefixOf? w) (s ++ b)
      = (Text.searchLast (List.isPrefixOf? w) s).map (· ++ b) := by
  induction s with
  | nil =>
    have hnone {t : List Char} (ht : IsBlank t) :
        Text.searchLast (List.isPrefixOf? w) t = none := by
      rw [Text.searchLast_isPrefixOf?_eq_none_iff]
      rintro front rest rfl
      exact hw.not_infix_of_isBlank ht (List.infix_append front w rest)
    rw [List.nil_append, hnone hb, hnone (List.forall_mem_nil _)]
    rfl
  | cons c s ih =>
    rw [List.cons_append, Text.searchLast, ih, ← List.cons_append,
      Text.isPrefixOf?_append_blanks hw hb, Text.searchLast, Option.map_or]

/-- White space behind a text is cut off with what a word cuts off, and left otherwise. -/
lemma beforeAny_append_blanks {ws : List (List Char)} (hws : ∀ w ∈ ws, IsSolid w) (hb : IsBlank b)
    (s : List Char) :
    (∀ w ∈ ws, ¬w <:+: s) ∧ beforeAny ws s = s ∧ beforeAny ws (s ++ b) = s ++ b
      ∨ (∃ w ∈ ws, w <:+: s) ∧ beforeAny ws (s ++ b) = beforeAny ws s := by
  have hblank {t : List Char} (ht : IsBlank t) : beforeAny ws t = t := by
    rcases beforeAny_cases ws t with ⟨h, -⟩ | ⟨tail, htail, w, hw, hprefix⟩
    · exact h
    · refine absurd ?_ ((hws w hw).not_infix_of_isBlank ht)
      rw [htail]
      exact hprefix.isInfix.trans (List.suffix_append _ tail).isInfix
  induction s with
  | nil =>
    refine .inl ⟨fun w hw => ?_, rfl, hblank hb⟩
    exact (hws w hw).not_infix_of_isBlank (List.forall_mem_nil _)
  | cons c s ih =>
    have hany : ws.any (·.isPrefixOf (c :: (s ++ b))) = ws.any (·.isPrefixOf (c :: s)) := by
      rw [Bool.eq_iff_iff, List.any_eq_true, List.any_eq_true]
      refine exists_congr fun w => and_congr_right fun hw => ?_
      rw [List.isPrefixOf_iff_prefix, List.isPrefixOf_iff_prefix, ← List.cons_append,
        (hws w hw).isPrefix_append_iff hb]
    rw [List.cons_append, beforeAny, beforeAny, hany]
    split_ifs with h
    · obtain ⟨w, hw, hprefix⟩ := List.any_eq_true.1 h
      exact .inr ⟨⟨w, hw, (List.isPrefixOf_iff_prefix.1 hprefix).isInfix⟩, rfl⟩
    · rcases ih with ⟨hnone, hs, hsb⟩ | ⟨⟨w, hw, hinfix⟩, heq⟩
      · refine .inl ⟨fun w hw hinfix => ?_, by rw [hs], by rw [hsb]⟩
        rcases List.infix_cons_iff.1 hinfix with hprefix | hinfix
        · exact h (List.any_eq_true.2 ⟨w, hw, List.isPrefixOf_iff_prefix.2 hprefix⟩)
        · exact hnone w hw hinfix
      · exact .inr ⟨⟨w, hw, hinfix.trans (List.suffix_cons c s).isInfix⟩, by rw [heq]⟩

/-- The name of the network is the end of the payload. -/
def NameAtEnd (p : List Char) : Prop :=
  ∃ front name, ' ' :: p = front ++ " SSID=".toList ++ name
    ∧ ∀ key ∈ stateKeys, ¬spacedKey key <:+: name

/-- The name that is the end of a payload is what the last key of a name begins. -/
lemma searchLast_of_absent {front name : List Char}
    (h : ' ' :: p = front ++ " SSID=".toList ++ name) (hname : ¬spacedKey "SSID" <:+: name) :
    Text.searchLast (List.isPrefixOf? " SSID=".toList) (' ' :: p) = some name := by
  have hkey : " SSID=".toList = ' ' :: "SSID=".toList := rfl
  rw [h, List.append_assoc, hkey, List.cons_append]
  apply Text.searchLast_append_cons
  intro hinfix
  exact hname (Text.infix_of_infix_append (by decide) hinfix)

/-- The name goes on in the white space behind the payload if it is the end of that, and otherwise
does not see it. -/
lemma writtenSsid?_append_blanks (hb : IsBlank b) (p : List Char) :
    (NameAtEnd p ∧ ∃ name, writtenSsid? p = some name ∧ writtenSsid? (p ++ b) = some (name ++ b))
      ∨ (¬NameAtEnd p ∧ writtenSsid? (p ++ b) = writtenSsid? p) := by
  have hkeys : [" BSSID=".toList, " id=".toList, " state=".toList]
      = ["BSSID", "id", "state"].map spacedKey := by
    decide
  have hsolid : ∀ w ∈ ["BSSID", "id", "state"].map spacedKey, IsSolid w := by
    decide
  have hsearch :=
    searchLast_isPrefixOf?_append_blanks (w := " SSID=".toList) (by decide) hb (' ' :: p)
  rw [List.cons_append] at hsearch
  rw [writtenSsid?, writtenSsid?, hsearch, hkeys]
  cases hlast : Text.searchLast (List.isPrefixOf? " SSID=".toList) (' ' :: p) with
  | none =>
    refine .inr ⟨?_, rfl⟩
    rintro ⟨front, name, heq, -⟩
    exact Text.searchLast_isPrefixOf?_eq_none_iff.1 hlast front name heq
  | some rest =>
    obtain ⟨front, heq, hmax⟩ := Text.searchLast_isPrefixOf?_eq_some_iff.1 hlast
    rcases beforeAny_append_blanks hsolid hb rest with ⟨hnone, hs, hsb⟩ | ⟨⟨w, hw, hinfix⟩, hcut⟩
    · refine .inl
        ⟨⟨front, rest, heq, List.forall_mem_cons.2 ⟨?_, fun key hkey => ?_⟩⟩, rest, ?_, ?_⟩
      · -- The last key begins the name, so there is no other in the name.
        rintro ⟨front', rest', rfl⟩
        have hle := hmax (front ++ " SSID=".toList ++ front') rest' (by rw [heq]; simp [spacedKey])
        have hlength : " SSID=".toList.length = 6 := rfl
        rw [List.length_append, List.length_append, hlength] at hle
        omega
      · exact hnone _ (List.mem_map_of_mem hkey)
      · rw [Option.map_some, hs]
      · rw [Option.map_some, Option.map_some, hsb]
    · refine .inr ⟨?_, by rw [Option.map_some, Option.map_some, Option.map_some, hcut]⟩
      -- A name at the end would be what the last key begins, but that is cut at another key.
      rintro ⟨front', name, heq', hname⟩
      obtain ⟨hssid, hothers⟩ := List.forall_mem_cons.1 hname
      rw [searchLast_of_absent heq' hssid, Option.some_inj] at hlast
      obtain ⟨key, hkey, rfl⟩ := List.mem_map.1 hw
      exact hothers key hkey (hlast ▸ hinfix)

/-! ### State changes -/

/-- The last word of a payload gives an address, or what is read of the identifier or of the
state. -/
def FieldAtEnd (p : List Char) : Prop :=
  ∃ words last, p.splitOn ' ' = words ++ [last]
    ∧ (valuesOf "BSSID" last ≠ [] ∨ idOf ([' '].intercalate words) ≠ idOf p
      ∨ stateOf? ([' '].intercalate words) ≠ stateOf? p)

lemma bssidOf?_append_blanks_iff (hsticks : Sticks b) {front values : List (List Char)}
    (hp : valuesOf "BSSID" p = front ++ values)
    (hpb : valuesOf "BSSID" (p ++ b) = front ++ values.map (· ++ Text.before ' ' b)) :
    bssidOf? (p ++ b) = bssidOf? p ↔ values = [] := by
  rw [bssidOf?, bssidOf?, hp, hpb]
  rcases List.eq_nil_or_concat values with rfl | ⟨values, value, rfl⟩
  · exact iff_of_true rfl rfl
  · refine iff_of_false ?_ (by simp)
    simp only [List.concat_eq_append, List.map_append, List.map_cons, List.map_nil,
      ← List.append_assoc, List.getLast?_concat, Option.map_some, Option.some_inj,
      String.ofList_inj]
    rw [List.append_right_eq_self]
    exact hsticks

/-- What is read of a payload but for the name is read otherwise where white space goes on the last
word. -/
lemma fields_append_blanks_iff (hb : IsBlank b) (p : List Char) :
    (idOf (p ++ b) = idOf p ∧ stateOf? (p ++ b) = stateOf? p ∧ bssidOf? (p ++ b) = bssidOf? p)
      ↔ ¬(Sticks b ∧ FieldAtEnd p) := by
  obtain ⟨words, last, hs, hvalues⟩ := exists_valuesOf_append_blanks hb p
  by_cases hsticks : Sticks b
  · have hid : idOf (p ++ b) = idOf ([' '].intercalate words) := by
      rw [idOf, filterMap_valuesOf_append_blanks (fun c s => Text.int?_eq_none_of_isBlank 32)
        hsticks hb (hvalues "id").2, idOf]
    have hstate : stateOf? (p ++ b) = stateOf? ([' '].intercalate words) := by
      rw [stateOf?, filterMap_valuesOf_append_blanks (fun c s => Text.int?_eq_none_of_isBlank 64)
        hsticks hb (hvalues "state").2, stateOf?]
    have hfield : FieldAtEnd p ↔ valuesOf "BSSID" last ≠ []
        ∨ idOf ([' '].intercalate words) ≠ idOf p
        ∨ stateOf? ([' '].intercalate words) ≠ stateOf? p := by
      refine ⟨?_, fun h => ⟨words, last, hs, h⟩⟩
      rintro ⟨words', last', hs', h⟩
      obtain ⟨rfl, hlast⟩ := List.append_inj' (hs.symm.trans hs') rfl
      obtain ⟨rfl, -⟩ := List.cons.inj hlast
      exact h
    rw [hid, hstate, bssidOf?_append_blanks_iff hsticks (hvalues "BSSID").1 (hvalues "BSSID").2,
      hfield]
    tauto
  · have hsame (key : String) : valuesOf key (p ++ b) = valuesOf key p := by
      rw [Sticks, ne_eq, not_not] at hsticks
      rw [(hvalues key).1, (hvalues key).2, hsticks]
      simp
    refine iff_of_true ?_ fun h => hsticks h.1
    rw [idOf, stateOf?, bssidOf?, hsame, hsame, hsame]
    exact ⟨rfl, rfl, rfl⟩

lemma stateOf?_append_blanks_of_eq_none (hb : IsBlank b) (h : stateOf? p = none) :
    stateOf? (p ++ b) = none := by
  have hnone {s : List Char} :
      stateOf? s = none ↔ (valuesOf "state" s).filterMap (Text.int? 64) = [] := by
    rw [stateOf?, Option.map_eq_none_iff, List.getLast?_eq_none_iff]
  obtain ⟨words, last, -, hvalues⟩ := exists_valuesOf_append_blanks hb p
  rw [hnone, (hvalues "state").1, List.filterMap_append, List.append_eq_nil_iff] at h
  by_cases hsticks : Sticks b
  · rw [hnone, filterMap_valuesOf_append_blanks (fun c s => Text.int?_eq_none_of_isBlank 64) hsticks
      hb (hvalues "state").2]
    exact h.1
  · rw [Sticks, ne_eq, not_not] at hsticks
    rw [hnone, (hvalues "state").2, hsticks, List.filterMap_append, h.1]
    simpa using h.2

/-- A state change is read otherwise with white space behind its payload if it ends in the name, or
in another field that the white space goes on. -/
theorem stateChange?_append_blanks_iff (hb : IsBlank b) (hne : b ≠ []) (p : List Char) :
    stateChange? (p ++ b) = stateChange? p
      ↔ ¬(stateChange? p ≠ none ∧ (NameAtEnd p ∨ Sticks b ∧ FieldAtEnd p)) := by
  have hssid : (writtenSsid? (p ++ b)).map Ssid.decode = (writtenSsid? p).map Ssid.decode
      ↔ ¬NameAtEnd p := by
    rcases writtenSsid?_append_blanks hb p with ⟨hend, name, hp, hpb⟩ | ⟨hend, heq⟩
    · refine iff_of_false ?_ (not_not_intro hend)
      rw [hp, hpb, Option.map_some, Option.map_some, Option.some_inj, Ssid.decode_append_blanks hb,
        ← String.toList_inj, String.toList_append, String.toList_ofList, List.append_right_eq_self]
      exact hne
    · exact iff_of_true (by rw [heq]) hend
  have hfields := fields_append_blanks_iff hb p
  rw [stateChange?_eq, stateChange?_eq]
  cases hstate : stateOf? p with
  | none =>
    rw [stateOf?_append_blanks_of_eq_none hb hstate]
    exact iff_of_true rfl fun h => h.1 rfl
  | some state =>
    have hnot : ¬((some state).map (fun state => StateChange.mk (idOf p)
        ((writtenSsid? p).map Ssid.decode) (bssidOf? p) state) = none) := nofun
    rw [and_iff_right hnot, not_or, ← hssid, ← hfields, hstate]
    cases stateOf? (p ++ b) with
    | none => exact iff_of_false nofun fun h => nomatch h.2.2.1
    | some state' =>
      simp only [Option.map_some, Option.some_inj, StateChange.mk.injEq]
      tauto

end SupplicantWatch.Control
