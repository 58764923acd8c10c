import Mathlib.Tactic.Common
import SupplicantWatch.Fields
import SupplicantWatch.Proofs.Text.Words

/-!
# The items of a line that is put together

What an item is read as depends on what follows it only where it opens a quote that it does not
close. So the items of a line are those of its parts, one part after the other, as long as no part
closes a quote of a part before it. Main statements: `items_ofLine_append_cons`, and
`IsItem.items_append` with the three shapes of an item.
-/

namespace SupplicantWatch

namespace Fields

variable {quote c : Char} {key val s t tail : List Char}
  {field : Option (List Char × List Char)} {xs ys : List (List Char × List Char)}

/-! ### Values -/

/-- The character starts a quoted value. -/
def IsQuote (c : Char) : Prop :=
  c = '\x27' ∨ c = '\x22'

instance (c : Char) : Decidable (IsQuote c) :=
  inferInstanceAs (Decidable (_ ∨ _))

/-- The item at the start of a text has a value that begins with a quote, and the text does not
close the quote. -/
def Opens (quote : Char) (s : List Char) : Prop :=
  IsQuote quote ∧ ∃ rest, s.dropWhile isKeyChar = '=' :: quote :: rest ∧ quote ∉ rest

lemma value_quoted (hquote : IsQuote quote) (h : quote ∉ val) (rest : List Char) :
    value (quote :: (val ++ quote :: rest)) = (val, rest) := by
  have hcut : Text.cut? quote (val ++ quote :: rest) = some (val, rest) :=
    Text.cut?_eq_some_iff.2 ⟨rfl, h⟩
  have hvalue : quotedValue? (quote :: (val ++ quote :: rest)) = some (val, rest) := by
    rw [← hcut]
    exact if_pos hquote
  rw [value, hvalue, Option.getD_some]

lemma value_of_not_isQuote (h : ∀ c ∈ s.head?, ¬IsQuote c) :
    value s = (Text.before ' ' s, s.dropWhile (· != ' ')) := by
  cases s with
  | nil => rfl
  | cons c s =>
    have hvalue : quotedValue? (c :: s) = none := if_neg (h c rfl)
    rw [value, hvalue, Option.getD_none]

lemma value_of_space_notMem (h : ∀ c ∈ s.head?, ¬IsQuote c) (hspace : ' ' ∉ s) :
    value s = (s, []) := by
  have hall : ∀ c ∈ s, (c != ' ') = true := by
    intro c hc
    rw [bne_iff_ne]
    rintro rfl
    exact hspace hc
  rw [value_of_not_isQuote h, Text.before, List.takeWhile_eq_self_iff.2 hall,
    List.dropWhile_eq_nil_iff.2 hall]

/-- What follows a space does not change the value before it, unless it closes a quote of it. -/
lemma value_append_cons
    (h : ∀ quote rest, s = quote :: rest → IsQuote quote → quote ∉ rest → quote ∉ tail) :
    value (s ++ ' ' :: tail) = ((value s).1, (value s).2 ++ ' ' :: tail) := by
  have hplain : (Text.before ' ' (s ++ ' ' :: tail), (s ++ ' ' :: tail).dropWhile (· != ' '))
      = (Text.before ' ' s, s.dropWhile (· != ' ') ++ ' ' :: tail) := by
    rw [Text.before, Text.before, Text.takeWhile_append_cons rfl, Text.dropWhile_append_cons rfl]
  cases s with
  | nil => exact hplain
  | cons quote rest =>
    rw [List.cons_append] at hplain ⊢
    rw [value, value, quotedValue?, quotedValue?]
    split_ifs with hquote
    · cases hcut : Text.cut? quote rest with
      | some parts =>
        obtain ⟨rfl, hfront⟩ := Text.cut?_eq_some_iff.1 hcut
        have happend : Text.cut? quote (parts.1 ++ quote :: parts.2 ++ ' ' :: tail)
            = some (parts.1, parts.2 ++ ' ' :: tail) :=
          Text.cut?_eq_some_iff.2 ⟨by rw [List.append_assoc, List.cons_append], hfront⟩
        rw [happend, Option.getD_some, Option.getD_some]
      | none =>
        have hrest := Text.cut?_eq_none_iff.1 hcut
        have hspace : quote ≠ ' ' := by
          rintro rfl
          revert hquote
          decide
        -- The quote is closed neither in the text, nor by the space, nor in what follows.
        have hnone : Text.cut? quote (rest ++ ' ' :: tail) = none := by
          rw [Text.cut?_eq_none_iff]
          simp [hrest, hspace, h quote rest rfl hquote hrest]
        rw [hnone, Option.getD_none, Option.getD_none, hplain]
    · rw [Option.getD_none, Option.getD_none, hplain]

lemma value_snd_suffix (s : List Char) : (value s).2 <:+ s := by
  unfold value quotedValue?
  cases s with
  | nil => exact List.dropWhile_suffix _
  | cons quote s =>
    simp only
    split_ifs
    · cases h : Text.cut? quote s with
      | none => exact List.dropWhile_suffix _
      | some parts =>
        obtain ⟨rfl, -⟩ := Text.eq_of_cut? h
        exact ⟨quote :: (parts.1 ++ [quote]), by simp⟩
    · exact List.dropWhile_suffix _

lemma length_value_fst_le (s : List Char) : (value s).1.length ≤ s.length := by
  unfold value quotedValue?
  cases s with
  | nil => exact (List.takeWhile_prefix _).length_le
  | cons quote s =>
    simp only
    split_ifs
    · cases h : Text.cut? quote s with
      | none => exact (List.takeWhile_prefix _).length_le
      | some parts =>
        obtain ⟨rfl, -⟩ := Text.eq_of_cut? h
        simp only [Option.getD_some, List.length_cons, List.length_append]
        omega
    · exact (List.takeWhile_prefix _).length_le

/-! ### Items -/

lemma isKeyChar_of_mem (h : ' ' ∉ key ∧ '=' ∉ key) : ∀ c ∈ key, isKeyChar c = true := by
  intro c hc
  rw [isKeyChar, Bool.and_eq_true, bne_iff_ne, bne_iff_ne]
  exact ⟨fun he => h.2 (he ▸ hc), fun he => h.1 (he ▸ hc)⟩

lemma dropWhile_isKeyChar_append (h : ' ' ∉ key ∧ '=' ∉ key) (rest : List Char) :
    (key ++ '=' :: rest).dropWhile isKeyChar = '=' :: rest := by
  rw [List.dropWhile_append_of_pos (isKeyChar_of_mem h)]
  rfl

/-- A field is read off with its value. -/
lemma item_append (h : ' ' ∉ key ∧ '=' ∉ key) (rest : List Char) :
    item (key ++ '=' :: rest) = (some (key, (value rest).1), Text.trimStart (value rest).2) := by
  have htake : (key ++ '=' :: rest).takeWhile isKeyChar = key := by
    rw [List.takeWhile_append_of_pos (isKeyChar_of_mem h)]
    exact List.append_nil key
  rw [item, dropWhile_isKeyChar_append h, htake]
  rfl

/-- What follows a space does not change the item before it, unless it closes a quote of it. -/
lemma item_append_cons (h : ∀ quote, Opens quote s → quote ∉ tail) :
    item (s ++ ' ' :: tail) = ((item s).1, Text.trimStart ((item s).2 ++ ' ' :: tail)) := by
  rw [item, item, Text.dropWhile_append_cons rfl, Text.takeWhile_append_cons rfl]
  cases hs : s.dropWhile isKeyChar with
  | nil => rfl
  | cons c rest =>
    -- The run of characters of a key ends at an equals sign or, in a word that is no field, at a
    -- space.
    by_cases hc : c = '='
    · subst hc
      have hvalue : value (rest ++ ' ' :: tail)
          = ((value rest).1, (value rest).2 ++ ' ' :: tail) := by
        apply value_append_cons
        rintro quote rest' rfl hquote hrest
        exact h quote ⟨hquote, rest', hs, hrest⟩
      simp only [List.cons_append, hvalue, Text.trimStart_trimStart_append]
    · rw [List.cons_append]
      split
      · next heq => exact absurd (List.cons.inj heq).1 hc
      · split
        · next heq => exact absurd (List.cons.inj heq).1 hc
        · rw [Text.trimStart_trimStart_append, List.cons_append]

lemma item_snd_suffix (s : List Char) : (item s).2 <:+ s := by
  have hdrop := List.dropWhile_suffix (l := s) isKeyChar
  unfold item
  split
  · next rest h =>
    rw [h] at hdrop
    exact (List.dropWhile_suffix _).trans
      ((value_snd_suffix rest).trans ((List.suffix_cons '=' rest).trans hdrop))
  · exact (List.dropWhile_suffix _).trans hdrop

lemma trimStart_item_snd (s : List Char) : Text.trimStart (item s).2 = (item s).2 := by
  unfold item
  split <;> exact Text.trimStart_trimStart _

/-! ### Lines -/

lemma ofLine_trimStart (s : List Char) : ofLine (Text.trimStart s) = ofLine s := by
  rw [ofLine, ofLine, Text.trimStart_trimStart]

@[simp] lemma ofLine_nil : ofLine [] = ⟨[]⟩ := by
  rw [ofLine, Text.trimStart, List.dropWhile_nil, itemsOf]

/-- The first item of a line, and those behind it. -/
lemma items_ofLine_cons (h : Text.trimStart s = c :: t) :
    (ofLine s).items = (item (c :: t)).1.toList ++ (ofLine (item (c :: t)).2).items := by
  rw [ofLine, h, itemsOf, ofLine, trimStart_item_snd]

/-- A quoted value ends at the next quote, and the items go on behind that. -/
lemma items_ofLine_quoted (hstart : ∀ c ∈ (key ++ ['=']).head?, Text.isBlank c = false)
    (hkey : ' ' ∉ key ∧ '=' ∉ key) (hquote : IsQuote quote) (h : quote ∉ val) (rest : List Char) :
    (ofLine (key ++ '=' :: quote :: (val ++ quote :: rest))).items
      = (key, val) :: (ofLine rest).items := by
  have hitem : item (key ++ '=' :: quote :: (val ++ quote :: rest))
      = (some (key, val), Text.trimStart rest) := by
    rw [item_append hkey, value_quoted hquote h]
  cases key with
  | nil =>
    have htrim : Text.trimStart ('=' :: quote :: (val ++ quote :: rest))
        = '=' :: quote :: (val ++ quote :: rest) := Text.trimStart_eq_self hstart
    rw [List.nil_append] at hitem ⊢
    rw [items_ofLine_cons htrim, hitem, ofLine_trimStart]
    rfl
  | cons c key =>
    have htrim : Text.trimStart (c :: (key ++ '=' :: quote :: (val ++ quote :: rest)))
        = c :: (key ++ '=' :: quote :: (val ++ quote :: rest)) := Text.trimStart_eq_self hstart
    rw [List.cons_append] at hitem ⊢
    rw [items_ofLine_cons htrim, hitem, ofLine_trimStart]
    rfl

/-- The items of two texts with a space between them, where the front text opens no quote that the
other one closes, are those of the one and those of the other. -/
theorem items_ofLine_append_cons (h : ∀ t quote, t <:+ s → Opens quote t → quote ∉ tail) :
    (ofLine (s ++ ' ' :: tail)).items = (ofLine s).items ++ (ofLine tail).items := by
  -- By induction on the length of the front text, which an item makes shorter.
  induction hn : s.length using Nat.strongRecOn generalizing s with
  | ind n ih =>
    cases hs : Text.trimStart s with
    | nil =>
      have htail : ofLine (s ++ ' ' :: tail) = ofLine tail := by
        rw [ofLine, ← Text.trimStart_trimStart_append, hs]
        rfl
      have hnone : (ofLine s).items = [] := by
        rw [ofLine, hs, itemsOf]
      rw [htail, hnone, List.nil_append]
    | cons c rest =>
      have hsuffix : c :: rest <:+ s := hs ▸ List.dropWhile_suffix _
      have happend : Text.trimStart (s ++ ' ' :: tail) = c :: (rest ++ ' ' :: tail) := by
        rw [← Text.trimStart_trimStart_append, hs]
        exact List.dropWhile_cons_of_neg (by simp [Text.isBlank_of_trimStart_eq_cons hs])
      have hitem : item (c :: (rest ++ ' ' :: tail))
          = ((item (c :: rest)).1, Text.trimStart ((item (c :: rest)).2 ++ ' ' :: tail)) :=
        item_append_cons fun quote => h (c :: rest) quote hsuffix
      have hlt : (item (c :: rest)).2.length < n := by
        have hle := length_item_le c rest
        have hle' := hsuffix.length_le
        rw [List.length_cons] at hle'
        omega
      have hbehind := ih _ hlt
        (fun t quote ht => h t quote (ht.trans ((item_snd_suffix _).trans hsuffix))) rfl
      rw [items_ofLine_cons hs, items_ofLine_cons happend, hitem, ofLine_trimStart, hbehind,
        List.append_assoc]

/-- The key of a field stands in its line with an equals sign behind it, and the value is no longer
than what is left of the line. -/
lemma of_mem_items (h : (key, val) ∈ (ofLine s).items) :
    key ++ ['='] <:+: s ∧ key.length + val.length < s.length := by
  -- By induction on the length of the line, which an item makes shorter.
  induction hn : s.length using Nat.strongRecOn generalizing s with
  | ind n ih =>
    cases hs : Text.trimStart s with
    | nil =>
      rw [ofLine, hs, itemsOf] at h
      cases h
    | cons c rest =>
      have hsuffix : c :: rest <:+ s := hs ▸ List.dropWhile_suffix _
      have hle := hsuffix.length_le
      rw [items_ofLine_cons hs, List.mem_append, Option.mem_toList] at h
      rcases h with h | h
      · unfold item at h
        split at h
        · next rest' hdrop =>
          obtain ⟨rfl, rfl⟩ := Prod.mk.inj (Option.some.inj h)
          have hparts := List.takeWhile_append_dropWhile (p := isKeyChar) (l := c :: rest)
          rw [hdrop] at hparts
          have hlength := congrArg List.length hparts
          have hvalue := length_value_fst_le rest'
          rw [List.length_append, List.length_cons] at hlength
          have hkey : (c :: rest).takeWhile isKeyChar ++ ['='] <+: c :: rest :=
            ⟨rest', by rw [List.append_assoc, List.singleton_append, hparts]⟩
          exact ⟨hkey.isInfix.trans hsuffix.isInfix, by omega⟩
        · cases h
      · have hshorter := length_item_le c rest
        have hlt : (item (c :: rest)).2.length < n := by
          rw [List.length_cons] at hle
          omega
        obtain ⟨hkey, hlength⟩ := ih _ hlt h rfl
        exact ⟨hkey.trans ((item_snd_suffix _).trans hsuffix).isInfix, by omega⟩

/-! ### Shapes of an item -/

/-- A text is one item, whatever comes behind the next space. -/
structure IsItem (s : List Char) (field : Option (List Char × List Char)) : Prop where
  starts : ∀ c ∈ s.head?, Text.isBlank c = false
  item_eq : item s = (field, [])
  closed : ∀ quote, ¬Opens quote s

namespace IsItem

/-- An item in front of a text comes before the items of that text. -/
theorem items_append (h : IsItem s field) (tail : List Char) :
    (ofLine (s ++ ' ' :: tail)).items = field.toList ++ (ofLine tail).items := by
  cases s with
  | nil =>
    obtain rfl : none = field := congrArg Prod.fst h.item_eq
    rfl
  | cons c rest =>
    have hitem : item (c :: (rest ++ ' ' :: tail))
        = ((item (c :: rest)).1, Text.trimStart ((item (c :: rest)).2 ++ ' ' :: tail)) :=
      item_append_cons fun quote hopens => absurd hopens (h.closed quote)
    have hstart : Text.trimStart (c :: (rest ++ ' ' :: tail)) = c :: (rest ++ ' ' :: tail) :=
      Text.trimStart_eq_self h.starts
    rw [List.cons_append, items_ofLine_cons hstart, hitem, h.item_eq, ofLine_trimStart]
    rfl

/-- An item at the end of a line. -/
theorem items_eq (h : IsItem s field) : (ofLine s).items = field.toList := by
  cases s with
  | nil =>
    obtain rfl : none = field := congrArg Prod.fst h.item_eq
    rw [ofLine_nil]
    rfl
  | cons c rest =>
    rw [items_ofLine_cons (Text.trimStart_eq_self h.starts), h.item_eq, ofLine_nil,
      List.append_nil]

/-- A word without an equals sign is no field. -/
lemma word (hstart : ∀ c ∈ s.head?, Text.isBlank c = false) (h : ' ' ∉ s ∧ '=' ∉ s) :
    IsItem s none := by
  have hdrop : s.dropWhile isKeyChar = [] :=
    List.dropWhile_eq_nil_iff.2 (isKeyChar_of_mem h)
  refine ⟨hstart, by rw [item, hdrop]; rfl, ?_⟩
  rintro quote ⟨-, rest, hrest, -⟩
  rw [hdrop] at hrest
  cases hrest

/-- A key with a value up to the next space. -/
lemma plain (hstart : ∀ c ∈ (key ++ ['=']).head?, Text.isBlank c = false)
    (hkey : ' ' ∉ key ∧ '=' ∉ key) (hval : ∀ c ∈ val.head?, ¬IsQuote c) (hspace : ' ' ∉ val) :
    IsItem (key ++ '=' :: val) (some (key, val)) := by
  refine ⟨?_, ?_, ?_⟩
  · cases key with
    | nil => exact hstart
    | cons c key => exact hstart
  · rw [item_append hkey, value_of_space_notMem hval hspace]
    rfl
  · rintro quote ⟨hquote, rest, hrest, -⟩
    rw [dropWhile_isKeyChar_append hkey] at hrest
    obtain ⟨-, rfl⟩ := List.cons.inj hrest
    exact hval quote rfl hquote

/-- A key with a value between quotes. -/
lemma quoted (hstart : ∀ c ∈ (key ++ ['=']).head?, Text.isBlank c = false)
    (hkey : ' ' ∉ key ∧ '=' ∉ key) (hquote : IsQuote quote) (hval : quote ∉ val) :
    IsItem (key ++ '=' :: quote :: (val ++ [quote])) (some (key, val)) := by
  refine ⟨?_, ?_, ?_⟩
  · cases key with
    | nil => exact hstart
    | cons c key => exact hstart
  · rw [item_append hkey, value_quoted hquote hval]
    rfl
  · rintro quote' ⟨-, rest, hrest, hnot⟩
    rw [dropWhile_isKeyChar_append hkey] at hrest
    obtain ⟨rfl, rfl⟩ : quote = quote' ∧ val ++ [quote] = rest := by simpa using hrest
    simp at hnot

/-- A word in which no quote stands behind an equals sign is one item, which may be a field. -/
lemma exists_field (hstart : ∀ c ∈ s.head?, Text.isBlank c = false) (hspace : ' ' ∉ s)
    (hquote : ∀ quote, IsQuote quote → ¬['=', quote] <:+: s) : ∃ field, IsItem s field := by
  by_cases heq : '=' ∈ s
  · obtain ⟨key, val, rfl, hkey⟩ := List.eq_append_cons_of_mem heq
    rw [List.mem_append, List.mem_cons, not_or, not_or] at hspace
    refine ⟨_, plain ?_ ⟨hspace.1, hkey⟩ ?_ hspace.2.2⟩
    · cases key with
      | nil => exact hstart
      | cons c key => exact hstart
    · intro c hc hq
      obtain ⟨rest, rfl⟩ := List.head?_eq_some_iff.1 hc
      exact hquote c hq ⟨key, rest, by simp⟩
  · exact ⟨none, word hstart ⟨hspace, heq⟩⟩

end IsItem

/-- The fields of items with a space between each two of them, in their order. -/
theorem items_intercalate {pieces : List (List Char)}
    {fields : List (Option (List Char × List Char))} (h : List.Forall₂ IsItem pieces fields) :
    (ofLine ([' '].intercalate pieces)).items = fields.flatMap Option.toList := by
  induction h with
  | nil => rw [List.intercalate_nil, ofLine_nil, List.flatMap_nil]
  | cons hpiece hpieces ih =>
    cases hpieces with
    | nil => rw [List.intercalate_singleton, hpiece.items_eq, List.flatMap_singleton]
    | cons hnext hpieces =>
      rw [List.intercalate_cons_cons, ← List.append_cons, hpiece.items_append, ih]
      rfl

/-- A key with a value that has neither a space nor a quote. -/
lemma isItem_assignment (key : String) (hkey : ' ' ∉ key.toList ∧ '=' ∉ key.toList)
    (hstart : ∀ c ∈ (key.toList ++ ['=']).head?, Text.isBlank c = false)
    (hval : ∀ c ∈ val, c ≠ ' ' ∧ ¬IsQuote c) :
    IsItem (Text.assignment key val) (some (key.toList, val)) := by
  refine .plain hstart hkey ?_ ?_
  · intro c hc
    exact (hval c (List.mem_of_mem_head? hc)).2
  · intro hspace
    exact (hval ' ' hspace).1 rfl

/-! ### Look-up -/

@[simp] lemma get?_nil (key : String) : get? ⟨[]⟩ key = none := rfl

lemma get?_append (key : String) : get? ⟨xs ++ ys⟩ key = (get? ⟨ys⟩ key).or (get? ⟨xs⟩ key) := by
  rw [get?, get?, get?, List.reverse_append, List.find?_append, Option.map_or]

/-- A value that is found is that of some field with the key. -/
lemma exists_mem_of_get?_eq_some {key val : String} (h : get? ⟨xs⟩ key = some val) :
    (key.toList, val.toList) ∈ xs := by
  obtain ⟨⟨k, v⟩, hfind, rfl⟩ := Option.map_eq_some_iff.1 h
  have hkey : k = key.toList := by simpa using List.find?_some hfind
  rw [String.toList_ofList, ← hkey]
  exact List.mem_reverse.1 (List.mem_of_find?_eq_some hfind)

end Fields

end SupplicantWatch
