import Mathlib.Tactic.Common
import SupplicantWatch.Proofs.Fields.Items
import SupplicantWatch.Proofs.Text.Blanks

/-!
# White space behind the fields of a line

White space behind a line is a part of a field only if the line ends in a field without quotes, and
then as far as there is no space in it. Main statements: `items_append_blanks_cases` and
`get?_append_blanks_iff`.
-/

namespace SupplicantWatch.Fields

open Text (IsBlank Sticks)

/-- A field whose value goes on in what is put behind it. -/
structure IsOpen (key val : List Char) : Prop where
  key_notMem : ' ' ∉ key ∧ '=' ∉ key
  quotedValue?_eq : quotedValue? val = none
  space_notMem : ' ' ∉ val

/-- A text that starts with an item ends in a field whose value goes on in what is put behind the
text. -/
inductive EndsOpen : (s key val : List Char) → Prop where
  | last {key val : List Char} (h : IsOpen key val) : EndsOpen (key ++ '=' :: val) key val
  | skip {c : Char} {s key val : List Char} (h : EndsOpen (item (c :: s)).2 key val) :
    EndsOpen (c :: s) key val

variable {c : Char} {key key' val val' s t b : List Char}

lemma value_of_quotedValue?_eq_none (h : quotedValue? s = none) :
    value s = (Text.before ' ' s, s.dropWhile (· != ' ')) := by
  rw [value, h, Option.getD_none]

lemma IsOpen.item_eq (h : IsOpen key val) : item (key ++ '=' :: val) = (some (key, val), []) := by
  have hall := Text.forall_bne_of_notMem h.space_notMem
  have hvalue : value val = (val, []) := by
    rw [value_of_quotedValue?_eq_none h.quotedValue?_eq, Text.before,
      List.takeWhile_eq_self_iff.2 hall, List.dropWhile_eq_nil_iff.2 hall]
  rw [item_append h.key_notMem, hvalue]
  rfl

/-! ### One item -/

/-- White space closes no quote. -/
lemma quotedValue?_append_blanks (hb : IsBlank b) (s : List Char) :
    quotedValue? (s ++ b) = (quotedValue? s).map fun parts => (parts.1, parts.2 ++ b) := by
  have hquote {quote : Char} (h : Text.isBlank quote = true) :
      ¬(quote = '\x27' ∨ quote = '\x22') := by
    rintro (rfl | rfl)
    · cases h
    · cases h
  cases s with
  | nil =>
    cases b with
    | nil => rfl
    | cons c b => exact if_neg (hquote (hb c List.mem_cons_self))
  | cons quote s =>
    rw [List.cons_append, quotedValue?, quotedValue?]
    split_ifs with h
    · cases hcut : Text.cut? quote s with
      | some parts =>
        obtain ⟨rfl, hfront⟩ := Text.cut?_eq_some_iff.1 hcut
        exact Text.cut?_eq_some_iff.2 ⟨by rw [List.append_assoc, List.cons_append], hfront⟩
      | none =>
        rw [Option.map_none, Text.cut?_eq_none_iff, List.mem_append, not_or]
        exact ⟨Text.cut?_eq_none_iff.1 hcut, fun hmem => hquote (hb quote hmem) h⟩
    · rfl

lemma IsOpen.append_blanks (h : IsOpen key val) (hb : IsBlank b) (hspace : ' ' ∉ b) :
    IsOpen key (val ++ b) where
  key_notMem := h.key_notMem
  quotedValue?_eq := by rw [quotedValue?_append_blanks hb, h.quotedValue?_eq, Option.map_none]
  space_notMem := by simp [h.space_notMem, hspace]

lemma value_append_blanks (h : quotedValue? s ≠ none ∨ ' ' ∈ s) (hb : IsBlank b) :
    value (s ++ b) = ((value s).1, (value s).2 ++ b) := by
  have hquoted := quotedValue?_append_blanks hb s
  cases hs : quotedValue? s with
  | some parts =>
    rw [hs] at hquoted
    rw [value, value, hs, hquoted]
    rfl
  | none =>
    rw [hs] at hquoted
    obtain ⟨front, rest, rfl, hfront⟩ :=
      List.eq_append_cons_of_mem (h.resolve_left (not_not_intro hs))
    have hdrop (rest : List Char) : (front ++ ' ' :: rest).dropWhile (· != ' ') = ' ' :: rest :=
      Text.dropWhile_append_of_head? (Text.forall_bne_of_notMem hfront) (by simp)
    rw [value_of_quotedValue?_eq_none hs, value_of_quotedValue?_eq_none hquoted,
      Text.before_append_of_mem (by simp), List.append_assoc, List.cons_append, hdrop, hdrop]
    rfl

/-- A text starts with a field, or with a word that is none. -/
lemma exists_eq_field_or_word (s : List Char) :
    (∃ key rest, s = key ++ '=' :: rest ∧ ' ' ∉ key ∧ '=' ∉ key)
      ∨ ∃ word rest, s = word ++ rest ∧ (' ' ∉ word ∧ '=' ∉ word)
        ∧ (rest = [] ∨ [' '] <+: rest) := by
  have hparts := List.takeWhile_append_dropWhile (p := isKeyChar) (l := s)
  have hnot {c : Char} (hc : isKeyChar c = false) : c ∉ s.takeWhile isKeyChar :=
    Text.notMem_of_forall (List.all_eq_true.1 List.all_takeWhile) hc
  have hspace := hnot (c := ' ') (by decide)
  have hequal := hnot (c := '=') (by decide)
  cases hdrop : s.dropWhile isKeyChar with
  | nil =>
    rw [hdrop] at hparts
    exact .inr ⟨_, [], hparts.symm, ⟨hspace, hequal⟩, .inl rfl⟩
  | cons c rest =>
    have hc : isKeyChar c = false :=
      Text.head?_dropWhile_eq_false isKeyChar s c (by rw [hdrop]; rfl)
    rw [hdrop] at hparts
    by_cases he : c = '='
    · subst he
      exact .inl ⟨_, rest, hparts.symm, hspace, hequal⟩
    · obtain rfl : c = ' ' := by simpa [isKeyChar, he] using hc
      exact .inr ⟨_, ' ' :: rest, hparts.symm, ⟨hspace, hequal⟩, .inr ⟨rest, rfl⟩⟩

lemma item_word_append {word rest : List Char} (h : ' ' ∉ word ∧ '=' ∉ word)
    (hrest : rest = [] ∨ [' '] <+: rest) : item (word ++ rest) = (none, Text.trimStart rest) := by
  have hhead : ∀ c ∈ rest.head?, isKeyChar c = false := by
    rcases hrest with rfl | ⟨rest, rfl⟩
    · simp
    · rintro _ ⟨⟩
      rfl
  rw [item, Text.dropWhile_append_of_head? (isKeyChar_of_mem h) hhead]
  rcases hrest with rfl | ⟨rest, rfl⟩ <;> rfl

/-- What white space without a space in it does to the item at the start of a text. -/
lemma item_append_blanks (h : ∀ key val, s = key ++ '=' :: val → ¬IsOpen key val)
    (hb : IsBlank b) (hspace : ' ' ∉ b) :
    item (s ++ b) = ((item s).1, Text.trimStart ((item s).2 ++ b)) := by
  have hequal : '=' ∉ b := hb.notMem (by decide)
  have htrim : Text.trimStart b = [] := List.dropWhile_eq_nil_iff.2 hb
  rcases exists_eq_field_or_word s with ⟨key, rest, rfl, hkey⟩ | ⟨word, rest, rfl, hword, hrest⟩
  · have hclosed : quotedValue? rest ≠ none ∨ ' ' ∈ rest := by
      by_contra hnot
      push Not at hnot
      exact h key rest rfl ⟨hkey, hnot.1, hnot.2⟩
    rw [List.append_assoc, List.cons_append, item_append hkey, item_append hkey,
      value_append_blanks hclosed hb, Text.trimStart_trimStart_append]
  · rw [item_word_append hword hrest, Text.trimStart_trimStart_append, List.append_assoc]
    rcases hrest with rfl | ⟨rest, rfl⟩
    · have hboth : ' ' ∉ word ++ b ∧ '=' ∉ word ++ b := by simp [hword, hspace, hequal]
      have hitem := item_word_append hboth (.inl rfl)
      rw [List.append_nil] at hitem
      rw [List.nil_append, hitem, htrim]
      rfl
    · exact item_word_append hword (.inr ⟨rest ++ b, rfl⟩)

/-! ### Lines -/

lemma itemsOf_of_ne_nil (h : s ≠ []) : itemsOf s = (item s).1.toList ++ itemsOf (item s).2 := by
  obtain ⟨c, s, rfl⟩ := List.exists_cons_of_ne_nil h
  rw [itemsOf]

/-- The field that a text ends in is the last one. -/
lemma EndsOpen.getLast?_itemsOf (h : EndsOpen s key val) :
    (itemsOf s).getLast? = some (key, val) := by
  induction h with
  | last h =>
    rw [itemsOf_of_ne_nil (by simp), h.item_eq, itemsOf]
    rfl
  | skip _ ih =>
    rw [itemsOf, List.getLast?_append, ih]
    rfl

lemma EndsOpen.unique (h : EndsOpen s key val) (h' : EndsOpen s key' val') :
    key = key' ∧ val = val' := by
  have heq := h.getLast?_itemsOf.symm.trans h'.getLast?_itemsOf
  cases heq
  exact ⟨rfl, rfl⟩

lemma items_ofLine_of_isBlank (hb : IsBlank b) : (ofLine b).items = [] := by
  have htrim : Text.trimStart b = [] := List.dropWhile_eq_nil_iff.2 hb
  rw [ofLine, htrim, itemsOf]

/-- What is behind a space in the white space is behind all items. -/
lemma items_append_before (hb : IsBlank b) (t : List Char) :
    (ofLine (t ++ b)).items = (ofLine (t ++ Text.before ' ' b)).items := by
  obtain ⟨-, rest, heq, hrest⟩ := Text.before_eq_iff.1 (rfl : Text.before ' ' b = _)
  rcases hrest with rfl | ⟨rest, rfl⟩
  · rw [List.append_nil] at heq
    rw [← heq]
  · have hblank : IsBlank rest := by
      rw [heq] at hb
      exact (List.forall_mem_cons.1 hb.of_append.2).2
    have hquote (s : List Char) (quote : Char) (_ : s <:+ t ++ Text.before ' ' b)
        (h : Opens quote s) : quote ∉ rest := by
      apply hblank.notMem
      rcases h.1 with rfl | rfl <;> rfl
    conv_lhs => rw [heq]
    rw [← List.append_assoc, List.singleton_append, items_ofLine_append_cons hquote,
      items_ofLine_of_isBlank hblank, List.append_nil]

/-- White space behind a line goes on the value of a field that ends the line, and is no part of
any other item. -/
theorem items_append_blanks_cases (hb : IsBlank b) (t : List Char) :
    (∃ key val init, EndsOpen (Text.trimStart t) key val ∧ (ofLine t).items = init ++ [(key, val)]
        ∧ (ofLine (t ++ b)).items = init ++ [(key, val ++ Text.before ' ' b)])
      ∨ (∀ key val, ¬EndsOpen (Text.trimStart t) key val)
        ∧ (ofLine (t ++ b)).items = (ofLine t).items := by
  have hspace : ' ' ∉ Text.before ' ' b := (Text.before_eq_iff.1 rfl).1
  have hb' : IsBlank (Text.before ' ' b) := fun c hc => hb c ((List.takeWhile_prefix _).subset hc)
  -- Only the white space in front of the first space can go on a field.
  rw [items_append_before hb]
  -- By induction on the length of the line, which an item makes shorter.
  induction hn : t.length using Nat.strongRecOn generalizing t with
  | ind n ih =>
    cases ht : Text.trimStart t with
    | nil =>
      right
      refine ⟨fun key val h => ?_, ?_⟩
      · generalize hs : [] = s at h
        cases h with
        | last => simp at hs
        | skip => cases hs
      · have hblank : IsBlank t := List.dropWhile_eq_nil_iff.1 ht
        rw [items_ofLine_of_isBlank hblank,
          items_ofLine_of_isBlank (List.forall_mem_append.2 ⟨hblank, hb'⟩)]
    | cons c s =>
      have happend : Text.trimStart (t ++ Text.before ' ' b) = c :: (s ++ Text.before ' ' b) := by
        rw [← Text.trimStart_trimStart_append, ht]
        exact List.dropWhile_cons_of_neg (by simp [Text.isBlank_of_trimStart_eq_cons ht])
      rw [items_ofLine_cons ht, items_ofLine_cons happend, ← List.cons_append]
      -- Either the first item is the field that the white space goes on, or the rest decides.
      by_cases hopen : ∃ key val, c :: s = key ++ '=' :: val ∧ IsOpen key val
      · obtain ⟨key, val, hs, hopen⟩ := hopen
        rw [hs, List.append_assoc, List.cons_append, hopen.item_eq,
          (hopen.append_blanks hb' hspace).item_eq, ofLine_nil]
        exact .inl ⟨key, val, [], .last hopen, rfl, rfl⟩
      · push Not at hopen
        have hlt : (item (c :: s)).2.length < n := by
          have hle := length_item_le c s
          have hsuffix : c :: s <:+ t := ht ▸ List.dropWhile_suffix _
          have hle' := hsuffix.length_le
          rw [List.length_cons] at hle'
          omega
        rw [item_append_blanks hopen hb' hspace, ofLine_trimStart]
        rcases ih _ hlt (item (c :: s)).2 rfl with ⟨key, val, init, h, hs, hsb⟩ | ⟨h, hsb⟩
        · rw [trimStart_item_snd] at h
          refine .inl ⟨key, val, (item (c :: s)).1.toList ++ init, .skip h, ?_, ?_⟩
          · rw [hs, List.append_assoc]
          · rw [hsb, List.append_assoc]
        · refine .inr ⟨fun key val h' => ?_, by rw [hsb]⟩
          generalize hs : c :: s = u at h'
          cases h' with
          | last hlast => exact hopen key val hs hlast
          | skip hskip =>
            obtain ⟨rfl, rfl⟩ := List.cons.inj hs
            rw [trimStart_item_snd] at h
            exact h key val hskip

/-! ### What is read of the fields -/

/-- The line ends in a field with the key, whose value goes on in what is put behind the line. -/
def EndsIn (key : String) (t : List Char) : Prop :=
  ∃ val, EndsOpen (Text.trimStart t) key.toList val

variable {k : String}

lemma get?_of_items {init : List (List Char × List Char)}
    (h : (ofLine t).items = init ++ [(key, val)]) (k : String) :
    (ofLine t).get? k
      = if key = k.toList then some (String.ofList val) else Fields.get? ⟨init⟩ k := by
  rw [get?, h, get?, List.reverse_append, List.reverse_singleton, List.singleton_append,
    List.find?_cons]
  split_ifs with hk <;> simp [hk]

/-- White space that goes on the last field of a line goes on what is read with the key of that
field, and changes nothing else that is read. -/
lemma get?_append_blanks_cases (hb : IsBlank b) (t : List Char) (k : String) :
    (Sticks b ∧ EndsIn k t ∧ ∃ val, (ofLine t).get? k = some (String.ofList val)
        ∧ (ofLine (t ++ b)).get? k = some (String.ofList (val ++ Text.before ' ' b)))
      ∨ ¬(Sticks b ∧ EndsIn k t) ∧ (ofLine (t ++ b)).get? k = (ofLine t).get? k := by
  rcases items_append_blanks_cases hb t with ⟨key, val, init, h, ht, htb⟩ | ⟨h, htb⟩
  · rw [get?_of_items ht, get?_of_items htb]
    -- What the last field says counts, so it hides what the fields in front of it say of its key.
    by_cases hk : key = k.toList
    · subst hk
      by_cases hsticks : Sticks b
      · rw [if_pos rfl, if_pos rfl]
        exact .inl ⟨hsticks, ⟨val, h⟩, val, rfl, rfl⟩
      · refine .inr ⟨fun h => hsticks h.1, ?_⟩
        rw [Sticks, ne_eq, not_not] at hsticks
        rw [hsticks, List.append_nil]
    · rw [if_neg hk, if_neg hk]
      refine .inr ⟨?_, rfl⟩
      rintro ⟨-, val', h'⟩
      exact hk (h.unique h').1
  · refine .inr ⟨?_, by rw [get?, htb, get?]⟩
    rintro ⟨-, val, h'⟩
    exact h _ val h'

theorem get?_append_blanks_iff (hb : IsBlank b) (t : List Char) (k : String) :
    (ofLine (t ++ b)).get? k = (ofLine t).get? k ↔ ¬(Sticks b ∧ EndsIn k t) := by
  rcases get?_append_blanks_cases hb t k with ⟨hsticks, hend, val, ht, htb⟩ | ⟨hnot, heq⟩
  · refine iff_of_false ?_ (not_not_intro ⟨hsticks, hend⟩)
    rw [ht, htb, Option.some_inj, String.ofList_inj, List.append_right_eq_self]
    exact hsticks
  · exact iff_of_true heq hnot

lemma get?_append_blanks_eq_none_iff (hb : IsBlank b) (t : List Char) (k : String) :
    (ofLine (t ++ b)).get? k = none ↔ (ofLine t).get? k = none := by
  rcases get?_append_blanks_cases hb t k with ⟨-, -, val, ht, htb⟩ | ⟨-, heq⟩
  · rw [ht, htb]
    exact iff_of_false (Option.some_ne_none _) (Option.some_ne_none _)
  · rw [heq]

/-- What is no numeral with white space in it is not read where white space goes on it. -/
lemma bind_get?_append_blanks_cases {α : Type} {read : List Char → Option α}
    (hread : ∀ c s, Text.isBlank c = true → c ∈ s → read s = none) (hb : IsBlank b) (t : List Char)
    (k : String) :
    (Sticks b ∧ EndsIn k t) ∧ ((ofLine (t ++ b)).get? k).bind (fun val => read val.toList) = none
      ∨ ¬(Sticks b ∧ EndsIn k t) ∧ ((ofLine (t ++ b)).get? k).bind (fun val => read val.toList)
        = ((ofLine t).get? k).bind fun val => read val.toList := by
  rcases get?_append_blanks_cases hb t k with ⟨hsticks, hend, val, -, htb⟩ | ⟨hnot, heq⟩
  · obtain ⟨c, hmem, hc⟩ := hsticks.exists_mem_before hb
    refine .inl ⟨⟨hsticks, hend⟩, ?_⟩
    rw [htb, Option.bind_some, String.toList_ofList]
    exact hread c _ hc (List.mem_append_right val hmem)
  · exact .inr ⟨hnot, by rw [heq]⟩

lemma mem_dropHexMarks (hc : Text.isBlank c = true) (h : c ∈ s) : c ∈ dropHexMarks s := by
  fun_induction dropHexMarks s with
  | case1 s ih =>
    simp only [List.mem_cons] at h
    rcases h with rfl | rfl | h
    · cases hc
    · cases hc
    · exact ih h
  | case2 => exact h

lemma hexWord_append_blanks_iff (hb : IsBlank b) (t : List Char) (k : String) :
    (ofLine (t ++ b)).hexWord k = (ofLine t).hexWord k
      ↔ ¬((Sticks b ∧ EndsIn k t) ∧ (ofLine t).hexWord k ≠ 0) := by
  have hread (c : Char) (s : List Char) (hc : Text.isBlank c = true) (h : c ∈ s) :
      Text.word? 16 32 (dropHexMarks s) = none :=
    Text.word?_eq_none_of_isBlank 16 32 hc (mem_dropHexMarks hc h)
  apply Text.eq_iff_of_cases
  rw [hexWord, hexWord]
  rcases bind_get?_append_blanks_cases hread hb t k with ⟨hp, heq⟩ | ⟨hp, heq⟩
  · exact .inl ⟨hp, by rw [heq, Option.getD_none]⟩
  · exact .inr ⟨hp, by rw [heq]⟩

end SupplicantWatch.Fields
