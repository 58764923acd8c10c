import Mathlib.Data.List.Infix
import Mathlib.Tactic.Common
import SupplicantWatch.Text.Scan

/-!
# What the scanners of text find

The scanners said as conditions on the text that they are given: which word stands where, and that
what they find is the first of its kind, or the last. Main statements: `cut?_eq_some_iff`,
`find?_eq_some_iff`, `search_eq_some_iff` and `searchLast_eq_some_iff`.
-/

namespace SupplicantWatch.Text

variable {α : Type} {scan : List Char → Option α} {a : α} {p : Char → Bool} {sep : Char}
  {w s t front rest : List Char}

/-! ### At the start -/

lemma isPrefixOf?_append (w rest : List Char) : w.isPrefixOf? (w ++ rest) = some rest :=
  List.isPrefixOf?_eq_some_iff_append_eq.2 rfl

lemma isPrefixOf?_eq_none_iff : w.isPrefixOf? s = none ↔ ¬w <+: s := by
  rw [← List.isPrefixOf_iff_prefix, ← List.isSome_isPrefixOf?_eq_isPrefixOf,
    Option.not_isSome_iff_eq_none]

/-! ### As far as it goes -/

lemma takeWhile_append_of_head? (hfront : ∀ c ∈ front, p c = true)
    (hrest : ∀ c ∈ rest.head?, p c = false) : (front ++ rest).takeWhile p = front := by
  rw [List.takeWhile_append_of_pos hfront]
  cases rest with
  | nil => simp
  | cons c rest => simp [hrest c rfl]

lemma dropWhile_append_of_head? (hfront : ∀ c ∈ front, p c = true)
    (hrest : ∀ c ∈ rest.head?, p c = false) : (front ++ rest).dropWhile p = rest := by
  rw [List.dropWhile_append_of_pos hfront]
  cases rest with
  | nil => rfl
  | cons c rest => simp [hrest c rfl]

/-- What a text begins with is what its first part does. -/
lemma forall_head?_append {P : Char → Prop} (hne : front ≠ []) (h : ∀ c ∈ front.head?, P c)
    (rest : List Char) : ∀ c ∈ (front ++ rest).head?, P c := by
  rw [List.head?_append_of_ne_nil front hne]
  exact h

lemma notMem_of_forall {c : Char} (h : ∀ d ∈ s, p d = true) (hc : p c = false) : c ∉ s := by
  intro hmem
  rw [h c hmem] at hc
  cases hc

lemma forall_bne_of_notMem (h : sep ∉ front) : ∀ c ∈ front, (c != sep) = true := by
  intro c hc
  rw [bne_iff_ne]
  rintro rfl
  exact h hc

lemma head?_dropWhile_eq_false (p : Char → Bool) (s : List Char) :
    ∀ c ∈ (s.dropWhile p).head?, p c = false := by
  intro c hc
  have hnot := List.head?_dropWhile_not p s
  rw [Option.mem_def] at hc
  rw [hc] at hnot
  exact hnot

/-- The longest front of a kind is taken off, and what is left does not go on with it. -/
theorem some?_eq_some_iff :
    some? p s = some (front, rest)
      ↔ s = front ++ rest ∧ front ≠ [] ∧ (∀ c ∈ front, p c = true)
        ∧ ∀ c ∈ rest.head?, p c = false := by
  constructor
  · intro h
    unfold some? at h
    split at h
    · cases h
    · next hne =>
      cases h
      exact ⟨List.takeWhile_append_dropWhile.symm, hne, List.all_eq_true.1 List.all_takeWhile,
        head?_dropWhile_eq_false p s⟩
  · rintro ⟨rfl, hne, hfront, hrest⟩
    rw [some?, takeWhile_append_of_head? hfront hrest, dropWhile_append_of_head? hfront hrest]
    cases front with
    | nil => exact absurd rfl hne
    | cons c front => rfl

/-! ### At the first occurrence -/

/-- A text is cut at a character exactly where that occurs first. -/
theorem cut?_eq_some_iff :
    cut? sep s = some (front, rest) ↔ s = front ++ sep :: rest ∧ sep ∉ front := by
  constructor
  · exact eq_of_cut?
  · rintro ⟨rfl, h⟩
    have hall := forall_bne_of_notMem h
    have hhead : ∀ c ∈ (sep :: rest).head?, (c != sep) = false := by
      simp
    have hdrop := dropWhile_append_of_head? hall hhead
    have htake := takeWhile_append_of_head? hall hhead
    rw [cut?, hdrop, htake]

lemma cut?_eq_none_iff : cut? sep s = none ↔ sep ∉ s := by
  constructor
  · intro h hmem
    obtain ⟨front, rest, rfl, hfront⟩ := List.eq_append_cons_of_mem hmem
    rw [cut?_eq_some_iff.2 ⟨rfl, hfront⟩] at h
    cases h
  · intro h
    cases hs : cut? sep s with
    | none => rfl
    | some parts =>
      obtain ⟨rfl, -⟩ := eq_of_cut? hs
      exact absurd (List.mem_append_right _ List.mem_cons_self) h

/-- The text before a character is all that there is up to the first occurrence. -/
lemma before_eq_iff :
    before sep s = front
      ↔ sep ∉ front ∧ ∃ rest, s = front ++ rest ∧ (rest = [] ∨ [sep] <+: rest) := by
  constructor
  · rintro rfl
    refine ⟨?_, s.dropWhile (· != sep), List.takeWhile_append_dropWhile.symm, ?_⟩
    · intro hmem
      have hne := List.all_eq_true.1 (List.all_takeWhile (p := fun c => c != sep) (l := s)) _ hmem
      simp at hne
    · cases hdrop : s.dropWhile (· != sep) with
      | nil => exact .inl rfl
      | cons c rest =>
        have hc := List.head_dropWhile_not (· != sep) (by rw [hdrop]; exact List.cons_ne_nil c rest)
        simp only [hdrop, List.head_cons, bne_eq_false_iff_eq] at hc
        exact .inr ⟨rest, by rw [hc]; rfl⟩
  · rintro ⟨hfront, rest, rfl, hrest⟩
    refine takeWhile_append_of_head? (forall_bne_of_notMem hfront) ?_
    rcases hrest with rfl | ⟨tail, rfl⟩
    · simp
    · simp

lemma before_of_notMem (h : sep ∉ s) : before sep s = s :=
  before_eq_iff.2 ⟨h, [], (List.append_nil s).symm, .inl rfl⟩

lemma before_append_of_mem (h : sep ∈ s) (t : List Char) : before sep (s ++ t) = before sep s := by
  obtain ⟨front, rest, rfl, hfront⟩ := List.eq_append_cons_of_mem h
  rw [List.append_assoc, List.cons_append, before, before, takeWhile_append_of_head?
    (forall_bne_of_notMem hfront) (by simp), takeWhile_append_of_head?
    (forall_bne_of_notMem hfront) (by simp)]

lemma before_append_of_notMem (h : sep ∉ s) (t : List Char) :
    before sep (s ++ t) = s ++ before sep t :=
  List.takeWhile_append_of_pos (forall_bne_of_notMem h)

/-- A word is found exactly in the texts that it is a part of. -/
theorem occurs_iff : occurs w s = true ↔ w <:+: s := by
  induction s with
  | nil =>
    rw [occurs, find?, List.infix_nil]
    split_ifs with h
    · exact iff_of_true rfl h
    · exact iff_of_false Bool.false_ne_true h
  | cons c s ih =>
    rw [occurs, find?, List.infix_cons_iff]
    cases hafter : w.isPrefixOf? (c :: s) with
    | some rest => exact iff_of_true rfl (.inl ⟨rest, List.append_eq_of_isPrefixOf?_eq_some hafter⟩)
    | none =>
      rw [Option.isSome_map, or_iff_right (isPrefixOf?_eq_none_iff.1 hafter)]
      exact ih

/-- A word is found exactly where it occurs first. -/
theorem find?_eq_some_iff :
    find? w s = some (front, rest)
      ↔ s = front ++ w ++ rest
        ∧ ∀ front' rest', s = front' ++ w ++ rest' → front.length ≤ front'.length := by
  induction s generalizing front with
  | nil =>
    rw [find?]
    constructor
    · intro h
      split_ifs at h with hw
      cases h
      exact ⟨by simp [hw], fun front' rest' _ => Nat.zero_le _⟩
    · rintro ⟨h, -⟩
      obtain ⟨hfw, rfl⟩ := List.append_eq_nil_iff.1 h.symm
      obtain ⟨rfl, rfl⟩ := List.append_eq_nil_iff.1 hfw
      rfl
  | cons c s ih =>
    rw [find?]
    cases ha : w.isPrefixOf? (c :: s) with
    | some rest' =>
      have hs : c :: s = w ++ rest' := (List.append_eq_of_isPrefixOf?_eq_some ha).symm
      constructor
      · intro h
        cases h
        exact ⟨hs, fun front' rest' _ => Nat.zero_le _⟩
      · rintro ⟨h, hfirst⟩
        have hfront : front = [] := List.length_eq_zero_iff.1 (Nat.le_zero.1 (hfirst [] rest' hs))
        subst hfront
        rw [List.nil_append] at h
        rw [hs, List.append_cancel_left_eq] at h
        rw [h]
    | none =>
      have hnone : ∀ rest', c :: s ≠ w ++ rest' := by
        intro rest' hs
        exact isPrefixOf?_eq_none_iff.1 ha ⟨rest', hs.symm⟩
      constructor
      · intro h
        obtain ⟨⟨front', rest'⟩, hfind, heq⟩ := Option.map_eq_some_iff.1 h
        cases heq
        obtain ⟨hs, hfirst⟩ := ih.1 hfind
        refine ⟨by rw [hs]; rfl, ?_⟩
        intro front'' rest'' h''
        cases front'' with
        | nil => exact absurd h'' (hnone rest'')
        | cons d front'' =>
          obtain ⟨rfl, hs''⟩ := List.cons.inj h''
          exact Nat.succ_le_succ (hfirst front'' rest'' hs'')
      · rintro ⟨h, hfirst⟩
        cases front with
        | nil => exact absurd h (hnone rest)
        | cons d front =>
          obtain ⟨rfl, hs⟩ := List.cons.inj h
          have hfind : find? w s = some (front, rest) := by
            refine ih.2 ⟨hs, ?_⟩
            intro front' rest' h'
            exact Nat.le_of_succ_le_succ (hfirst (c :: front') rest' (by rw [h']; rfl))
          simp [hfind]

/-- The parts that `find?` returns, with the word between them, are the text. -/
lemma eq_of_find? (h : find? w s = some (front, rest)) : s = front ++ w ++ rest :=
  (find?_eq_some_iff.1 h).1

lemma exists_of_length_le (h : s ++ t = front ++ rest) (hle : front.length ≤ s.length) :
    ∃ tail, s = front ++ tail ∧ rest = tail ++ t := by
  obtain ⟨tail, rfl⟩ : front <+: s :=
    List.prefix_of_prefix_length_le ⟨rest, h.symm⟩ (List.prefix_append s t) hle
  rw [List.append_assoc, List.append_cancel_left_eq] at h
  exact ⟨tail, rfl, h.symm⟩

/-- The first occurrence of a word stays the first one, whatever is put behind the text. -/
lemma find?_append_of_eq_some (h : find? w s = some (front, rest)) (t : List Char) :
    find? w (s ++ t) = some (front, rest ++ t) := by
  obtain ⟨hs, hfirst⟩ := find?_eq_some_iff.1 h
  refine find?_eq_some_iff.2 ⟨by rw [hs, List.append_assoc], ?_⟩
  intro front' rest' heq
  by_contra hlt
  have hle : (front' ++ w).length ≤ s.length := by
    rw [hs]
    simp only [List.length_append]
    omega
  obtain ⟨tail, htail, -⟩ := exists_of_length_le heq hle
  exact hlt (hfirst front' tail htail)

lemma find?_eq_none_iff : find? w s = none ↔ ¬w <:+: s := by
  rw [← occurs_iff, occurs, Option.isSome_iff_ne_none, not_not]

/-! ### Where a scanner has no answer -/

/-- A scanner of what begins with a word has no answer in a part of a text where the word neither
stands nor begins. -/
lemma scan_append_of_tails (hscan : ∀ t, ¬w <+: t → scan t = none)
    (h : ∀ t ∈ front.tails, t ≠ [] → ¬t <+: w ∧ ¬w <+: t) (rest : List Char) :
    ∀ t, t <:+ front → t ≠ [] → scan (t ++ rest) = none := by
  intro t ht hne
  obtain ⟨hpart, hwhole⟩ := h t ((List.mem_tails t front).2 ht) hne
  apply hscan
  intro hprefix
  exact (List.prefix_or_prefix_of_prefix hprefix (List.prefix_append t rest)).elim hwhole hpart

/-- In particular in a part without the first character of the word. -/
lemma scan_append_of_notMem {c : Char} (hscan : ∀ t, ¬c :: w <+: t → scan t = none)
    (h : c ∉ front) (rest : List Char) :
    ∀ t, t <:+ front → t ≠ [] → scan (t ++ rest) = none := by
  intro t ht hne
  obtain ⟨d, t, rfl⟩ := List.exists_cons_of_ne_nil hne
  apply hscan
  intro hprefix
  obtain ⟨rfl, -⟩ := List.cons_prefix_cons.1 hprefix
  exact h (ht.subset List.mem_cons_self)

/-- A word is found behind a part of a text where it neither stands nor begins. -/
lemma find?_append (h : ∀ t, t <:+ front → t ≠ [] → List.isPrefixOf? w (t ++ (w ++ rest)) = none) :
    find? w (front ++ (w ++ rest)) = some (front, rest) := by
  induction front with
  | nil =>
    rw [List.nil_append]
    cases hs : w ++ rest with
    | nil =>
      obtain ⟨rfl, rfl⟩ := List.append_eq_nil_iff.1 hs
      rfl
    | cons c s => rw [find?, ← hs, isPrefixOf?_append]
  | cons c front ih =>
    have hc := h (c :: front) List.suffix_rfl (List.cons_ne_nil c front)
    rw [List.cons_append] at hc ⊢
    rw [find?, hc, ih fun t ht => h t (ht.trans (List.suffix_cons c front))]
    rfl

lemma find?_append_of_tails (h : ∀ t ∈ front.tails, t ≠ [] → ¬t <+: w ∧ ¬w <+: t)
    (rest : List Char) : find? w (front ++ (w ++ rest)) = some (front, rest) :=
  find?_append (scan_append_of_tails (fun _ => isPrefixOf?_eq_none_iff.2) h (w ++ rest))

lemma find?_append_of_notMem {c : Char} (h : c ∉ front) (rest : List Char) :
    find? (c :: w) (front ++ (c :: w ++ rest)) = some (front, rest) :=
  find?_append (scan_append_of_notMem (fun _ => isPrefixOf?_eq_none_iff.2) h (c :: w ++ rest))

lemma find?_singleton (c : Char) (s : List Char) : find? [c] s = cut? c s := by
  cases hcut : cut? c s with
  | some parts =>
    obtain ⟨rfl, hfront⟩ := cut?_eq_some_iff.1 hcut
    exact find?_append_of_notMem hfront parts.2
  | none =>
    cases hfind : find? [c] s with
    | none => rfl
    | some parts =>
      have hs := eq_of_find? hfind
      exact absurd (by rw [hs]; simp) (cut?_eq_none_iff.1 hcut)

/-! ### At the first position

A position is what of the text is left there, so the first one is the longest of some. -/

lemma search_of_eq_some (h : scan s = some a) : search scan s = some a := by
  cases s <;> simp [search, h]

/-- The parts of a text at which there is no answer may be left out. -/
lemma search_append (h : ∀ t, t <:+ front → t ≠ [] → scan (t ++ rest) = none) :
    search scan (front ++ rest) = search scan rest := by
  induction front with
  | nil => rfl
  | cons c front ih =>
    have hc := h (c :: front) List.suffix_rfl (List.cons_ne_nil c front)
    rw [List.cons_append] at hc ⊢
    rw [search, hc, Option.none_or]
    exact ih fun t ht => h t (ht.trans (List.suffix_cons c front))

/-- A search answers what the scanner does at the first position at which it has an answer. -/
theorem search_eq_some_iff :
    search scan s = some a
      ↔ ∃ t, t <:+ s ∧ scan t = some a ∧ ∀ u, u <:+ s → scan u ≠ none → u.length ≤ t.length := by
  induction s with
  | nil => simp [search]
  | cons c s ih =>
    rw [search]
    cases hc : scan (c :: s) with
    | some b =>
      rw [Option.some_or]
      constructor
      · rintro ⟨⟩
        exact ⟨c :: s, List.suffix_rfl, hc, fun u hu _ => hu.length_le⟩
      · rintro ⟨t, ht, hscan, hfirst⟩
        have hle := hfirst (c :: s) List.suffix_rfl (by simp [hc])
        rw [ht.eq_of_length_le hle, hc] at hscan
        exact hscan
    | none =>
      rw [Option.none_or, ih]
      constructor
      · rintro ⟨t, ht, hscan, hfirst⟩
        refine ⟨t, ht.trans (List.suffix_cons c s), hscan, ?_⟩
        intro u hu hsome
        rcases List.suffix_cons_iff.1 hu with rfl | hu
        · exact absurd hc hsome
        · exact hfirst u hu hsome
      · rintro ⟨t, ht, hscan, hfirst⟩
        rcases List.suffix_cons_iff.1 ht with rfl | ht
        · rw [hc] at hscan
          cases hscan
        · exact ⟨t, ht, hscan, fun u hu => hfirst u (hu.trans (List.suffix_cons c s))⟩

lemma search_eq_none_iff : search scan s = none ↔ ∀ t, t <:+ s → scan t = none := by
  induction s with
  | nil => simp [search]
  | cons c s ih =>
    rw [search, Option.or_eq_none_iff, ih]
    constructor
    · rintro ⟨hc, hs⟩ t ht
      rcases List.suffix_cons_iff.1 ht with rfl | ht
      · exact hc
      · exact hs t ht
    · intro h
      exact ⟨h _ List.suffix_rfl, fun t ht => h t (ht.trans (List.suffix_cons c s))⟩

/-! ### At the last position -/

/-- What stands in front of an answer does not count. -/
lemma searchLast_append_of_eq_some (h : searchLast scan rest = some a) (front : List Char) :
    searchLast scan (front ++ rest) = some a := by
  induction front with
  | nil => exact h
  | cons c front ih => rw [List.cons_append, searchLast, ih, Option.some_or]

lemma searchLast_append (h : ∀ t, t <:+ front → t ≠ [] → scan (t ++ rest) = none) :
    searchLast scan (front ++ rest) = searchLast scan rest := by
  induction front with
  | nil => rfl
  | cons c front ih =>
    have hc := h (c :: front) List.suffix_rfl (List.cons_ne_nil c front)
    rw [List.cons_append] at hc ⊢
    rw [searchLast, hc, Option.or_none]
    exact ih fun t ht => h t (ht.trans (List.suffix_cons c front))

lemma searchLast_eq_none_iff : searchLast scan s = none ↔ ∀ t, t <:+ s → scan t = none := by
  induction s with
  | nil => simp [searchLast]
  | cons c s ih => simp [searchLast, ih, List.suffix_cons_iff, and_comm]

/-- A search from the end answers what the scanner does at the last position at which it has an
answer. -/
theorem searchLast_eq_some_iff :
    searchLast scan s = some a
      ↔ ∃ t, t <:+ s ∧ scan t = some a ∧ ∀ u, u <:+ s → scan u ≠ none → t.length ≤ u.length := by
  induction s with
  | nil => simp [searchLast]
  | cons c s ih =>
    rw [searchLast]
    cases hs : searchLast scan s with
    | some b =>
      rw [Option.some_or, ← hs, ih]
      constructor
      · rintro ⟨t, ht, hscan, hlast⟩
        refine ⟨t, ht.trans (List.suffix_cons c s), hscan, ?_⟩
        intro u hu hsome
        rcases List.suffix_cons_iff.1 hu with rfl | hu
        · exact (ht.trans (List.suffix_cons c s)).length_le
        · exact hlast u hu hsome
      · rintro ⟨t, ht, hscan, hlast⟩
        rcases List.suffix_cons_iff.1 ht with rfl | ht
        · -- There is an answer behind the whole text, so that is not the last position.
          have hnot : ¬∀ u, u <:+ s → scan u = none := by
            rw [← searchLast_eq_none_iff, hs]
            exact Option.some_ne_none b
          push Not at hnot
          obtain ⟨u, hu, hsome⟩ := hnot
          have hle := hlast u (hu.trans (List.suffix_cons c s)) hsome
          exact absurd (Nat.le_trans hle hu.length_le) (Nat.not_succ_le_self s.length)
        · exact ⟨t, ht, hscan, fun u hu => hlast u (hu.trans (List.suffix_cons c s))⟩
    | none =>
      have hnone := searchLast_eq_none_iff.1 hs
      rw [Option.none_or]
      constructor
      · intro h
        refine ⟨c :: s, List.suffix_rfl, h, ?_⟩
        intro u hu hsome
        rcases List.suffix_cons_iff.1 hu with rfl | hu
        · exact Nat.le_refl _
        · exact absurd (hnone u hu) hsome
      · rintro ⟨t, ht, hscan, -⟩
        rcases List.suffix_cons_iff.1 ht with rfl | ht
        · exact hscan
        · rw [hnone t ht] at hscan
          cases hscan

lemma searchLast_isPrefixOf?_eq_none_iff :
    searchLast (List.isPrefixOf? w) s = none ↔ ∀ front rest, s ≠ front ++ w ++ rest := by
  simp only [searchLast_eq_none_iff, isPrefixOf?_eq_none_iff]
  constructor
  · rintro h front rest rfl
    exact h (w ++ rest) ⟨front, (List.append_assoc _ _ _).symm⟩ (List.prefix_append w rest)
  · rintro h t ⟨front, rfl⟩ ⟨rest, rfl⟩
    exact h front rest (List.append_assoc _ _ _).symm

/-- A word is found from the end exactly where it occurs last. -/
theorem searchLast_isPrefixOf?_eq_some_iff :
    searchLast (List.isPrefixOf? w) s = some rest
      ↔ ∃ front, s = front ++ w ++ rest
        ∧ ∀ front' rest', s = front' ++ w ++ rest' → front'.length ≤ front.length := by
  rw [searchLast_eq_some_iff]
  simp only [List.isPrefixOf?_eq_some_iff_append_eq, ne_eq, isPrefixOf?_eq_none_iff, not_not]
  constructor
  · rintro ⟨t, ⟨front, rfl⟩, rfl, hlast⟩
    refine ⟨front, (List.append_assoc _ _ _).symm, ?_⟩
    intro front' rest' h
    rw [List.append_assoc] at h
    have hle := hlast (w ++ rest') ⟨front', h.symm⟩ (List.prefix_append w rest')
    have hlen := congrArg List.length h
    simp only [List.length_append] at hle hlen
    omega
  · rintro ⟨front, rfl, hlast⟩
    refine ⟨w ++ rest, ⟨front, (List.append_assoc _ _ _).symm⟩, rfl, ?_⟩
    rintro u ⟨front', h⟩ ⟨rest', rfl⟩
    have hle := hlast front' rest' (by rw [← h, List.append_assoc])
    have hlen := congrArg List.length h
    simp only [List.length_append] at hle hlen ⊢
    omega

/-- A word that does not occur again behind its first character is found from the end. -/
lemma searchLast_append_cons {c : Char} (front : List Char) (h : ¬c :: w <:+: w ++ rest) :
    searchLast (List.isPrefixOf? (c :: w)) (front ++ c :: (w ++ rest)) = some rest := by
  rw [searchLast_isPrefixOf?_eq_some_iff]
  refine ⟨front, by rw [List.append_assoc, List.cons_append], ?_⟩
  intro front' rest' heq
  rw [List.append_assoc] at heq
  -- An occurrence behind this one would be within what is behind its first character.
  rcases List.append_eq_append_iff.1 heq with ⟨tail, hfront, htail⟩ | ⟨tail, hfront, -⟩
  · cases tail with
    | nil => exact Nat.le_of_eq (by rw [hfront, List.append_nil])
    | cons d tail =>
      rw [List.cons_append] at htail
      obtain ⟨-, htail⟩ := List.cons.inj htail
      exact absurd ⟨tail, rest', by rw [htail, List.append_assoc]⟩ h
  · rw [hfront, List.length_append]
    omega

end SupplicantWatch.Text
