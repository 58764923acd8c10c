import Mathlib.Data.List.Infix
import Mathlib.Tactic.Common
import SupplicantWatch.Proofs.Text.Search

/-!
# The pieces of a text

The pieces of texts that are put together, and where a piece stands in its text. A piece is at the
start or behind a separator, so a search among the pieces that fits only what begins with a word
finds nothing where that word stands at neither place. Main statements:
`splitOn_intercalate_eq_flatMap` and `filterMap_splitOn_eq_nil`.
-/

namespace SupplicantWatch.Text

variable {α : Type} {sep : Char} {s t w : List Char} {pieces : List (List Char)}

lemma splitOn_cons_of_ne {c : Char} (h : c ≠ sep) {piece : List Char} {pieces : List (List Char)}
    (hs : s.splitOn sep = piece :: pieces) : (c :: s).splitOn sep = (c :: piece) :: pieces := by
  rw [List.splitOn_cons_eq_if_modifyHead, if_neg (by simpa using h), hs, List.modifyHead_cons]

/-- What holds of the separator and of the characters of each piece holds of the joined text. -/
lemma forall_mem_intercalate {p : Char → Prop} (hsep : p sep)
    (h : ∀ piece ∈ pieces, ∀ c ∈ piece, p c) : ∀ c ∈ [sep].intercalate pieces, p c := by
  induction pieces with
  | nil => exact List.forall_mem_nil p
  | cons piece pieces ih =>
    rw [List.forall_mem_cons] at h
    cases pieces with
    | nil => simpa using h.1
    | cons next pieces =>
      rw [List.intercalate_cons_cons, ← List.append_cons, List.forall_mem_append,
        List.forall_mem_cons]
      exact ⟨h.1, hsep, ih h.2⟩

lemma map_intercalate (f : Char → Char) (sep : Char) (pieces : List (List Char)) :
    ([sep].intercalate pieces).map f = [f sep].intercalate (pieces.map (·.map f)) := by
  induction pieces with
  | nil => rfl
  | cons piece pieces ih =>
    cases pieces with
    | nil => rw [List.intercalate_singleton, List.map_singleton, List.intercalate_singleton]
    | cons next pieces =>
      rw [List.intercalate_cons_cons, List.map_append, List.map_append, ih, List.map_singleton]
      exact List.intercalate_cons_cons.symm

/-- Texts with a separator between each two of them are split into the pieces of each. -/
theorem splitOn_intercalate_eq_flatMap (h : pieces ≠ []) :
    ([sep].intercalate pieces).splitOn sep = pieces.flatMap (List.splitOn sep) := by
  induction pieces with
  | nil => exact absurd rfl h
  | cons piece pieces ih =>
    cases pieces with
    | nil => rw [List.intercalate_singleton, List.flatMap_cons, List.flatMap_nil, List.append_nil]
    | cons next pieces =>
      rw [List.flatMap_cons, ← ih (List.cons_ne_nil next pieces), ← List.splitOn_append_cons_self,
        List.intercalate_cons_cons, ← List.append_cons]

/-- The text that gives a key a value. -/
def assignment (key : String) (value : List Char) : List Char :=
  key.toList ++ '=' :: value

lemma forall_mem_assignment {p : Char → Prop} {key : String} (hkey : ∀ c ∈ key.toList, p c)
    (hequal : p '=') (hvalue : ∀ c ∈ s, p c) : ∀ c ∈ assignment key s, p c := by
  rw [assignment, List.forall_mem_append, List.forall_mem_cons]
  exact ⟨hkey, hequal, hvalue⟩

/-- With a separator in front of it a joined text is its pieces with a separator before each. -/
lemma cons_intercalate (h : pieces ≠ []) :
    sep :: [sep].intercalate pieces = pieces.flatMap (sep :: ·) := by
  induction pieces with
  | nil => exact absurd rfl h
  | cons piece pieces ih =>
    cases pieces with
    | nil => rw [List.intercalate_singleton, List.flatMap_cons, List.flatMap_nil, List.append_nil]
    | cons next pieces =>
      rw [List.intercalate_cons_cons, ← List.append_cons, List.flatMap_cons,
        ← ih (List.cons_ne_nil next pieces), List.cons_append]

/-- Texts of one line each, written one after the other, are read as these lines. -/
theorem lines_flatMap {texts : List (List Char)} (h : ∀ t ∈ texts, '\n' ∉ t ∧ '\r' ∉ t) :
    lines (texts.flatMap fun t => t ++ ['\n']) = texts := by
  have hsplit : (texts.flatMap fun t => t ++ ['\n']).splitOn '\n' = texts ++ [[]] := by
    induction texts with
    | nil => rfl
    | cons t texts ih =>
      rw [List.flatMap_cons, List.append_assoc, List.singleton_append,
        List.splitOn_append_cons_self_of_not_mem (h t List.mem_cons_self).1,
        ih fun t ht => h t (List.mem_cons_of_mem _ ht), List.cons_append]
  have hreturn : ∀ t ∈ texts, dropReturn t = t := by
    intro t ht
    unfold dropReturn
    split
    · next rest hrest =>
      have hmem : '\r' ∈ t.reverse := hrest ▸ List.mem_cons_self
      exact absurd (List.mem_reverse.1 hmem) (h t ht).2
    · rfl
  rw [lines, hsplit, List.dropLast_concat, List.getLast?_concat, List.map_congr_left hreturn]
  simp

/-! ### Where the pieces stand -/

lemma isPrefix_intercalate (sep : Char) (piece : List Char) (pieces : List (List Char)) :
    piece <+: [sep].intercalate (piece :: pieces) := by
  cases pieces with
  | nil => rw [List.intercalate_singleton]
  | cons next pieces =>
    rw [List.intercalate_cons_cons, ← List.append_cons]
    exact List.prefix_append piece _

lemma infix_intercalate {pieces : List (List Char)} (h : w ∈ pieces) (piece : List Char) :
    sep :: w <:+: [sep].intercalate (piece :: pieces) := by
  induction pieces generalizing piece with
  | nil => cases h
  | cons next pieces ih =>
    rw [List.intercalate_cons_cons, ← List.append_cons]
    rcases List.mem_cons.1 h with rfl | h
    · have hw : sep :: w <+: sep :: [sep].intercalate (w :: pieces) :=
        List.cons_prefix_cons.2 ⟨rfl, isPrefix_intercalate sep w pieces⟩
      exact hw.isInfix.trans (List.suffix_append piece _).isInfix
    · apply (ih h next).trans
      exact (List.suffix_cons sep _).isInfix.trans (List.suffix_append piece _).isInfix

/-- A piece stands at the start of the text or behind a separator. -/
lemma mem_splitOn (h : w ∈ s.splitOn sep) : w <+: s ∨ sep :: w <:+: s := by
  obtain ⟨piece, pieces, hs⟩ := List.exists_cons_of_ne_nil (List.splitOn_ne_nil sep s)
  have hwhole : [sep].intercalate (piece :: pieces) = s := by
    rw [← hs, List.intercalate_splitOn]
  rw [hs, List.mem_cons] at h
  rw [← hwhole]
  rcases h with rfl | h
  · exact .inl (isPrefix_intercalate sep w pieces)
  · exact .inr (infix_intercalate h piece)

lemma mem_of_mem_splitOn {c : Char} (h : w ∈ s.splitOn sep) (hc : c ∈ w) : c ∈ s := by
  rcases mem_splitOn h with hprefix | hinfix
  · exact hprefix.subset hc
  · exact hinfix.subset (List.mem_cons_of_mem sep hc)

lemma mem_of_mem_dropReturn {c : Char} (hc : c ∈ dropReturn s) : c ∈ s := by
  unfold dropReturn at hc
  split at hc
  · next rest hrest =>
    rw [← List.mem_reverse, hrest]
    exact List.mem_cons_of_mem '\r' (List.mem_reverse.1 hc)
  · exact hc

/-- The characters of a line are characters of the text. -/
lemma mem_of_mem_lines {c : Char} (h : w ∈ lines s) (hc : c ∈ w) : c ∈ s := by
  have hne : s.splitOn '\n' ≠ [] := List.splitOn_ne_nil '\n' s
  rw [lines, List.mem_append] at h
  rcases h with h | h
  · obtain ⟨piece, hpiece, rfl⟩ := List.mem_map.1 h
    exact mem_of_mem_splitOn (List.dropLast_subset _ hpiece) (mem_of_mem_dropReturn hc)
  · rw [List.getLast?_eq_getLast_of_ne_nil hne, Option.getD_some] at h
    split_ifs at h
    · cases h
    · rw [List.mem_singleton.1 h] at hc
      exact mem_of_mem_splitOn (List.getLast_mem hne) hc

/-- A separator behind a text without one stands behind all of that text. -/
lemma exists_of_append_eq_append_cons (h : sep ∉ s) {front rest : List Char}
    (heq : s ++ t = front ++ sep :: rest) :
    ∃ tail, front = s ++ tail ∧ t = tail ++ sep :: rest := by
  rcases List.append_eq_append_iff.1 heq with ⟨tail, hfront, ht⟩ | ⟨tail, hs, ht⟩
  · exact ⟨tail, hfront, ht⟩
  · cases tail with
    | nil =>
      refine ⟨[], ?_, ht.symm⟩
      rw [hs, List.append_nil, List.append_nil]
    | cons c tail =>
      rw [List.cons_append] at ht
      obtain ⟨rfl, -⟩ := List.cons.inj ht
      exact absurd (by rw [hs]; simp) h

/-- A word behind a separator does not stand in the part of a text that has no separator. -/
lemma infix_of_infix_append (h : sep ∉ s) (hw : sep :: w <:+: s ++ t) : sep :: w <:+: t := by
  obtain ⟨front, rest, heq⟩ := hw
  rw [List.append_assoc, List.cons_append] at heq
  obtain ⟨tail, -, ht⟩ := exists_of_append_eq_append_cons h heq.symm
  exact ⟨tail, rest, by rw [ht, List.append_assoc, List.cons_append]⟩

/-- A word without a character that follows a text stands in that text, or behind the character. -/
lemma infix_of_infix_append_cons {c : Char} (hc : c ∉ w) (hne : w ≠ []) (hw : w <:+: s ++ c :: t) :
    w <:+: s ∨ w <:+: t := by
  rcases List.infix_append_iff.1 hw with h | h | ⟨w₁, w₂, rfl, h₁, h₂⟩
  · exact .inl h
  · rcases List.infix_cons_iff.1 h with h | h
    · obtain ⟨d, w, rfl⟩ := List.exists_cons_of_ne_nil hne
      obtain ⟨rfl, -⟩ := List.cons_prefix_cons.1 h
      exact absurd List.mem_cons_self hc
    · exact .inr h
  · cases w₂ with
    | nil =>
      rw [List.append_nil]
      exact .inl h₁.isInfix
    | cons d w₂ =>
      obtain ⟨rfl, -⟩ := List.cons_prefix_cons.1 h₂
      exact absurd (by simp) hc

/-- A word without a separator that a text begins with ends before the separator. -/
lemma prefix_of_prefix_append (hw : sep ∉ w) (ht : t = [] ∨ [sep] <+: t) (h : w <+: s ++ t) :
    w <+: s := by
  obtain ⟨rest, heq⟩ := h
  rcases List.append_eq_append_iff.1 heq with ⟨tail, hs, -⟩ | ⟨tail, hws, htail⟩
  · exact ⟨tail, hs.symm⟩
  · cases tail with
    | nil => rw [hws, List.append_nil]
    | cons c tail =>
      rcases ht with rfl | ⟨t, rfl⟩
      · cases htail
      · obtain ⟨rfl, -⟩ := List.cons.inj htail
        exact absurd (by rw [hws]; simp) hw

/-- A word behind a separator stands on one side of each other separator. -/
lemma infix_of_infix_append_sep (hw : sep ∉ w) (h : sep :: w <:+: s ++ sep :: t) :
    sep :: w <:+: s ∨ sep :: w <:+: sep :: t := by
  obtain ⟨front, rest, heq⟩ := h
  rw [List.append_assoc] at heq
  rcases List.append_eq_append_iff.1 heq with ⟨tail, hs, htail⟩ | ⟨tail, -, htail⟩
  · cases tail with
    | nil => exact .inr ⟨[], rest, htail⟩
    | cons c tail =>
      obtain ⟨rfl, hrest⟩ := List.cons.inj htail
      have hprefix : w <+: tail := prefix_of_prefix_append hw (.inr ⟨t, rfl⟩) ⟨rest, hrest⟩
      rw [hs]
      exact .inl ((List.cons_prefix_cons.2 ⟨rfl, hprefix⟩).isInfix.trans
        (List.suffix_append front _).isInfix)
  · exact .inr ⟨tail, rest, by rw [htail, List.append_assoc]⟩

lemma flatMap_cons_cases (sep : Char) (pieces : List (List Char)) :
    pieces.flatMap (sep :: ·) = [] ∨ [sep] <+: pieces.flatMap (sep :: ·) := by
  cases pieces with
  | nil => exact .inl rfl
  | cons piece pieces => exact .inr ⟨_, rfl⟩

/-- A word behind a separator, in a text that pieces follow, each behind a separator, stands in that
text or at the start of a piece. -/
lemma infix_append_flatMap (hw : sep ∉ w) (hp : ∀ piece ∈ pieces, sep ∉ piece)
    (h : sep :: w <:+: s ++ pieces.flatMap (sep :: ·)) :
    sep :: w <:+: s ∨ ∃ piece ∈ pieces, w <+: piece := by
  induction pieces generalizing s with
  | nil => exact .inl (by rwa [List.flatMap_nil, List.append_nil] at h)
  | cons piece pieces ih =>
    rw [List.flatMap_cons, List.cons_append] at h
    rcases infix_of_infix_append_sep hw h with h | h
    · exact .inl h
    rcases List.infix_cons_iff.1 h with h | h
    · have hprefix := prefix_of_prefix_append hw (flatMap_cons_cases sep pieces)
        (List.cons_prefix_cons.1 h).2
      exact .inr ⟨piece, List.mem_cons_self, hprefix⟩
    · rcases ih (fun p hmem => hp p (List.mem_cons_of_mem piece hmem)) h with h | ⟨p, hmem, hpre⟩
      · exact absurd (h.subset List.mem_cons_self) (hp piece List.mem_cons_self)
      · exact .inr ⟨p, List.mem_cons_of_mem piece hmem, hpre⟩

/-- Nothing is found among the pieces of a text where the word that it begins with stands neither at
the start nor behind a separator. -/
theorem filterMap_splitOn_eq_nil {f : List Char → Option α}
    (hf : ∀ piece a, f piece = some a → w <+: piece) (hstart : ¬w <+: s)
    (hinner : ¬sep :: w <:+: s) : (s.splitOn sep).filterMap f = [] := by
  rw [List.filterMap_eq_nil_iff]
  intro piece hmem
  cases hpiece : f piece with
  | none => rfl
  | some a =>
    have hw := hf piece a hpiece
    rcases mem_splitOn hmem with h | h
    · exact absurd (hw.trans h) hstart
    · have hcons : sep :: w <+: sep :: piece := List.cons_prefix_cons.2 ⟨rfl, hw⟩
      exact absurd (hcons.isInfix.trans h) hinner

end SupplicantWatch.Text
