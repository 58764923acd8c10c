import Mathlib.Data.List.DropRight
import Mathlib.Data.List.TakeWhile
import Mathlib.Tactic.Common
import SupplicantWatch.Proofs.Text.Split

/-!
# Blanks, and where the words of a text stand

A word is a run without blanks that reaches from a blank, or the start of the text, to a blank, or
its end. The words do not know of quotes: where a text stands between quotes, what it has between
two blanks are words of the line too. Main statements: `mem_words_iff` and `mem_words_quoted_iff`.
-/

namespace SupplicantWatch.Text

/-- What is said of the characters of a text is decided by looking at these, and not at all the
characters that there are. -/
instance decidableForallMem {p : Char → Prop} [DecidablePred p] (s : List Char) :
    Decidable (∀ c ∈ s, p c) :=
  List.decidableBAll p s

instance decidableForallMemOption {p : Char → Prop} [DecidablePred p] (o : Option Char) :
    Decidable (∀ c ∈ o, p c) :=
  Option.decidableForallMem o

variable {p : Char → Bool} {c : Char} {s t w : List Char}

/-! ### Blanks at the ends -/

lemma trimStart_trimStart (s : List Char) : trimStart (trimStart s) = trimStart s :=
  List.dropWhile_idempotent _ _

/-- What is blank at the start of a text may be taken off before more is put behind the text. -/
lemma trimStart_trimStart_append (s t : List Char) :
    trimStart (trimStart s ++ t) = trimStart (s ++ t) := by
  rw [trimStart, trimStart, trimStart, List.dropWhile_append, List.dropWhile_append,
    List.dropWhile_idempotent]

lemma trimStart_eq_self (h : ∀ c ∈ s.head?, isBlank c = false) : trimStart s = s := by
  cases s with
  | nil => rfl
  | cons c s => exact List.dropWhile_cons_of_neg (by simp [h c rfl])

lemma isBlank_of_trimStart_eq_cons (h : trimStart s = c :: t) : isBlank c = false := by
  rw [trimStart] at h
  have hc := List.head_dropWhile_not isBlank (by rw [h]; exact List.cons_ne_nil c t)
  simpa only [h, List.head_cons] using hc

lemma dropWhile_append_cons (hc : p c = false) (s t : List Char) :
    (s ++ c :: t).dropWhile p = s.dropWhile p ++ c :: t := by
  have hcons : (c :: t).dropWhile p = c :: t := List.dropWhile_cons_of_neg (by simp [hc])
  rw [List.dropWhile_append, hcons]
  split_ifs with h
  · rw [List.isEmpty_iff.1 h, List.nil_append]
  · rfl

lemma takeWhile_append_cons (hc : p c = false) (s t : List Char) :
    (s ++ c :: t).takeWhile p = s.takeWhile p := by
  have hcons : (c :: t).takeWhile p = [] := List.takeWhile_cons_of_neg (by simp [hc])
  rw [List.takeWhile_append, hcons, List.append_nil]
  split_ifs with h
  · exact ((List.takeWhile_prefix p).eq_of_length h).symm
  · rfl

/-- What is blank behind a text is taken off. -/
lemma trimEnd_append (ht : ∀ c ∈ t, isBlank c = true) (s : List Char) :
    trimEnd (s ++ t) = trimEnd s := by
  have hblank : ∀ c ∈ t.reverse, isBlank c = true := fun c hc => ht c (List.mem_reverse.1 hc)
  rw [trimEnd, List.reverse_append, List.dropWhile_append_of_pos hblank, trimEnd]

lemma trimEnd_eq_self (h : ∀ c ∈ s.getLast?, isBlank c = false) : trimEnd s = s := by
  refine List.rdropWhile_eq_self_iff.2 fun hne => ?_
  rw [h _ (List.getLast?_eq_some_getLast hne)]
  exact Bool.false_ne_true

/-! ### Words -/

lemma exists_eq_append_cons_of_ne (hs : ¬∀ c ∈ s, p c = false) :
    ∃ front c rest, s = front ++ c :: rest ∧ p c = true ∧ ∀ d ∈ front, p d = false := by
  induction s with
  | nil => exact absurd (List.forall_mem_nil _) hs
  | cons c s ih =>
    by_cases hc : p c = true
    · exact ⟨[], c, s, rfl, hc, List.forall_mem_nil _⟩
    · rw [Bool.not_eq_true] at hc
      rw [List.forall_mem_cons, not_and] at hs
      obtain ⟨front, d, rest, rfl, hd, hfront⟩ := ih (hs hc)
      exact ⟨c :: front, d, rest, rfl, hd, List.forall_mem_cons.2 ⟨hc, hfront⟩⟩

/-- The pieces of a text are its parts without a separator that have one, or an end of the text, on
either side. -/
theorem mem_splitOnP_iff :
    w ∈ s.splitOnP p ↔ (∀ c ∈ w, p c = false) ∧ ∃ front behind, s = front ++ (w ++ behind) ∧
      (∀ c ∈ front.getLast?, p c = true) ∧ ∀ c ∈ behind.head?, p c = true := by
  constructor
  · -- By induction on the length of the text, taking off what it has up to the first separator.
    induction hn : s.length using Nat.strongRecOn generalizing s with
    | ind n ih =>
      intro hmem
      by_cases hs : ∀ c ∈ s, p c = false
      · rw [List.splitOnP_eq_singleton hs, List.mem_singleton] at hmem
        subst hmem
        exact ⟨hs, [], [], by simp, by simp, by simp⟩
      · obtain ⟨piece, c, rest, rfl, hc, hpiece⟩ := exists_eq_append_cons_of_ne hs
        rw [List.splitOnP_append_cons _ _ hc, List.splitOnP_eq_singleton hpiece,
          List.singleton_append, List.mem_cons] at hmem
        rcases hmem with rfl | hmem
        · exact ⟨hpiece, [], c :: rest, rfl, by simp, by simpa using hc⟩
        · have hlt : rest.length < n := by
            rw [← hn, List.length_append, List.length_cons]
            omega
          obtain ⟨hw, front, behind, rfl, hfront, hbehind⟩ := ih _ hlt rfl hmem
          refine ⟨hw, piece ++ c :: front, behind, by simp, ?_, hbehind⟩
          cases front with
          | nil => simpa using hc
          | cons d front => simpa [List.getLast?_append, List.getLast?_cons_cons] using hfront
  · rintro ⟨hw, front, behind, rfl, hfront, hbehind⟩
    have hmem : w ∈ List.splitOnP p (w ++ behind) := by
      cases behind with
      | nil => simp [List.splitOnP_eq_singleton hw]
      | cons c behind =>
        rw [List.splitOnP_append_cons _ _ (hbehind c rfl), List.splitOnP_eq_singleton hw]
        simp
    rcases List.eq_nil_or_concat front with rfl | ⟨front, c, rfl⟩
    · exact hmem
    · have hc : p c = true := hfront c (by simp)
      rw [List.concat_eq_append, List.append_assoc, List.singleton_append,
        List.splitOnP_append_cons _ _ hc]
      exact List.mem_append_right _ hmem

/-- The words of a text are its non-empty parts without a blank that have one, or an end of the
text, on either side. -/
theorem mem_words_iff :
    w ∈ words s ↔ w ≠ [] ∧ (∀ c ∈ w, isBlank c = false) ∧ ∃ front behind,
      s = front ++ (w ++ behind) ∧ (∀ c ∈ front.getLast?, isBlank c = true) ∧
      ∀ c ∈ behind.head?, isBlank c = true := by
  rw [words, List.mem_filter, mem_splitOnP_iff, and_comm, Bool.not_eq_true',
    List.isEmpty_eq_false_iff]

lemma words_append_cons (hc : isBlank c = true) (s t : List Char) :
    words (s ++ c :: t) = words s ++ words t := by
  rw [words, List.splitOnP_append_cons _ _ hc, List.filter_append, words, words]

/-- The words of texts with spaces between them are those of each. -/
lemma words_intercalate (pieces : List (List Char)) :
    words ([' '].intercalate pieces) = pieces.flatMap words := by
  induction pieces with
  | nil => rfl
  | cons piece pieces ih =>
    cases pieces with
    | nil => rw [List.intercalate_singleton, List.flatMap_cons, List.flatMap_nil, List.append_nil]
    | cons next pieces =>
      rw [List.intercalate_cons_cons, ← List.append_cons, words_append_cons (by decide), ih]
      rfl

lemma words_eq_singleton (hne : s ≠ []) (hs : ∀ c ∈ s, isBlank c = false) : words s = [s] := by
  rw [words, List.splitOnP_eq_singleton hs, List.filter_singleton, List.isEmpty_eq_false_iff.2 hne]
  rfl

/-- The word stands in the text with a blank on either side. -/
def IsInnerWord (w s : List Char) : Prop :=
  ∃ front c d behind, s = front ++ c :: (w ++ d :: behind) ∧ isBlank c = true ∧ isBlank d = true

/-- A word without the quote is a word of a quoted text, with a mark in front of the quote, exactly
if it stands between blanks of what is quoted. -/
theorem mem_words_quoted_iff {mark : List Char} {quote : Char} (hne : w ≠ [])
    (hw : ∀ c ∈ w, isBlank c = false ∧ c ≠ quote) (hmark : ∀ c ∈ mark, isBlank c = false)
    (hquote : isBlank quote = false) :
    w ∈ words (mark ++ quote :: (s ++ [quote])) ↔ IsInnerWord w s := by
  have hnot : quote ∉ w := fun hmem => (hw quote hmem).2 rfl
  have hopening {c : Char} (hc : isBlank c = true) : c ∉ mark ++ [quote] := by
    intro hmem
    rcases List.mem_append.1 hmem with hmem | hmem
    · rw [hmark c hmem] at hc
      cases hc
    · rw [List.mem_singleton.1 hmem, hquote] at hc
      cases hc
  rw [mem_words_iff]
  constructor
  · rintro ⟨-, -, front, behind, htext, hfront, hbehind⟩
    have hends : (mark ++ quote :: s) ++ [quote] = front ++ (w ++ behind) := by
      rw [← htext, List.append_assoc, List.cons_append]
    -- The closing quote is behind the word, and behind a blank.
    rcases List.eq_nil_or_concat behind with rfl | ⟨behind, d, rfl⟩
    · obtain ⟨w, c, rfl⟩ := List.eq_nil_or_concat w |>.resolve_left hne
      rw [List.append_nil, List.concat_eq_append, ← List.append_assoc] at hends
      obtain ⟨-, hc⟩ := List.append_inj' hends rfl
      exact absurd (by rw [(List.cons.inj hc).1]; simp) hnot
    rw [List.concat_eq_append, ← List.append_assoc, ← List.append_assoc] at hends
    obtain ⟨hinner, hd⟩ := List.append_inj' hends rfl
    obtain rfl : quote = d := (List.cons.inj hd).1
    cases behind with
    | nil =>
      rw [hbehind quote rfl] at hquote
      cases hquote
    | cons d behind =>
      have hd : isBlank d = true := hbehind d rfl
      have hsplit : (mark ++ [quote]) ++ s = front ++ (w ++ d :: behind) := by
        rw [← List.append_assoc front, ← hinner, List.append_assoc, List.singleton_append]
      -- The opening quote is in front of the word, and in front of a blank.
      rcases List.eq_nil_or_concat front with rfl | ⟨front, c, rfl⟩
      · obtain ⟨tail, rfl, -⟩ := exists_of_append_eq_append_cons (hopening hd) hsplit
        exact absurd (by simp) hnot
      · have hc : isBlank c = true := hfront c (by simp)
        rw [List.concat_eq_append, List.append_assoc front, List.singleton_append] at hsplit
        obtain ⟨tail, -, rfl⟩ := exists_of_append_eq_append_cons (hopening hc) hsplit
        exact ⟨tail, c, d, behind, rfl, hc, hd⟩
  · rintro ⟨front, c, d, behind, rfl, hc, hd⟩
    refine ⟨hne, fun e he => (hw e he).1, mark ++ quote :: (front ++ [c]), d :: (behind ++ [quote]),
      by simp, ?_, by simpa using hd⟩
    simp [List.getLast?_append, List.getLast?_cons, hc]

end SupplicantWatch.Text
