import Mathlib.Tactic.Common
import SupplicantWatch.Proofs.Text.Decimal
import SupplicantWatch.Proofs.Text.Encoding
import SupplicantWatch.Proofs.Text.Words
import SupplicantWatch.Text.Digit

/-!
# White space behind a text

What is found in a text is found in it with white space behind it, and nothing else is, as long as
what is looked for does not end in white space itself. Main statements: `isPrefixOf?_append_blanks`,
`find?_append_blanks`, `search_append_blanks` and `words_append_blanks`.
-/

namespace SupplicantWatch.Text

variable {α : Type} {p : Char → Bool} {scan : List Char → Option α} {w s t b front rest : List Char}

/-- All of a text is white space. -/
def IsBlank (b : List Char) : Prop :=
  ∀ c ∈ b, isBlank c = true

instance (b : List Char) : Decidable (IsBlank b) :=
  decidableForallMem b

/-- A text ends in a character that is no white space. -/
def IsSolid (w : List Char) : Prop :=
  ∃ c ∈ w.getLast?, isBlank c = false

instance (w : List Char) : Decidable (IsSolid w) :=
  match h : w.getLast? with
  | none => isFalse fun ⟨_, hc, _⟩ => by simp [h] at hc
  | some c => decidable_of_iff (isBlank c = false) (by simp [IsSolid, h])

lemma isSolid_iff : IsSolid w ↔ ∃ front c, w = front ++ [c] ∧ isBlank c = false := by
  simp only [IsSolid, Option.mem_def, List.getLast?_eq_some_iff]
  constructor
  · rintro ⟨c, ⟨front, rfl⟩, hc⟩
    exact ⟨front, c, rfl, hc⟩
  · rintro ⟨front, c, rfl, hc⟩
    exact ⟨c, ⟨front, rfl⟩, hc⟩

lemma IsSolid.ne_nil (h : IsSolid w) : w ≠ [] := by
  rintro rfl
  obtain ⟨c, hc, -⟩ := h
  cases hc

lemma IsSolid.append_left (h : IsSolid w) (front : List Char) : IsSolid (front ++ w) := by
  obtain ⟨front', c, rfl, hc⟩ := isSolid_iff.1 h
  exact isSolid_iff.2 ⟨front ++ front', c, by rw [List.append_assoc], hc⟩

lemma IsSolid.of_append (h : IsSolid (front ++ w)) (hne : w ≠ []) : IsSolid w := by
  rwa [IsSolid, List.getLast?_append_of_ne_nil _ hne] at h

lemma isSolid_append_singleton_iff {c : Char} : IsSolid (s ++ [c]) ↔ isBlank c = false := by
  simp [IsSolid]

/-- White space behind a text that goes on the last word of the text: it does not begin with a
space. -/
def Sticks (b : List Char) : Prop :=
  before ' ' b ≠ []

instance (b : List Char) : Decidable (Sticks b) :=
  inferInstanceAs (Decidable (_ ≠ _))

lemma not_sticks_iff : ¬Sticks b ↔ b = [] ∨ ∃ b', b = ' ' :: b' := by
  rw [Sticks, ne_eq, not_not, before]
  cases b with
  | nil => simp
  | cons c b => simp [List.takeWhile_cons]

lemma exists_of_not_sticks (h : ¬Sticks b) (hne : b ≠ []) : ∃ b', b = ' ' :: b' :=
  (not_sticks_iff.1 h).resolve_left hne

lemma before_append_of_not_sticks (h : ' ' ∈ s ∨ ¬Sticks b) :
    before ' ' (s ++ b) = before ' ' s := by
  by_cases hmem : ' ' ∈ s
  · exact before_append_of_mem hmem b
  · have hb := h.resolve_left hmem
    rw [Sticks, ne_eq, not_not] at hb
    rw [before_append_of_notMem hmem, hb, List.append_nil, before_of_notMem hmem]

lemma Sticks.exists_mem_before (h : Sticks b) (hb : IsBlank b) :
    ∃ c ∈ before ' ' b, isBlank c = true := by
  obtain ⟨c, rest, hcons⟩ := List.exists_cons_of_ne_nil h
  have hmem : c ∈ before ' ' b := hcons ▸ List.mem_cons_self
  exact ⟨c, hmem, hb c ((List.takeWhile_prefix _).subset hmem)⟩

/-- Every text is one that does not end in white space, with white space behind it. -/
lemma exists_eq_append_blanks (s : List Char) :
    ∃ t b, s = t ++ b ∧ (t = [] ∨ IsSolid t) ∧ IsBlank b := by
  induction s using List.reverseRecOn with
  | nil => exact ⟨[], [], rfl, .inl rfl, List.forall_mem_nil _⟩
  | append_singleton s c ih =>
    cases hc : isBlank c with
    | true =>
      obtain ⟨t, b, rfl, ht, hb⟩ := ih
      exact ⟨t, b ++ [c], List.append_assoc t b [c], ht,
        List.forall_mem_append.2 ⟨hb, List.forall_mem_singleton.2 hc⟩⟩
    | false =>
      exact ⟨s ++ [c], [], (List.append_nil _).symm, .inr (isSolid_iff.2 ⟨s, c, rfl, hc⟩),
        List.forall_mem_nil _⟩

lemma trimEnd_append_blanks (hs : s = [] ∨ IsSolid s) (hb : IsBlank b) : trimEnd (s ++ b) = s := by
  rw [trimEnd_append hb]
  rcases hs with rfl | hs
  · rfl
  · obtain ⟨front, c, rfl, hc⟩ := isSolid_iff.1 hs
    exact trimEnd_eq_self (by simpa using hc)

lemma IsBlank.of_append (h : IsBlank (s ++ t)) : IsBlank s ∧ IsBlank t :=
  List.forall_mem_append.1 h

lemma IsBlank.notMem (h : IsBlank b) {c : Char} (hc : isBlank c = false) : c ∉ b := by
  intro hmem
  rw [h c hmem] at hc
  cases hc

/-- What ends in no white space ends in front of the white space behind a text. -/
lemma IsSolid.exists_of_append_eq (hw : IsSolid w) (hb : IsBlank b)
    (h : s ++ b = front ++ (w ++ rest)) :
    ∃ rest', rest = rest' ++ b ∧ s = front ++ (w ++ rest') := by
  obtain ⟨w, c, rfl, hc⟩ := isSolid_iff.1 hw
  have hsplit : s ++ b = front ++ w ++ c :: rest := by
    rw [h]
    simp
  have hnot := hb.notMem hc
  -- The last character is none of the white space, so it is one of the text.
  rcases List.append_eq_append_iff.1 hsplit with ⟨tail, -, rfl⟩ | ⟨tail, rfl, htail⟩
  · exact absurd (by simp) hnot
  · cases tail with
    | nil => exact absurd (by rw [← List.nil_append b, ← htail]; simp) hnot
    | cons d tail =>
      obtain ⟨rfl, rfl⟩ := List.cons.inj htail
      exact ⟨tail, rfl, by simp⟩

lemma IsSolid.infix_append_iff (hw : IsSolid w) (hb : IsBlank b) : w <:+: s ++ b ↔ w <:+: s := by
  constructor
  · rintro ⟨front, rest, h⟩
    rw [List.append_assoc] at h
    obtain ⟨rest', -, rfl⟩ := hw.exists_of_append_eq hb h.symm
    exact ⟨front, rest', List.append_assoc _ _ _⟩
  · intro h
    exact h.trans (List.prefix_append s b).isInfix

lemma not_isSolid_append_blanks (hb : IsBlank b) (hne : b ≠ []) : ¬IsSolid (s ++ b) := by
  obtain ⟨front, c, rfl⟩ := (List.eq_nil_or_concat' b).resolve_left hne
  rw [← List.append_assoc, isSolid_append_singleton_iff, hb c (by simp)]
  exact nofun

lemma IsSolid.not_infix_of_isBlank (hw : IsSolid w) (hb : IsBlank b) : ¬w <:+: b := by
  have hpart := hw.infix_append_iff (s := []) hb
  rw [List.nil_append, List.infix_nil] at hpart
  exact fun h => hw.ne_nil (hpart.1 h)

lemma IsSolid.isPrefix_append_iff (hw : IsSolid w) (hb : IsBlank b) :
    w <+: s ++ b ↔ w <+: s := by
  constructor
  · rintro ⟨rest, h⟩
    have hsplit : s ++ b = [] ++ (w ++ rest) := h.symm
    obtain ⟨rest', -, rfl⟩ := hw.exists_of_append_eq hb hsplit
    exact ⟨rest', rfl⟩
  · intro h
    exact h.trans (List.prefix_append s b)

lemma trimEnd_prefix (s : List Char) : trimEnd s <+: s := by
  obtain ⟨t, b, rfl, ht, hb⟩ := exists_eq_append_blanks s
  rw [trimEnd_append_blanks ht hb]
  exact List.prefix_append t b

lemma IsSolid.prefix_trimEnd_iff (hw : IsSolid w) : w <+: trimEnd s ↔ w <+: s := by
  obtain ⟨t, b, rfl, ht, hb⟩ := exists_eq_append_blanks s
  rw [trimEnd_append_blanks ht hb, hw.isPrefix_append_iff hb]

/-! ### Scanners -/

lemma isPrefixOf?_append_blanks (hw : IsSolid w) (hb : IsBlank b) (s : List Char) :
    w.isPrefixOf? (s ++ b) = (w.isPrefixOf? s).map (· ++ b) := by
  cases h : w.isPrefixOf? s with
  | some rest =>
    rw [← List.append_eq_of_isPrefixOf?_eq_some h, List.append_assoc, isPrefixOf?_append]
    rfl
  | none =>
    rw [isPrefixOf?_eq_none_iff] at h
    rw [Option.map_none, isPrefixOf?_eq_none_iff, hw.isPrefix_append_iff hb]
    exact h

lemma find?_append_blanks (hw : IsSolid w) (hb : IsBlank b) (s : List Char) :
    find? w (s ++ b) = (find? w s).map fun parts => (parts.1, parts.2 ++ b) := by
  cases h : find? w s with
  | none =>
    have hnot : ¬w <:+: s := by
      rw [← occurs_iff, occurs, h]
      exact Bool.false_ne_true
    have hnone : ¬occurs w (s ++ b) = true := by rwa [occurs_iff, hw.infix_append_iff hb]
    simpa [occurs] using hnone
  | some parts =>
    obtain ⟨hs, hfirst⟩ := find?_eq_some_iff.1 h
    refine find?_eq_some_iff.2 ⟨by rw [hs]; simp, ?_⟩
    intro front' rest' heq
    rw [List.append_assoc] at heq
    obtain ⟨rest'', -, hs'⟩ := hw.exists_of_append_eq hb heq
    exact hfirst front' rest'' (by rw [hs', List.append_assoc])

lemma takeWhile_append_blanks (hp : ∀ c, isBlank c = true → p c = false) (hb : IsBlank b)
    (s : List Char) : (s ++ b).takeWhile p = s.takeWhile p := by
  cases b with
  | nil => rw [List.append_nil]
  | cons c b => exact takeWhile_append_cons (hp c (hb c List.mem_cons_self)) s b

lemma dropWhile_append_blanks (hp : ∀ c, isBlank c = true → p c = false) (hb : IsBlank b)
    (s : List Char) : (s ++ b).dropWhile p = s.dropWhile p ++ b := by
  cases b with
  | nil => rw [List.append_nil, List.append_nil]
  | cons c b => exact dropWhile_append_cons (hp c (hb c List.mem_cons_self)) s b

lemma some?_append_blanks (hp : ∀ c, isBlank c = true → p c = false) (hb : IsBlank b)
    (s : List Char) : some? p (s ++ b) = (some? p s).map fun parts => (parts.1, parts.2 ++ b) := by
  rw [some?, some?, takeWhile_append_blanks hp hb, dropWhile_append_blanks hp hb]
  cases s.takeWhile p <;> rfl

/-- A word behind some spaces. -/
lemma some?_space_isPrefixOf?_append_blanks (hw : IsSolid w) (hb : IsBlank b) (s : List Char) :
    ((some? (· == ' ') (s ++ b)).bind fun parts => List.isPrefixOf? w parts.2)
      = ((some? (· == ' ') s).bind fun parts => List.isPrefixOf? w parts.2).map (· ++ b) := by
  have hnone {r : List Char} (hr : IsBlank r) : List.isPrefixOf? w r = none := by
    have hempty : List.isPrefixOf? w [] = none :=
      isPrefixOf?_eq_none_iff.2 fun h => hw.ne_nil (List.prefix_nil.1 h)
    have happend := isPrefixOf?_append_blanks hw hr []
    rwa [hempty] at happend
  -- Where there are only spaces the word does not follow, however many more of them there are.
  by_cases hspaces : ∀ c ∈ s, (c == ' ') = true
  · have hblank : IsBlank (s ++ b) := by
      refine List.forall_mem_append.2 ⟨fun c hc => ?_, hb⟩
      rw [beq_iff_eq.1 (hspaces c hc)]
      decide
    have hscan {r : List Char} (hr : IsBlank r) :
        ((some? (· == ' ') r).bind fun parts => List.isPrefixOf? w parts.2) = none := by
      rw [Option.bind_eq_none_iff]
      intro parts hparts
      obtain ⟨rfl, -⟩ := some?_eq_some_iff.1 hparts
      exact hnone hr.of_append.2
    rw [hscan hblank, hscan hblank.of_append.1]
    rfl
  · have hne : s.dropWhile (· == ' ') ≠ [] := by rwa [ne_eq, List.dropWhile_eq_nil_iff]
    have hdrop : (s ++ b).dropWhile (· == ' ') = s.dropWhile (· == ' ') ++ b := by
      rw [List.dropWhile_append, if_neg (by simpa using hne)]
    have htake : (s ++ b).takeWhile (· == ' ') = s.takeWhile (· == ' ') := by
      rw [List.takeWhile_append, if_neg]
      intro hlength
      have hempty : s.dropWhile (· == ' ') = [] := by
        have hsum := congrArg List.length
          (List.takeWhile_append_dropWhile (p := (· == ' ')) (l := s))
        rw [List.length_append, hlength] at hsum
        exact List.length_eq_zero_iff.1 (by omega)
      exact hne hempty
    rw [some?, some?, htake, hdrop]
    cases s.takeWhile (· == ' ') with
    | nil => rfl
    | cons c front => exact isPrefixOf?_append_blanks hw hb _

/-! ### Searches -/

/-- A scanner that white space behind a text does not change finds the same in the text. -/
lemma search_append_blanks (hscan : ∀ s b, IsBlank b → scan (s ++ b) = scan s) (hb : IsBlank b)
    (s : List Char) : search scan (s ++ b) = search scan s := by
  induction s with
  | nil =>
    rw [List.nil_append]
    induction b with
    | nil => rfl
    | cons c b ih =>
      have hfirst : scan (c :: b) = scan [] := hscan [] (c :: b) hb
      have hcons : search scan (c :: b) = (scan (c :: b)).or (search scan b) := rfl
      rw [hcons, hfirst, ih (List.forall_mem_cons.1 hb).2, search, Option.or_self]
  | cons c s ih => rw [List.cons_append, search, ih, ← List.cons_append, hscan _ _ hb, search]

/-! ### Words and pieces -/

lemma words_of_isBlank (hb : IsBlank b) : words b = [] := by
  induction b with
  | nil => rfl
  | cons c b ih =>
    have hcons := words_append_cons (hb c List.mem_cons_self) [] b
    rw [List.nil_append] at hcons
    rw [hcons, ih (List.forall_mem_cons.1 hb).2]
    rfl

/-- White space behind a text gives it no further words, and takes none away. -/
theorem words_append_blanks (hb : IsBlank b) (s : List Char) : words (s ++ b) = words s := by
  cases b with
  | nil => rw [List.append_nil]
  | cons c b =>
    rw [words_append_cons (hb c List.mem_cons_self),
      words_of_isBlank (List.forall_mem_cons.1 hb).2, List.append_nil]

lemma exists_splitOn_eq_before_cons (sep : Char) (s : List Char) :
    ∃ rest, s.splitOn sep = before sep s :: rest := by
  induction s with
  | nil => exact ⟨[], rfl⟩
  | cons c s ih =>
    obtain ⟨rest, hs⟩ := ih
    by_cases hc : c = sep
    · subst hc
      refine ⟨s.splitOn c, ?_⟩
      rw [← List.nil_append (c :: s), List.splitOn_append_cons_self, before]
      simp
    · refine ⟨rest, ?_⟩
      have hbefore : before sep (c :: s) = c :: before sep s :=
        List.takeWhile_cons_of_pos (bne_iff_ne.2 hc)
      rw [splitOn_cons_of_ne hc hs, hbefore]

/-- The last piece of a text goes on in the first piece of what is put behind it. -/
lemma exists_splitOn_append (sep : Char) (s t : List Char) :
    ∃ init last rest, s.splitOn sep = init ++ [last] ∧ t.splitOn sep = before sep t :: rest
      ∧ List.splitOn sep (s ++ t) = init ++ (last ++ before sep t) :: rest := by
  obtain ⟨rest, ht⟩ := exists_splitOn_eq_before_cons sep t
  induction s with
  | nil => exact ⟨[], [], rest, rfl, ht, ht⟩
  | cons c s ih =>
    obtain ⟨init, last, rest, hs, ht, hst⟩ := ih
    by_cases hc : c = sep
    · subst hc
      refine ⟨[] :: init, last, rest, ?_, ht, ?_⟩
      · rw [← List.nil_append (c :: s), List.splitOn_append_cons_self, hs]
        rfl
      · rw [List.cons_append, ← List.nil_append (c :: (s ++ t)), List.splitOn_append_cons_self, hst]
        rfl
    · -- The character goes on the first piece, which may be the last one too.
      cases init with
      | nil => exact ⟨[], c :: last, rest, splitOn_cons_of_ne hc hs, ht, splitOn_cons_of_ne hc hst⟩
      | cons piece init =>
        exact ⟨(c :: piece) :: init, last, rest, splitOn_cons_of_ne hc hs, ht,
          splitOn_cons_of_ne hc hst⟩

lemma notMem_of_mem_splitOn {piece : List Char} {sep : Char} (h : piece ∈ s.splitOn sep) :
    sep ∉ piece := by
  intro hmem
  have hne := (mem_splitOnP_iff.1 h).1 sep hmem
  rw [beq_self_eq_true] at hne
  cases hne

lemma isBlank_of_mem_splitOn {piece : List Char} (hb : IsBlank b) {sep : Char}
    (h : piece ∈ b.splitOn sep) : IsBlank piece :=
  fun _ hc => hb _ (mem_of_mem_splitOn h hc)

/-- The last piece ends in what the text ends in. -/
lemma isSolid_last_splitOn_iff {init : List (List Char)} {last : List Char}
    (h : s.splitOn ' ' = init ++ [last]) : IsSolid last ↔ IsSolid s := by
  rcases List.eq_nil_or_concat' s with rfl | ⟨front, c, rfl⟩
  · have hpiece : [] ++ [[]] = init ++ [last] := h
    obtain ⟨-, hlast⟩ := List.append_inj' hpiece rfl
    rw [← List.singleton_inj.1 hlast]
  · obtain ⟨init', last', rest, -, hc, hsplit⟩ := exists_splitOn_append ' ' front [c]
    rw [isSolid_append_singleton_iff]
    by_cases hspace : c = ' '
    · subst hspace
      obtain rfl : rest = [[]] := (List.cons.inj hc).2.symm
      rw [hsplit, List.append_cons] at h
      obtain ⟨-, hlast⟩ := List.append_inj' h rfl
      rw [← List.singleton_inj.1 hlast]
      decide
    · have hnot : ' ' ∉ [c] := by simpa using Ne.symm hspace
      have hpiece : before ' ' [c] = [c] := List.takeWhile_cons_of_pos (bne_iff_ne.2 hspace)
      rw [List.splitOn_eq_singleton hnot, hpiece] at hc
      obtain rfl : rest = [] := (List.cons.inj hc).2.symm
      rw [hsplit, hpiece] at h
      obtain ⟨-, hlast⟩ := List.append_inj' h rfl
      rw [← List.singleton_inj.1 hlast, isSolid_append_singleton_iff]

/-! ### Numerals -/

lemma isBlank_of_digit? {base v : Nat} {c : Char} (h : digit? base c = some v) :
    isBlank c = false := by
  have hvalue := (Option.filter_eq_some_iff.1 h).1
  have hall : ∀ n < 128, hexValue? (Char.ofNat n) ≠ none → isBlank (Char.ofNat n) = false := by
    decide +kernel
  exact forall_ascii (p := fun c => hexValue? c ≠ none → isBlank c = false) hall
    (toNat_lt_of_hexValue? hvalue) (by rw [hvalue]; exact Option.some_ne_none v)

lemma isBlank_of_isLowerHex {c : Char} (h : isLowerHex c = true) : isBlank c = false := by
  have hall : ∀ n < 128, isLowerHex (Char.ofNat n) = true → isBlank (Char.ofNat n) = false := by
    decide +kernel
  have hle : c.toNat < 128 := by
    simp only [isLowerHex, Char.isDigit, Bool.or_eq_true, Bool.and_eq_true, decide_eq_true_eq] at h
    rcases h with ⟨-, h⟩ | ⟨-, h⟩
    · exact Nat.lt_of_le_of_lt (show c.toNat ≤ 57 from h) (by omega)
    · exact Nat.lt_of_le_of_lt (show c.toNat ≤ 102 from h) (by omega)
  exact forall_ascii (p := fun c => isLowerHex c = true → isBlank c = false) hall hle h

lemma isBlank_of_isDigit {c : Char} (h : c.isDigit = true) : isBlank c = false :=
  isBlank_of_isLowerHex (by rw [isLowerHex, h, Bool.true_or])

lemma isDecimalDigit_of_isBlank {c : Char} (h : isBlank c = true) : isDecimalDigit c = false := by
  rw [← Bool.not_eq_true]
  simp only [isBlank, isDecimalDigit, zeroDigits, blankRanges, inRanges, List.map_cons,
    List.map_nil, Bool.and_eq_true, Bool.or_eq_true, decide_eq_true_eq, Bool.false_eq_true,
    or_false] at h ⊢
  omega

lemma isDigit_of_isBlank {c : Char} (h : isBlank c = true) : c.isDigit = false := by
  cases hc : c.isDigit with
  | false => rfl
  | true =>
    rw [isBlank_of_isDigit hc] at h
    cases h

/-- A text with white space is no numeral. -/
lemma word?_eq_none_of_isBlank (base bits : Nat) {c : Char} (hc : isBlank c = true) (h : c ∈ s) :
    word? base bits s = none := by
  rw [Option.eq_none_iff_forall_ne_some]
  intro v hv
  rcases (exists_digit?_of_word? hv).2 c h with rfl | ⟨d, hd⟩
  · cases hc
  · rw [isBlank_of_digit? hd] at hc
    cases hc

lemma isSolid_of_word? {base bits n : Nat} (h : word? base bits s = some n) : IsSolid s := by
  rcases List.eq_nil_or_concat' s with rfl | ⟨front, c, rfl⟩
  · cases h
  · rw [isSolid_append_singleton_iff, ← Bool.not_eq_true]
    intro hc
    rw [word?_eq_none_of_isBlank base bits hc (by simp)] at h
    cases h

lemma int?_eq_none_of_isBlank (bits : Nat) {c : Char} (hc : isBlank c = true) (h : c ∈ s) :
    int? bits s = none := by
  rw [Option.eq_none_iff_forall_ne_some]
  intro v hv
  rcases (exists_digit?_of_int? hv).2 c h with rfl | rfl | ⟨d, hd⟩
  · cases hc
  · cases hc
  · rw [isBlank_of_digit? hd] at hc
    cases hc

/-! ### Changes -/

/-- What is changed to a fixed value under a condition is unchanged otherwise, or if it has that
value anyway. -/
lemma eq_iff_of_cases {α : Type} {p : Prop} {x x' y : α} (h : p ∧ x' = y ∨ ¬p ∧ x' = x) :
    x' = x ↔ ¬(p ∧ x ≠ y) := by
  rcases h with ⟨hp, rfl⟩ | ⟨hp, rfl⟩
  · rw [and_iff_right hp, ne_eq, not_not, eq_comm]
  · exact iff_of_true rfl fun h => hp h.1

end SupplicantWatch.Text
