/-!
# Blank characters

The characters with the Unicode property `White_Space`, and the trimming and splitting of text
that goes by it.
-/

namespace SupplicantWatch.Text

/-- The characters with the Unicode property `White_Space`, as inclusive ranges of code points. -/
def blankRanges : List (Nat × Nat) :=
  [(0x9, 0xd), (0x20, 0x20), (0x85, 0x85), (0xa0, 0xa0), (0x1680, 0x1680), (0x2000, 0x200a),
   (0x2028, 0x2029), (0x202f, 0x202f), (0x205f, 0x205f), (0x3000, 0x3000)]

/-- Whether one of the inclusive ranges, which stand in increasing order, holds the code point of
the character. -/
def inRanges : List (Nat × Nat) → Char → Bool
  | [], _ => false
  | (lo, hi) :: ranges, c => lo ≤ c.toNat && (c.toNat ≤ hi || inRanges ranges c)

/-- Whether the character is white space in the sense of Unicode. -/
def isBlank (c : Char) : Bool :=
  inRanges blankRanges c

def trimStart (s : List Char) : List Char :=
  s.dropWhile isBlank

def trimEnd (s : List Char) : List Char :=
  (s.reverse.dropWhile isBlank).reverse

def trim (s : List Char) : List Char :=
  trimEnd (trimStart s)

theorem isBlank_of_isWhitespace {c : Char} (h : c.isWhitespace = true) : isBlank c = true := by
  simp only [Char.isWhitespace, Bool.or_eq_true, decide_eq_true_eq] at h
  rcases h with ((rfl | rfl) | rfl) | rfl <;> decide

theorem length_trimStart_le (s : List Char) : (trimStart s).length ≤ s.length :=
  (List.dropWhile_suffix _).length_le

end SupplicantWatch.Text
