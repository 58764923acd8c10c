import SupplicantWatch.Text.Scan
import SupplicantWatch.Text.Numeral

/-!
# Fields of an event line

The items of a line are separated by spaces. A word with an equals sign is a field, the others are
passed over. The value of a field runs to the next space, unless it starts with a quote that occurs
again: then it is what stands between the two. Of several fields with one key the last counts.
-/

namespace SupplicantWatch

/-- The fields of a line, in the order of the line. -/
structure Fields where
  items : List (List Char × List Char)
deriving DecidableEq, Repr

namespace Fields

/-- The text between the quote at the start of a text and its next occurrence, and what follows. -/
def quotedValue? : List Char → Option (List Char × List Char)
  | [] => none
  | quote :: s => if quote = '\x27' ∨ quote = '\x22' then Text.cut? quote s else none

/-- The value at the start of a text, and what follows it. -/
def value (s : List Char) : List Char × List Char :=
  -- A quote that is never closed is a character like any other.
  (quotedValue? s).getD (Text.before ' ' s, s.dropWhile (· != ' '))

/-- Whether the character goes on the key of a field. -/
def isKeyChar (c : Char) : Bool :=
  c != '=' && c != ' '

/-- The item at the start of a text, if it is a field, and the text from the next item on. -/
def item (s : List Char) : Option (List Char × List Char) × List Char :=
  match s.dropWhile isKeyChar with
  | '=' :: rest =>
    let (value, rest) := value rest
    (some (s.takeWhile isKeyChar, value), Text.trimStart rest)
  -- The word has ended before an equals sign.
  | rest => (none, Text.trimStart rest)

theorem length_value_le (s : List Char) : (value s).2.length ≤ s.length := by
  unfold value quotedValue?
  cases s with
  | nil => simp [Text.before]
  | cons quote s =>
    simp only
    split
    · cases h : Text.cut? quote s with
      | none => exact (List.dropWhile_suffix _).length_le
      | some p =>
        obtain ⟨rfl, _⟩ : s = p.1 ++ quote :: p.2 ∧ quote ∉ p.1 := Text.eq_of_cut? h
        simp
        omega
    · exact (List.dropWhile_suffix _).length_le

theorem length_item_le (c : Char) (s : List Char) : (item (c :: s)).2.length ≤ s.length := by
  have hd : ((c :: s).dropWhile isKeyChar).length ≤ s.length + 1 :=
    (List.dropWhile_suffix _).length_le
  unfold item
  split
  · next rest h =>
    rw [h, List.length_cons] at hd
    have hv := length_value_le rest
    have ht := Text.length_trimStart_le (value rest).2
    simp only
    omega
  · next h =>
    simp only
    by_cases hc : isKeyChar c = true
    · rw [List.dropWhile_cons_of_pos hc]
      exact Nat.le_trans (Text.length_trimStart_le _) (List.dropWhile_suffix _).length_le
    · rw [List.dropWhile_cons_of_neg hc] at h ⊢
      have hs : c = ' ' := by
        have he : c ≠ '=' := fun he => h s (by rw [he])
        simpa [isKeyChar, he] using hc
      have hb : Text.isBlank c = true := by subst hs; decide
      rw [Text.trimStart, List.dropWhile_cons_of_pos hb]
      exact (List.dropWhile_suffix _).length_le

/-- The fields of a text that starts with an item. -/
def itemsOf : List Char → List (List Char × List Char)
  | [] => []
  | c :: s => (item (c :: s)).1.toList ++ itemsOf (item (c :: s)).2
termination_by s => s.length
decreasing_by exact Nat.lt_succ_of_le (length_item_le c s)

def ofLine (line : List Char) : Fields :=
  ⟨itemsOf (Text.trimStart line)⟩

/-- The value of the last field with the key. -/
def get? (fields : Fields) (key : String) : Option String :=
  (fields.items.reverse.find? fun item => item.1 = key.toList).map fun item => String.ofList item.2

/-- Takes the hexadecimal mark `0x` off the front of a text as often as it stands there. -/
def dropHexMarks : List Char → List Char
  | '0' :: 'x' :: s => dropHexMarks s
  | s => s

/-- The value of a field as a 32-bit word in base sixteen, zero if there is none. -/
def hexWord (fields : Fields) (key : String) : Nat :=
  ((fields.get? key).bind fun value => Text.word? 16 32 (dropHexMarks value.toList)).getD 0

end Fields

end SupplicantWatch
