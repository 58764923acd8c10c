import SupplicantWatch.Text.Blank

/-!
# Scanning text

Text is scanned as a list of characters. A scanner takes what it recognises off the front and
returns it with the rest; `search` runs one at every position, first or last hit, and the
functions around it cut and search by a character or by a word. Main statement: `eq_of_cut?`, the
parts that `cut?` returns rebuild the text.
-/

namespace SupplicantWatch.Text

/-- The maximal runs of characters that are not white space. -/
def words (s : List Char) : List (List Char) :=
  (s.splitOnP isBlank).filter (!·.isEmpty)

/-- The text before and the text after the first occurrence of a character. -/
def cut? (sep : Char) (s : List Char) : Option (List Char × List Char) :=
  match s.dropWhile (· != sep) with
  | [] => none
  | _ :: rest => some (s.takeWhile (· != sep), rest)

/-- The text before the first occurrence of a character, all of it if there is none. -/
def before (sep : Char) (s : List Char) : List Char :=
  s.takeWhile (· != sep)

/-- The text before and the text after the first occurrence of the word `w`. -/
def find? (w : List Char) : List Char → Option (List Char × List Char)
  | [] => if w = [] then some ([], []) else none
  | c :: s =>
    match w.isPrefixOf? (c :: s) with
    | some rest => some ([], rest)
    | none => (find? w s).map fun (front, rest) => (c :: front, rest)

def occurs (w s : List Char) : Bool :=
  (find? w s).isSome

/-- The answer of a scanner at the first position at which it has one. -/
def search {α : Type} (scan : List Char → Option α) : List Char → Option α
  | [] => scan []
  | c :: s => (scan (c :: s)).or (search scan s)

/-- The answer of a scanner at the last position at which it has one. -/
def searchLast {α : Type} (scan : List Char → Option α) : List Char → Option α
  | [] => scan []
  | c :: s => (searchLast scan s).or (scan (c :: s))

/-- The longest front on which `p` holds, which must not be empty, and the rest. -/
def some? (p : Char → Bool) (s : List Char) : Option (List Char × List Char) :=
  match s.takeWhile p with
  | [] => none
  | front => some (front, s.dropWhile p)

/-- Takes one line end off the text that stood before a line feed. -/
def dropReturn (s : List Char) : List Char :=
  match s.reverse with
  | '\r' :: rest => rest.reverse
  | _ => s

/-- The lines of a text: a line feed ends a line, one carriage return before it goes with it, and
text after the last line feed is a line unless it is empty. -/
def lines (s : List Char) : List (List Char) :=
  let pieces := s.splitOn '\n'
  let last := pieces.getLast?.getD []
  pieces.dropLast.map dropReturn ++ if last.isEmpty then [] else [last]

/-- A non-empty front takes at least one character off the text. -/
theorem length_some?_lt {p : Char → Bool} {s front rest : List Char}
    (h : some? p s = some (front, rest)) : rest.length < s.length := by
  unfold some? at h
  split at h
  · simp at h
  · next hne =>
    obtain ⟨rfl, rfl⟩ : s.takeWhile p = front ∧ s.dropWhile p = rest := by simpa using h
    have hl := congrArg List.length (List.takeWhile_append_dropWhile (p := p) (l := s))
    have hpos : 0 < (s.takeWhile p).length := List.length_pos_iff.2 hne
    rw [List.length_append] at hl
    omega

/-- The parts that `cut?` returns, with the character between them, are the text, and the
character does not occur in the first of them. -/
theorem eq_of_cut? {sep : Char} {s front rest : List Char} (h : cut? sep s = some (front, rest)) :
    s = front ++ sep :: rest ∧ sep ∉ front := by
  unfold cut? at h
  split at h
  · simp at h
  · next c tail hd =>
    obtain ⟨rfl, rfl⟩ : s.takeWhile (· != sep) = front ∧ tail = rest := by simpa using h
    have hc : c = sep := by
      have hp := List.head_dropWhile_not (fun x => x != sep) (by rw [hd]; simp)
      simpa [hd] using hp
    refine ⟨?_, fun hm => ?_⟩
    · subst hc
      rw [← hd]
      exact List.takeWhile_append_dropWhile.symm
    · have hp := List.all_eq_true.1 (List.all_takeWhile (p := fun x => x != sep) (l := s)) _ hm
      simp at hp

end SupplicantWatch.Text
