import SupplicantWatch.Setting.Basic
import SupplicantWatch.Text.Scan

/-!
# Paths to settings

The key of a setting may stand for a path: a name, and then names after points and indices in
brackets. A value is put at the end of a path, and what is on the way becomes a table or a list as
the path wants it. Main statement: `get?_put_key`, a value that is put under a key is found there.
-/

namespace SupplicantWatch.Setting

/-- A step of a path: to what is under a key of a table, or at an index of a list, which counts from
the end if it is negative. -/
inductive Step where
  | key (name : String)
  | index (i : Int)
deriving DecidableEq, Repr

/-- Whether a character may stand in the name of a path: an ASCII letter or digit, a line or a
dash. -/
def isNameChar (c : Char) : Bool :=
  c.isAlphanum || c = '_' || c = '-'

/-- Whether the character may stand around the numeral of an index. -/
def isSpacing (c : Char) : Bool :=
  c = ' ' || c = '\t'

/-- The index that a text begins with, up to its closing bracket, and the rest. It is a numeral of a
signed word of 64 bits, with no other sign than a minus. -/
def index? (s : List Char) : Option (Int × List Char) :=
  let s := s.dropWhile isSpacing
  let negative := s.head? == some '-'
  match Text.some? Char.isDigit (if negative then s.drop 1 else s) with
  | none => none
  | some (digits, s) =>
    match Text.int? 64 (if negative then '-' :: digits else digits), s.dropWhile isSpacing with
    | some i, ']' :: rest => some (i, rest)
    | _, _ => none

/-- An index takes at least its bracket off the text. -/
theorem length_index?_le {s rest : List Char} {i : Int} (h : index? s = some (i, rest)) :
    rest.length ≤ s.length := by
  simp only [index?] at h
  have hs : (s.dropWhile isSpacing).length ≤ s.length := (List.dropWhile_suffix _).length_le
  split at h
  · simp at h
  · next digits t ht =>
    have ht := Text.length_some?_lt ht
    have hr : (t.dropWhile isSpacing).length ≤ t.length := (List.dropWhile_suffix _).length_le
    split at h
    · next rest' _ hd =>
      obtain ⟨-, rfl⟩ : _ = i ∧ rest' = rest := by simpa using h
      rw [hd, List.length_cons] at hr
      split at ht
      · simp only [List.length_drop] at ht
        omega
      · omega
    · simp at h

/-- The steps that a whole text writes behind the first name of a path. -/
def steps? (s : List Char) : Option (List Step) :=
  match s with
  | [] => some []
  | c :: s =>
    if c = '.' then
      match _h : Text.some? isNameChar s with
      | some (name, rest) => (steps? rest).map (.key (String.ofList name) :: ·)
      | none => none
    else if c = '[' then
      match _h : index? s with
      | some (i, rest) => (steps? rest).map (.index i :: ·)
      | none => none
    else none
termination_by s.length
decreasing_by
  · exact Nat.lt_succ_of_lt (Text.length_some?_lt _h)
  · exact Nat.lt_succ_of_le (length_index?_le _h)

/-- The path that a key stands for. A key that writes no path stands for itself. -/
def pathOf (key : String) : List Step :=
  let path := do
    let (name, rest) ← Text.some? isNameChar key.toList
    return Step.key (String.ofList name) :: (← steps? rest)
  path.getD [.key key]

/-- A value laid over what stands at the end of a path. -/
def put (s : Setting) : (path : List Step) → Setting → Setting
  | [], under => merge s under
  | .key name :: path, under => under.update name (put s path)
  | .index i :: path, under => under.updateAt i (put s path)

/-- A value that is put under a key is laid over what was there, and no other key changes. -/
theorem get?_put_key (s : Setting) (name name' : String) (under : Setting) :
    (put s [.key name] under).get? name'
      = if name' = name then some (merge s ((under.get? name).getD unset))
        else under.get? name' :=
  get?_update name name' (put s []) under

end SupplicantWatch.Setting
