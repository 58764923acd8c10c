import SupplicantWatch.Text.Blank

/-!
# Gaps between the marks of a document

White space and comments, as several formats of documents have them: a comment goes from two slashes
to the end of its line, or from a slash and a star to a star and a slash.
-/

namespace SupplicantWatch.Text

def isLineEnd (c : Char) : Bool :=
  c ∈ ['\n', '\r', '\u2028', '\u2029']

/-- What a reader of a gap is in. -/
inductive Gap where
  | blank
  | lineComment
  | blockComment
deriving DecidableEq, Repr

/-- The text behind the gap that a reader is in. A comment that never ends leaves its last slash. -/
def Gap.skip : Gap → List Char → List Char
  | blank, '/' :: '/' :: s => lineComment.skip s
  | blank, '/' :: '*' :: s => blockComment.skip s
  | blank, c :: s => if isBlank c || c = '\ufeff' then blank.skip s else c :: s
  | lineComment, c :: s => (if isLineEnd c then blank else lineComment).skip s
  | blockComment, '*' :: '/' :: s => blank.skip s
  | blockComment, _ :: s => blockComment.skip s
  | blockComment, [] => ['/']
  | _, [] => []

def skipGap (s : List Char) : List Char :=
  Gap.blank.skip s

end SupplicantWatch.Text
