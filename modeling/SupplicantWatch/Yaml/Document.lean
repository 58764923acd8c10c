import SupplicantWatch.Yaml.Scalar

/-!
# Reading YAML documents

Collections are written with brackets or by indentation. Anchors, tags, directives and keys behind a
question mark are refused. Where values nest, a bound on what is left ends the recursion. Main
statement: `head?_text_lineAt`, the column of a line is the one in which its text begins.
-/

namespace SupplicantWatch.Yaml

/-! ### Collections with brackets -/

/-- The text without the white space, line ends and comments at its start. A comment stands behind
white space. -/
def skipGap : (inComment : Bool) → List Char → List Char
  | _, [] => []
  | true, c :: s => skipGap (c != '\n') s
  | false, c :: s =>
    if isSpace c ∨ c = '\n' then skipGap (s.head? == some '#') s else c :: s

/-- The value behind the key of a pair, and the rest. It may be missing. -/
def pairValue? (value? : List Char → Option (Setting × List Char)) (s : List Char) :
    Option (Setting × List Char) :=
  match skipGap false s with
  | ':' :: s =>
    let s := skipGap false s
    if s.head?.any fun c => c = ',' || c = '\x7d' then some (.unset, s) else value? s
  | s => some (.unset, s)

mutual

/-- The value that a text within brackets begins with, and the rest. -/
def value? : (bound : Nat) → List Char → Option (Setting × List Char)
  | 0, _ => none
  | bound + 1, s =>
    match s with
    | '[' :: s => (items? bound (skipGap false s)).map fun (items, rest) => (.list items, rest)
    | '\x7b' :: s =>
      (pairs? bound [] (skipGap false s)).map fun (pairs, rest) => (.table pairs, rest)
    | s => scalar? true s

def items? : (bound : Nat) → List Char → Option (List Setting × List Char)
  | 0, _ => none
  | bound + 1, s =>
    match s with
    | ']' :: rest => some ([], rest)
    | s =>
      match value? bound s with
      | none => none
      | some (item, rest) =>
        match skipGap false rest with
        | ',' :: rest =>
          (items? bound (skipGap false rest)).map fun (items, rest) => (item :: items, rest)
        | ']' :: rest => some ([item], rest)
        | _ => none

/-- The pairs up to the closing brace behind those read before, and the rest. No key comes twice. -/
def pairs? : (bound : Nat) → List (String × Setting) → List Char →
    Option (List (String × Setting) × List Char)
  | 0, _, _ => none
  | bound + 1, pairs, s =>
    match s with
    | '\x7d' :: rest => some (pairs, rest)
    | s =>
      match key? true s with
      | none => none
      | some (key, rest) =>
        if (pairs.lookup key).isSome then none
        else match pairValue? (value? bound) rest with
          | none => none
          | some (value, rest) =>
            match skipGap false rest with
            | ',' :: rest => pairs? bound (pairs ++ [(key, value)]) (skipGap false rest)
            | '\x7d' :: rest => some (pairs ++ [(key, value)], rest)
            | _ => none

end

/-! ### Lines -/

/-- A line, or what is left of one: the column in which its text begins, and the text. -/
structure Line where
  indent : Nat
  text : List Char

def lineAt (column : Nat) (s : List Char) : Line :=
  ⟨column + (s.takeWhile (· = ' ')).length, s.dropWhile (· = ' ')⟩

/-- A text in which every line end is a line feed. -/
def unifyLineEnds : List Char → List Char
  | [] => []
  | '\r' :: '\n' :: s => '\n' :: unifyLineEnds s
  | c :: s => (if c = '\r' then '\n' else c) :: unifyLineEnds s

def linesOf (s : List Char) : List Line :=
  (Text.lines (unifyLineEnds s)).map (lineAt 0)

namespace Line

def isEmpty (line : Line) : Bool :=
  line.text.all isSpace

/-- Whether a line marks the start or the end of a document. -/
def isMarker (mark : List Char) (line : Line) : Bool :=
  line.indent = 0 && ((List.isPrefixOf? mark line.text).map (standsAlone false)).getD false

/-- What stands behind the dash of an item, as a line of its own. -/
def behindDash? (line : Line) : Option Line :=
  match line.text with
  | '-' :: s => if s.head?.all (· = ' ') then some (lineAt (line.indent + 1) s) else none
  | _ => none

/-- The key that a line begins with, and what stands behind its colon. -/
def key? (line : Line) : Option (String × List Char) := do
  let (key, rest) ← Yaml.key? false line.text
  match rest.dropWhile isSpace with
  | ':' :: s => if standsAlone false s then return (key, s) else none
  | _ => none

end Line

/-- The lines from the first one with more than a comment. -/
def skipIdle (lines : List Line) : List Line :=
  lines.dropWhile fun line => isIdle line.text

/-! ### Scalars on several lines -/

/-- The further lines of a plain scalar, behind the text of its first line and some empty lines, and
the lines behind them. They are indented by at least so many columns. -/
def plainLines? (least : Nat) : (empty : Nat) → (text : List Char) → List Line →
    Option (List Char × List Line)
  | _, text, [] => some (text, [])
  | empty, text, line :: rest =>
    if line.isEmpty then plainLines? least (empty + 1) text rest
    else if line.indent < least ∨ line.text.head? = some '#' then some (text, line :: rest)
    else
      let (front, behind) := untilMark false {} line.text
      let gap := if empty = 0 then [' '] else List.replicate empty '\n'
      if behind.all isSpace then plainLines? least 0 (text ++ gap ++ front) rest
      else if endsLine behind then some (text ++ gap ++ front, rest)
      else none

/-- What the mark of a block says: how many columns it is indented, if it says so, and what becomes
of the line ends behind it. -/
structure BlockMark where
  indent : Option Nat := none
  chomp : Option Char := none

/-- Reads the mark of a block behind its first character. -/
def BlockMark.ofText? (s : List Char) : Option BlockMark :=
  let (word, rest) := (s.takeWhile (!isSpace ·), s.dropWhile (!isSpace ·))
  let isChomp (c : Char) : Bool := c = '+' || c = '-'
  let mark : Option BlockMark := match word with
    | [] => some {}
    | [a] => if isChomp a then some { chomp := a } else (Text.digits? 10 [a]).map ({ indent := · })
    | [a, b] =>
      let (chomp, digit) := if isChomp a then (a, b) else (b, a)
      if isChomp chomp then (Text.digits? 10 [digit]).map ({ indent := ·, chomp }) else none
    | _ => none
  if endsLine rest then mark.filter (·.indent != some 0) else none

/-- The text of a line from a column on. -/
def Line.from (column : Nat) (line : Line) : List Char :=
  List.replicate (line.indent - column) ' ' ++ line.text

/-- The lines of a block joined by spaces, where a line end next to a line that begins with white
space stays, and of several line ends only the first one goes. -/
def foldLines : (empty : Nat) → (stays : Bool) → List (List Char) → List Char
  | empty, _, [] => List.replicate empty '\n'
  | empty, stays, line :: rest =>
    if line.isEmpty then foldLines (empty + 1) stays rest
    else
      let begins := line.head?.any isSpace
      let kept := if stays || begins then empty else empty - 1
      let gap := if empty = 1 && kept = 0 then [' '] else List.replicate kept '\n'
      gap ++ line ++ foldLines 1 begins rest

/-- The text of a block behind its mark, and the lines behind it. Its lines are indented by more
columns than what it belongs to. -/
def block (folds : Bool) (mark : BlockMark) (least : Nat) (lines : List Line) :
    List Char × List Line :=
  let first := (lines.dropWhile (·.isEmpty)).head?.map (·.indent)
  let column := (mark.indent.map (least - 1 + ·)).getD (max least (first.getD 0))
  let isInside (line : Line) : Bool := line.isEmpty || column ≤ line.indent
  let all := (lines.takeWhile isInside).map (·.from column)
  let content := (all.reverse.dropWhile (·.isEmpty)).reverse
  let text := if folds then foldLines 0 true content else content.flatMap (· ++ ['\n'])
  let text := (text.reverse.dropWhile (· = '\n')).reverse
  let ends := if content.isEmpty then 0 else 1
  let ends := match mark.chomp with
    | some '-' => 0
    | some _ => ends + (all.length - content.length)
    | none => ends
  (text ++ List.replicate ends '\n', lines.dropWhile isInside)

/-- The value that begins a line and may go on to further lines, in quotes or brackets, and the
lines behind it. Further lines are indented by at least so many columns. -/
def enclosed? (least : Nat) (s : List Char) (lines : List Line) : Option (Setting × List Line) := do
  let (value, rest) ← value? (2 * s.length + 2) s
  let taken := lines.length - rest.count '\n'
  if endsLine rest ∧ (lines.take taken).all (fun line => line.isEmpty || least ≤ line.indent) then
    return (value, lines.drop taken)
  else none

/-- The value in what is left of a line, and the lines behind it. Further lines of it are indented
by at least so many columns. -/
def valueOn? (least : Nat) (s : List Char) (lines : List Line) : Option (Setting × List Line) :=
  match s with
  | [] => none
  | c :: behind =>
    if c = '|' ∨ c = '>' then
      (BlockMark.ofText? behind).map fun mark =>
        let (text, rest) := block (c = '>') mark least lines
        (.string (String.ofList text), rest)
    else if c ∈ ['\x22', '\x27', '[', '\x7b'] then
      let all := s ++ lines.flatMap fun line => '\n' :: line.text
      -- What ends on its own line is not held to the columns of further lines.
      (enclosed? (least - 1) s []).map (fun (value, _) => (value, lines))
        |>.or (enclosed? (least - 1) all lines)
    else do
      let (text, rest) ← plain? false s
      if rest.all isSpace then
        let (text, lines) ← plainLines? least 0 text lines
        return (← plainValue? text, lines)
      else if endsLine rest then return (← plainValue? text, lines)
      else none

/-! ### Collections by indentation -/

mutual

/-- The value in the lines that are indented by at least so many columns, and the lines behind it.
Where there is no such line, nothing is said. -/
def node? : (bound least : Nat) → List Line → Option (Setting × List Line)
  | 0, _, _ => none
  | bound + 1, least, lines =>
    match skipIdle lines with
    | [] => some (.unset, [])
    | line :: rest =>
      if line.indent < least then some (.unset, line :: rest)
      else if line.behindDash?.isSome then
        (entries? bound line.indent (line :: rest)).map fun (items, rest) => (.list items, rest)
      else if line.key?.isSome then
        (fields? bound line.indent [] (line :: rest)).map fun (fields, rest) =>
          (.table fields, rest)
      else valueOn? least line.text rest

/-- The items behind the dashes in a column, and the lines behind them. -/
def entries? : (bound column : Nat) → List Line → Option (List Setting × List Line)
  | 0, _, _ => none
  | bound + 1, column, lines =>
    match skipIdle lines with
    | [] => some ([], [])
    | line :: rest =>
      match if line.indent = column then line.behindDash? else none with
      | none => if line.indent ≤ column then some ([], line :: rest) else none
      | some front =>
        match node? bound (column + 1) (front :: rest) with
        | none => none
        | some (item, rest) =>
          (entries? bound column rest).map fun (items, rest) => (item :: items, rest)

/-- The fields whose keys begin in a column behind those read before, and the lines behind them. No
key comes twice, and the items of a field may stand in the column of its key. -/
def fields? : (bound column : Nat) → List (String × Setting) → List Line →
    Option (List (String × Setting) × List Line)
  | 0, _, _, _ => none
  | bound + 1, column, fields, lines =>
    match skipIdle lines with
    | [] => some (fields, [])
    | line :: rest =>
      if line.indent < column then some (fields, line :: rest)
      else if column < line.indent then none
      else match line.key? with
        | none => none
        | some (key, s) =>
          let next := (skipIdle rest).head?
          let value :=
            if !isIdle s then valueOn? (column + 1) (s.dropWhile isSpace) rest
            else if next.any fun next => next.indent = column && next.behindDash?.isSome then
              (entries? bound column rest).map fun (items, rest) => (.list items, rest)
            else node? bound (column + 1) rest
          match value with
          | none => none
          | some (value, rest) =>
            if (fields.lookup key).isSome then none
            else fields? bound column (fields ++ [(key, value)]) rest

end

/-- The lines of the one document in some lines, behind the mark of its start and before the mark of
its end, which may both be missing. -/
def content? (lines : List Line) : Option (List Line) :=
  let isStart := Line.isMarker ['-', '-', '-']
  let isEnd := Line.isMarker ['.', '.', '.']
  let lines := match lines with
    | line :: rest => if isStart line && isIdle (line.text.drop 3) then rest else lines
    | [] => []
  let (content, behind) := (lines.takeWhile (!isEnd ·), lines.dropWhile (!isEnd ·))
  let behind := match behind with
    | line :: rest => if isIdle (line.text.drop 3) then rest else behind
    | [] => []
  if content.any isStart ∨ !(skipIdle behind).isEmpty then none else some content

/-- The table that a document describes. One without any line is empty. -/
def document? (s : List Char) : Option Setting := do
  match skipIdle (linesOf s) with
  | [] => return .table []
  | lines =>
    let (value, rest) ← node? (3 * s.length + 3) 0 (← content? lines)
    match value, skipIdle rest with
    | .table fields, [] => return .table fields
    | _, _ => none

/-- The text of a line does not begin with a space. -/
theorem head?_text_lineAt (column : Nat) (s : List Char) :
    (lineAt column s).text.head? ≠ some ' ' := by
  intro h
  rw [lineAt] at h
  have hne : s.dropWhile (· = ' ') ≠ [] := fun hnil => by simp [hnil] at h
  have hc := List.head_dropWhile_not (fun c => decide (c = ' ')) hne
  rw [List.head?_eq_some_head hne] at h
  simp_all

end SupplicantWatch.Yaml
