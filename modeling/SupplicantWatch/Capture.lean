import SupplicantWatch.Dialogue
import SupplicantWatch.Text.ByteLines
import SupplicantWatch.Text.Scan
import SupplicantWatch.Text.Utf8

/-!
# Captures

A capture is a file of lines that a supplicant sent. Blank lines and comments in it are skipped, and
a line that names no interface is given one. A line that is not UTF-8 ends the capture for the read
that meets it; the next read goes on behind it.
-/

namespace SupplicantWatch

/-- The lines of a capture that have not been read, as bytes without their line ends. -/
structure Capture where
  rest : List (List UInt8)
deriving DecidableEq, Repr

namespace Capture

def ofBytes (bs : List UInt8) : Capture :=
  ⟨Text.byteLines bs⟩

/-- Whether a trimmed line is skipped: it is empty or a comment. -/
def isSkipped (line : List Char) : Bool :=
  line.isEmpty || line.head? == some '#'

/-- The next line that counts, trimmed, and the lines behind it. -/
def next? : List (List UInt8) → Option (List Char) × List (List UInt8)
  | [] => (none, [])
  | bytes :: rest =>
    match Utf8.decode? bytes with
    -- The faulty line is used up, so that the next read does not meet it again.
    | none => (none, rest)
    | some line =>
      if isSkipped (Text.trim line) then next? rest else (some (Text.trim line), rest)

theorem length_next?_le (lines : List (List UInt8)) :
    (next? lines).2.length ≤ lines.length - 1 := by
  fun_induction next? lines with
  | case1 => simp
  | case2 => simp
  | case3 bytes rest line hd hs ih => simp only [List.length_cons]; omega
  | case4 => simp

/-- The line that is handed out when the capture has ended. -/
def endLine : String :=
  "CTRL-EVENT-TERMINATING - signal 15"

/-- A line of the capture as the supplicant would send it. -/
def forInterface (interface : String) (line : List Char) : String :=
  if interfaceMark.toList.isPrefixOf line then String.ofList line
  else markInterface interface (String.ofList line)

/-- The next line that the capture hands out, and what is left of it. -/
def read (interface : String) (c : Capture) : String × Capture :=
  let (line, rest) := next? c.rest
  (line.elim endLine (forInterface interface), ⟨rest⟩)

/-- A read takes at least one line off a capture that is not at its end. -/
theorem length_rest_read_lt {c : Capture} (interface : String) (h : c.rest ≠ []) :
    (c.read interface).2.rest.length < c.rest.length := by
  have hpos := List.length_pos_iff.2 h
  have hle := length_next?_le c.rest
  simp only [read]
  omega

def reads (interface : String) : Nat → Capture → List String
  | 0, _ => []
  | count + 1, c =>
    let (line, c) := c.read interface
    line :: reads interface count c

end Capture

end SupplicantWatch
