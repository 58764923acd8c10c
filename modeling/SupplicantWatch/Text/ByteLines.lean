/-!
# Lines of bytes

The lines of a file before it is known whether they are text.
-/

namespace SupplicantWatch.Text

/-- The lines of some bytes without their line feeds. Bytes after the last line feed are a line
unless there are none. -/
def byteLines (bs : List UInt8) : List (List UInt8) :=
  let pieces := bs.splitOn 0x0a
  if pieces.getLast? = some [] then pieces.dropLast else pieces

end SupplicantWatch.Text
