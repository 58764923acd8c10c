import SupplicantWatch.Text.Numeral
import SupplicantWatch.Text.Unprintable

/-!
# Quoted text

Text is shown in error messages between double quotes, with a backslash form for the quote, the
backslash, the common controls and every unprintable character.
-/

namespace SupplicantWatch.Text

def quoteChar (c : Char) : List Char :=
  if c = '\x22' then ['\\', '\x22']
  else if c = '\\' then ['\\', '\\']
  else if c = '\n' then ['\\', 'n']
  else if c = '\r' then ['\\', 'r']
  else if c = '\t' then ['\\', 't']
  else if c = '\x00' then ['\\', '0']
  else if isUnprintable c then ['\\', 'u', '\x7b'] ++ Nat.toDigits 16 c.toNat ++ ['\x7d']
  else [c]

/-- A text between double quotes, each of its characters in its printed form. -/
def quoted (s : String) : String :=
  String.ofList ('\x22' :: s.toList.flatMap quoteChar ++ ['\x22'])

end SupplicantWatch.Text
