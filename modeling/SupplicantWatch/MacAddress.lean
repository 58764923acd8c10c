import SupplicantWatch.PayloadError
import SupplicantWatch.Text.Scan

/-!
# MAC addresses

Six octets, read from groups of two characters between colons and written in lower case. A group
is a numeral of eight bits in base sixteen, so a plus sign may stand in the place of its first
digit. Main statement: an address is read back from its written form.
-/

namespace SupplicantWatch

structure MacAddress where
  o1 : UInt8
  o2 : UInt8
  o3 : UInt8
  o4 : UInt8
  o5 : UInt8
  o6 : UInt8
deriving DecidableEq, Repr, Inhabited

namespace MacAddress

/-- The address that stands for "no usable address". -/
def zero : MacAddress :=
  ⟨0, 0, 0, 0, 0, 0⟩

def isZero (m : MacAddress) : Bool :=
  m = zero

def octets (m : MacAddress) : List UInt8 :=
  [m.o1, m.o2, m.o3, m.o4, m.o5, m.o6]

/-- The octet that a group of two characters stands for. -/
def octet? (group : List Char) : Option UInt8 :=
  if group.length = 2 then (Text.word? 16 8 group).map UInt8.ofNat else none

/-- The address that a text spells out. -/
def ofChars? (s : List Char) : Option MacAddress :=
  match (s.splitOn ':').mapM octet? with
  | some [a, b, c, d, e, f] => some ⟨a, b, c, d, e, f⟩
  | _ => none

/-- Reads an address; the error carries the text. -/
def parse (s : String) : Except PayloadError MacAddress :=
  match ofChars? s.toList with
  | some m => .ok m
  | none => .error (.malformedMac s)

def toChars (m : MacAddress) : List Char :=
  [':'].intercalate (m.octets.map Text.hexByte)

/-- The written form of an address: lower-case octets between colons. -/
def render (m : MacAddress) : String :=
  String.ofList m.toChars

/-- Whether the characters are an address with all its letters in lower case. -/
def isLower (s : List Char) : Bool :=
  let groups := s.splitOn ':'
  groups.length == 6 && groups.all fun group => group.length == 2 && group.all Text.isLowerHex

/-- Takes a lower-case address, `(?:[0-9a-f]{2}:){5}[0-9a-f]{2}`, off the front of a text. -/
def takeLower? (s : List Char) : Option (List Char × List Char) :=
  if isLower (s.take 17) then some (s.take 17, s.drop 17) else none

private theorem octet?_hexByte (b : UInt8) : octet? (Text.hexByte b) = some b := by
  have all : ∀ k : Fin 256, octet? (Text.hexByte (UInt8.ofNat k)) = some (UInt8.ofNat k) := by
    decide +kernel
  have h := all ⟨b.toNat, b.toNat_lt⟩
  simpa using h

private theorem colon_notMem_hexByte (b : UInt8) : ':' ∉ Text.hexByte b := by
  have hx : ∀ k < 16, Nat.digitChar k ≠ ':' := by decide
  have hb := b.toNat_lt
  simp [Text.hexByte, (hx (b.toNat / 16) (by omega)).symm, (hx (b.toNat % 16) (by omega)).symm]

theorem splitOn_toChars (m : MacAddress) : m.toChars.splitOn ':' = m.octets.map Text.hexByte :=
  List.splitOn_intercalate ':' (by simp [octets, colon_notMem_hexByte]) (by simp [octets])

/-- The written form of an address reads back as the address. -/
theorem ofChars?_toChars (m : MacAddress) : ofChars? m.toChars = some m := by
  rw [ofChars?, splitOn_toChars]
  simp [octets, octet?_hexByte]

end MacAddress

end SupplicantWatch
