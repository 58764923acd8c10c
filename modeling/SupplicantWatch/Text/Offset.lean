import SupplicantWatch.Text.Scan
import SupplicantWatch.Text.Utf8

/-!
# Places in the bytes of a text

In memory a text is its bytes, and a place in it is the number of bytes in front of that place.
Reading at a place can go wrong: there is nothing beyond the end, and a part of a text cannot begin
or end inside a character. Searching cannot.
-/

namespace SupplicantWatch.Offset

/-- Why reading at a place in the bytes of a text goes wrong. -/
inductive Fault where
  /-- The place is beyond the end, or the end of a part before its start. -/
  | outOfRange
  /-- A character reaches over the place. -/
  | insideCharacter
  /-- A number that is counted up has become too large, or has gone below zero. -/
  | overflow
  /-- The rounds of a loop have used up what bounds their number. -/
  | endless
deriving DecidableEq, Repr

/-- Whether a byte goes on with the character of the byte before it. -/
def isContinuation (b : UInt8) : Bool :=
  0x80 ≤ b.toNat && b.toNat < 0xc0

/-- Whether a character begins at a place, or the text ends there. -/
def isBoundary (bs : List UInt8) (i : Nat) : Bool :=
  i == 0 || (bs[i]?.map (!isContinuation ·)).getD (i == bs.length)

def byteAt (bs : List UInt8) (i : Nat) : Except Fault UInt8 :=
  bs[i]?.elim (.error .outOfRange) .ok

/-- The bytes from a place on, as bytes: they may begin inside a character. -/
def bytesFrom (bs : List UInt8) (i : Nat) : Except Fault (List UInt8) :=
  if bs.length < i then .error .outOfRange else .ok (bs.drop i)

def slice (bs : List UInt8) (i j : Nat) : Except Fault (List UInt8) :=
  if j < i ∨ bs.length < j then .error .outOfRange
  else if isBoundary bs i && isBoundary bs j then .ok ((bs.take j).drop i)
  else .error .insideCharacter

def sliceFrom (bs : List UInt8) (i : Nat) : Except Fault (List UInt8) :=
  slice bs i bs.length

def sliceTo (bs : List UInt8) (j : Nat) : Except Fault (List UInt8) :=
  slice bs 0 j

/-- A number less another one, which must not be larger. -/
def minus (n m : Nat) : Except Fault Nat :=
  if n < m then .error .overflow else .ok (n - m)

def findBytes? (w : List UInt8) : List UInt8 → Option Nat
  | [] => if w = [] then some 0 else none
  | b :: bs => if w.isPrefixOf (b :: bs) then some 0 else (findBytes? w bs).map (· + 1)

def find? (w : List Char) (bs : List UInt8) : Option Nat :=
  findBytes? (Utf8.encode w) bs

def behind? (w : List Char) (bs : List UInt8) : Except Fault (Option (List UInt8)) := do
  match find? w bs with
  | some i => return some (← sliceFrom bs (i + (Utf8.encode w).length))
  | none => return none

/-- The places from `i` on at which some bytes occur. An occurrence does not begin in the one before
it, so after one the places inside it are passed over. -/
def occurrencesFrom (w : List UInt8) (passed i : Nat) : List UInt8 → List Nat
  | [] => []
  | b :: bs =>
    if passed = 0 ∧ w.isPrefixOf (b :: bs) then i :: occurrencesFrom w (w.length - 1) (i + 1) bs
    else occurrencesFrom w (passed - 1) (i + 1) bs

def occurrences (w : List Char) (bs : List UInt8) : List Nat :=
  occurrencesFrom (Utf8.encode w) 0 0 bs

def trimStart (bs : List UInt8) : List UInt8 :=
  Utf8.encode (Text.trimStart (Utf8.decodeLossy bs))

end SupplicantWatch.Offset
