import SupplicantWatch.Text.Numeral
import SupplicantWatch.Text.Utf8

/-!
# Written network names

A network name is any sequence of bytes. The supplicant writes it with backslash escapes;
`unescape` takes these back, and `decode` reads the bytes as UTF-8 with U+FFFD for what is
malformed. Main statement: what `escape` writes `unescape` reads back.
-/

namespace SupplicantWatch.Ssid

/-- The byte that a single letter after a backslash stands for. -/
def letterByte? (c : Char) : Option UInt8 :=
  if c = '\x22' then some 0x22
  else if c = '\\' then some 0x5c
  else if c = 'n' then some 0x0a
  else if c = 'r' then some 0x0d
  else if c = 't' then some 0x09
  else if c = 'e' then some 0x1b
  else none

/-- The byte that two characters after `x` stand for: a numeral of eight bits in base sixteen. -/
def hexPair? : List Char → Option (UInt8 × List Char)
  | a :: b :: s => (Text.word? 16 8 [a, b]).map fun n => (UInt8.ofNat n, s)
  | _ => none

def isOctal (c : Char) : Bool :=
  (Text.digit? 8 c).isSome

def octalValue (digits : List Char) : Nat :=
  digits.foldl (fun n c => 8 * n + (Text.digit? 8 c).getD 0) 0

/-- What the text after a backslash stands for, and the text behind it. A backslash at the end, or
before anything that is no escape, stands for itself. -/
def afterBackslash : List Char → List UInt8 × List Char
  | [] => ([0x5c], [])
  | c :: s =>
    match letterByte? c with
    | some b => ([b], s)
    | none =>
      if c = 'x' then
        match hexPair? s with
        | some (b, rest) => ([b], rest)
        -- Only the `x` is taken, and what follows it stands for itself.
        | none => ([0x5c, 0x78], s)
      else if isOctal c then
        let digits := ((c :: s).take 3).takeWhile isOctal
        -- Three digits may write more than a byte holds, of which the low eight bits stay.
        ([UInt8.ofNat (octalValue digits)], (c :: s).drop digits.length)
      else (0x5c :: String.utf8EncodeChar c, s)

theorem length_afterBackslash_le (s : List Char) : (afterBackslash s).2.length ≤ s.length := by
  unfold afterBackslash
  split
  · simp
  · next c s =>
    split
    · simp
    · split
      · split
        · next h =>
          unfold hexPair? at h
          split at h
          · obtain ⟨n, _, hn⟩ := Option.map_eq_some_iff.1 h
            obtain ⟨_, rfl⟩ := Prod.mk.inj hn
            simp
            omega
          · simp at h
        · simp
      · split
        · simp
        · simp

def unescape : List Char → List UInt8
  | [] => []
  | c :: s =>
    if c = '\\' then (afterBackslash s).1 ++ unescape (afterBackslash s).2
    else String.utf8EncodeChar c ++ unescape s
termination_by s => s.length
decreasing_by
  · exact Nat.lt_succ_of_le (length_afterBackslash_le s)
  · exact Nat.lt_succ_self _

def decode (s : List Char) : String :=
  String.ofList (Utf8.decodeLossy (unescape s))

/-- The written form of a byte: the quote, the backslash and four controls as a backslash and a
letter, the other bytes outside printable ASCII as a backslash, `x` and two digits. -/
def escapeByte (b : UInt8) : List Char :=
  if b = 0x22 then ['\\', '\x22']
  else if b = 0x5c then ['\\', '\\']
  else if b = 0x0a then ['\\', 'n']
  else if b = 0x0d then ['\\', 'r']
  else if b = 0x09 then ['\\', 't']
  else if b = 0x1b then ['\\', 'e']
  else if 0x20 ≤ b.toNat ∧ b.toNat ≤ 0x7e then [Char.ofNat b.toNat]
  else ['\\', 'x'] ++ Text.hexByte b

def escape (name : List UInt8) : List Char :=
  name.flatMap escapeByte

private theorem hexPair?_hexByte (b : UInt8) (rest : List Char) :
    hexPair? (Text.hexByte b ++ rest) = some (b, rest) := by
  have all : ∀ k : Fin 256, Text.word? 16 8 (Text.hexByte (UInt8.ofNat k)) = some k.val := by
    decide +kernel
  have h := all ⟨b.toNat, b.toNat_lt⟩
  simp only [UInt8.ofNat_toNat] at h
  change (Text.word? 16 8 (Text.hexByte b)).map (fun n => (UInt8.ofNat n, rest)) = some (b, rest)
  simp [h]

theorem unescape_letter {c : Char} {b : UInt8} (h : letterByte? c = some b)
    (rest : List Char) : unescape ('\\' :: c :: rest) = b :: unescape rest := by
  rw [unescape]
  simp [afterBackslash, h]

private theorem unescape_escapeByte (b : UInt8) (rest : List Char) :
    unescape (escapeByte b ++ rest) = b :: unescape rest := by
  unfold escapeByte
  split
  · next h => subst h; exact unescape_letter rfl rest
  split
  · next h => subst h; exact unescape_letter rfl rest
  split
  · next h => subst h; exact unescape_letter rfl rest
  split
  · next h => subst h; exact unescape_letter rfl rest
  split
  · next h => subst h; exact unescape_letter rfl rest
  split
  · next h => subst h; exact unescape_letter rfl rest
  split
  · next hne _ _ _ _ hb =>
    have hv : (Char.ofNat b.toNat).val.toNat = b.toNat := by
      have all : ∀ k < 127, (Char.ofNat k).val.toNat = k := by decide
      exact all _ (by omega)
    have hc : Char.ofNat b.toNat ≠ '\\' := by
      intro he
      have : b.toNat = 0x5c := by rw [← hv, he]; rfl
      exact hne (UInt8.toNat_inj.1 this)
    rw [List.cons_append, List.nil_append, unescape, if_neg hc]
    simp [String.utf8EncodeChar, hv, show b.toNat ≤ 127 by omega]
  · rw [List.append_assoc, List.cons_append, List.cons_append, List.nil_append, unescape]
    simp [afterBackslash, letterByte?, hexPair?_hexByte]

/-- The written form of a name stands for that name. -/
theorem unescape_escape (name : List UInt8) : unescape (escape name) = name := by
  induction name with
  | nil => simp [escape, unescape]
  | cons b name ih =>
    rw [show escape (b :: name) = escapeByte b ++ escape name from List.flatMap_cons,
      unescape_escapeByte, ih]

end SupplicantWatch.Ssid
