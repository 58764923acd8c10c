/-!
# UTF-8

Bytes are decoded one character at a time. A malformed piece is as long as the longest front of it
that begins some well-formed character, and at least one byte; lossy decoding puts U+FFFD in the
place of each such piece, strict decoding refuses it. Main statement: a text's own bytes decode to
the text, by either decoder.
-/

namespace SupplicantWatch.Utf8

def encode (s : List Char) : List UInt8 :=
  s.flatMap String.utf8EncodeChar

/-- What a lead byte announces: its share of the code point, how many bytes follow, and the range
of the first of them, which keeps out overlong forms, surrogates and values beyond U+10FFFF. -/
structure Lead where
  bits : Nat
  following : Nat
  lo : Nat
  hi : Nat

/-- The announcement of a lead byte; a continuation byte and a byte that begins no character have
none. -/
def lead? (b : UInt8) : Option Lead :=
  let n := b.toNat
  if n < 0x80 then some ⟨n, 0, 0, 0⟩
  -- A continuation byte, or a lead byte that only overlong forms could need.
  else if n < 0xc2 then none
  else if n < 0xe0 then some ⟨n % 32, 1, 0x80, 0xbf⟩
  else if n = 0xe0 then some ⟨0, 2, 0xa0, 0xbf⟩
  -- Behind this byte the surrogates would follow from 0xa0 on.
  else if n = 0xed then some ⟨13, 2, 0x80, 0x9f⟩
  else if n < 0xf0 then some ⟨n % 16, 2, 0x80, 0xbf⟩
  else if n = 0xf0 then some ⟨0, 3, 0x90, 0xbf⟩
  else if n < 0xf4 then some ⟨n % 8, 3, 0x80, 0xbf⟩
  else if n = 0xf4 then some ⟨4, 3, 0x80, 0x8f⟩
  else none

/-- Takes continuation bytes, the first of them in the given range, onto the value so far, and
stops before the first byte that does not fit. -/
def continuation : (following lo hi value : Nat) → List UInt8 → Option Nat × List UInt8
  | 0, _, _, value, bs => (some value, bs)
  | _ + 1, _, _, _, [] => (none, [])
  | k + 1, lo, hi, value, b :: bs =>
    if lo ≤ b.toNat ∧ b.toNat ≤ hi then
      continuation k 0x80 0xbf (64 * value + b.toNat % 64) bs
    else (none, b :: bs)

theorem length_continuation_le (k lo hi value : Nat) (bs : List UInt8) :
    (continuation k lo hi value bs).2.length ≤ bs.length := by
  induction k generalizing lo hi value bs with
  | zero => simp [continuation]
  | succ k ih =>
    cases bs with
    | nil => simp [continuation]
    | cons b bs =>
      unfold continuation
      split
      · exact Nat.le_succ_of_le (ih ..)
      · simp

/-- The first piece of some bytes, a character or a malformed piece, and the bytes after it. -/
def first (b : UInt8) (bs : List UInt8) : Option Char × List UInt8 :=
  match lead? b with
  | none => (none, bs)
  | some l =>
    let (value, rest) := continuation l.following l.lo l.hi l.bits bs
    (value.map Char.ofNat, rest)

theorem length_first_le (b : UInt8) (bs : List UInt8) : (first b bs).2.length ≤ bs.length := by
  unfold first
  split
  · simp
  · exact length_continuation_le ..

/-- The pieces of some bytes: the characters, and a `none` for each malformed piece. -/
def pieces : List UInt8 → List (Option Char)
  | [] => []
  | b :: bs => (first b bs).1 :: pieces (first b bs).2
termination_by bs => bs.length
decreasing_by exact Nat.lt_succ_of_le (length_first_le ..)

/-- The characters of some bytes, with U+FFFD for each malformed piece. -/
def decodeLossy (bs : List UInt8) : List Char :=
  (pieces bs).map (·.getD '\ufffd')

/-- The characters of some bytes, if no piece of them is malformed. -/
def decode? (bs : List UInt8) : Option (List Char) :=
  (pieces bs).mapM id

/-- A number below 256 is the value of its byte. -/
theorem toNat_byte {n : Nat} (h : n < 256) : (UInt8.ofNat n).toNat = n :=
  UInt8.toNat_ofNat_of_lt' h

/-- A lead byte and the bytes that it announces are one piece. -/
private theorem pieces_cons_of_lead? {b : UInt8} {bs rest : List UInt8} {lead : Lead} {v : Nat}
    (hlead : lead? b = some lead)
    (hv : continuation lead.following lead.lo lead.hi lead.bits bs = (some v, rest)) :
    pieces (b :: bs) = some (Char.ofNat v) :: pieces rest := by
  rw [pieces, first, hlead]
  simp only [hv, Option.map_some]

private theorem continuation_cons {lo hi : Nat} {b : UInt8} (h : lo ≤ b.toNat ∧ b.toNat ≤ hi)
    (k value : Nat) (bs : List UInt8) :
    continuation (k + 1) lo hi value (b :: bs)
      = continuation k 0x80 0xbf (64 * value + b.toNat % 64) bs :=
  if_pos h

private theorem lead?_of_two {b : UInt8} (h : 0xc2 ≤ b.toNat ∧ b.toNat < 0xe0) :
    lead? b = some ⟨b.toNat % 32, 1, 0x80, 0xbf⟩ := by
  rw [lead?, if_neg (by omega), if_neg (by omega), if_pos h.2]

private theorem lead?_of_three {b : UInt8} (h : 0xe0 ≤ b.toNat ∧ b.toNat < 0xf0) :
    lead? b = some ⟨b.toNat % 16, 2, if b.toNat = 0xe0 then 0xa0 else 0x80,
      if b.toNat = 0xed then 0x9f else 0xbf⟩ := by
  rw [lead?, if_neg (by omega), if_neg (by omega), if_neg (by omega)]
  by_cases hfirst : b.toNat = 0xe0
  · simp [hfirst]
  · by_cases hsurrogates : b.toNat = 0xed
    · simp [hsurrogates]
    · simp [hfirst, hsurrogates, h.2]

private theorem lead?_of_four {b : UInt8} (h : 0xf0 ≤ b.toNat ∧ b.toNat ≤ 0xf4) :
    lead? b = some ⟨b.toNat % 8, 3, if b.toNat = 0xf0 then 0x90 else 0x80,
      if b.toNat = 0xf4 then 0x8f else 0xbf⟩ := by
  rw [lead?, if_neg (by omega), if_neg (by omega), if_neg (by omega), if_neg (by omega),
    if_neg (by omega), if_neg (by omega)]
  by_cases hfirst : b.toNat = 0xf0
  · simp [hfirst]
  · by_cases hlast : b.toNat = 0xf4
    · simp [hlast]
    · have hinner : b.toNat < 0xf4 := by omega
      simp [hfirst, hlast, hinner]

private theorem pieces_of_one {v : Nat} (h : v < 0x80) (rest : List UInt8) :
    pieces (UInt8.ofNat v :: rest) = some (Char.ofNat v) :: pieces rest := by
  have hb := toNat_byte (n := v) (by omega)
  have hlead : lead? (UInt8.ofNat v) = some ⟨v, 0, 0, 0⟩ := by
    rw [lead?, hb, if_pos h]
  exact pieces_cons_of_lead? hlead rfl

private theorem pieces_of_two {v : Nat} (h : 0x80 ≤ v ∧ v < 0x800) (rest : List UInt8) :
    pieces (UInt8.ofNat (v / 64 % 32 + 192) :: UInt8.ofNat (v % 64 + 128) :: rest)
      = some (Char.ofNat v) :: pieces rest := by
  have hb := toNat_byte (n := v / 64 % 32 + 192) (by omega)
  have hb₁ := toNat_byte (n := v % 64 + 128) (by omega)
  have hvalue : 64 * ((v / 64 % 32 + 192) % 32) + (v % 64 + 128) % 64 = v := by omega
  refine pieces_cons_of_lead? (lead?_of_two (by omega)) ?_
  dsimp only
  rw [continuation_cons (by omega), hb, hb₁, hvalue, continuation]

private theorem pieces_of_three {v : Nat} (h : 0x800 ≤ v ∧ v < 0x10000)
    (hsurrogates : v < 0xd800 ∨ 0xdfff < v) (rest : List UInt8) :
    pieces (UInt8.ofNat (v / 4096 % 16 + 224) :: UInt8.ofNat (v / 64 % 64 + 128)
        :: UInt8.ofNat (v % 64 + 128) :: rest)
      = some (Char.ofNat v) :: pieces rest := by
  have hb := toNat_byte (n := v / 4096 % 16 + 224) (by omega)
  have hb₁ := toNat_byte (n := v / 64 % 64 + 128) (by omega)
  have hb₂ := toNat_byte (n := v % 64 + 128) (by omega)
  have hvalue : 64 * (64 * ((v / 4096 % 16 + 224) % 16) + (v / 64 % 64 + 128) % 64)
      + (v % 64 + 128) % 64 = v := by omega
  refine pieces_cons_of_lead? (lead?_of_three (by omega)) ?_
  dsimp only
  -- The range of the second byte leaves out what fits in two bytes, and the surrogates.
  rw [continuation_cons (by split <;> split <;> omega), continuation_cons (by omega), hb, hb₁, hb₂,
    hvalue, continuation]

private theorem pieces_of_four {v : Nat} (h : 0x10000 ≤ v ∧ v < 0x110000) (rest : List UInt8) :
    pieces (UInt8.ofNat (v / 262144 % 8 + 240) :: UInt8.ofNat (v / 4096 % 64 + 128)
        :: UInt8.ofNat (v / 64 % 64 + 128) :: UInt8.ofNat (v % 64 + 128) :: rest)
      = some (Char.ofNat v) :: pieces rest := by
  have hb := toNat_byte (n := v / 262144 % 8 + 240) (by omega)
  have hb₁ := toNat_byte (n := v / 4096 % 64 + 128) (by omega)
  have hb₂ := toNat_byte (n := v / 64 % 64 + 128) (by omega)
  have hb₃ := toNat_byte (n := v % 64 + 128) (by omega)
  have hvalue : 64 * (64 * (64 * ((v / 262144 % 8 + 240) % 8) + (v / 4096 % 64 + 128) % 64)
      + (v / 64 % 64 + 128) % 64) + (v % 64 + 128) % 64 = v := by omega
  refine pieces_cons_of_lead? (lead?_of_four (by omega)) ?_
  dsimp only
  -- The range of the second byte leaves out what fits in three bytes, and what is no code point.
  rw [continuation_cons (by split <;> split <;> omega), continuation_cons (by omega),
    continuation_cons (by omega), hb, hb₁, hb₂, hb₃, hvalue, continuation]

/-- The piece at the start of a character's bytes is the character. -/
theorem pieces_encodeChar (c : Char) (rest : List UInt8) :
    pieces (String.utf8EncodeChar c ++ rest) = some c :: pieces rest := by
  have hvalid : c.val.toNat < 0xd800 ∨ 0xdfff < c.val.toNat ∧ c.val.toNat < 0x110000 := c.valid
  have hc : Char.ofNat c.val.toNat = c := Char.ofNat_toNat c
  unfold String.utf8EncodeChar
  generalize c.val.toNat = v at hvalid hc
  rw [← hc]
  dsimp only
  split
  · exact pieces_of_one (by omega) rest
  · split
    · exact pieces_of_two (by omega) rest
    · split
      · exact pieces_of_three (by omega) (by omega) rest
      · exact pieces_of_four (by omega) rest

theorem pieces_encode (s : List Char) : pieces (encode s) = s.map some := by
  induction s with
  | nil => simp [encode, pieces]
  | cons c s ih =>
    simp only [encode, List.flatMap_cons, pieces_encodeChar, List.map_cons] at ih ⊢
    rw [ih]

/-- The bytes of a text decode to the text. -/
theorem decodeLossy_encode (s : List Char) : decodeLossy (encode s) = s := by
  simp [decodeLossy, pieces_encode, Function.comp_def]

/-- The bytes of a text are well formed. -/
theorem decode?_encode (s : List Char) : decode? (encode s) = some s := by
  simp only [decode?, pieces_encode]
  induction s with
  | nil => rfl
  | cons c s ih => simp [List.mapM_cons, ih]

end SupplicantWatch.Utf8
