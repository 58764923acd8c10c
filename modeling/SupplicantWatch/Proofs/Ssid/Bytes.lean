import Mathlib.Data.List.TakeWhile
import Mathlib.Tactic.Common
import SupplicantWatch.Proofs.Text.Decimal
import SupplicantWatch.Proofs.Text.Offset
import SupplicantWatch.Ssid

/-!
# A written network name, read at places in its bytes

The escapes are taken back in rounds over the bytes of a written name. A round looks at a byte, and
behind a backslash at those that follow; it may stop inside a character, of which the next rounds
take the other bytes one by one. Main statements: `exists_roundBytes`, what a round does, and
`unescapeBytes_encode`, what they come to.
-/

namespace SupplicantWatch.Ssid

open Offset (Fault isContinuation)
open Utf8 (encode)

variable {b : UInt8} {bs conts : List UInt8} {i j n k : Nat} {c : Char} {s t digits : List Char}

/-! ### Rounds -/

/-- The character with the number of a byte. -/
def charOf (b : UInt8) : Char :=
  Char.ofNat b.toNat

/-- A number with one more octal digit, which must not be above 511. -/
def addOctal (n : Nat) (c : Char) : Except Fault Nat :=
  if 8 * n + (Text.digit? 8 c).getD 0 ≤ 511 then .ok (8 * n + (Text.digit? 8 c).getD 0)
  else .error .overflow

/-- The value of the octal digits in a text. -/
def octalBytes (part : List UInt8) : Except Fault Nat :=
  (Utf8.decodeLossy part).foldlM addOctal 0

/-- The byte whose two hexadecimal digits stand at a place. Here it is no fault that the text ends
before, or that the place behind is inside a character. -/
def hexAt? (bs : List UInt8) (i : Nat) : Option UInt8 :=
  ((Offset.slice bs i (i + 2)).toOption.bind fun part =>
    Text.word? 16 8 (Utf8.decodeLossy part)).map UInt8.ofNat

/-- What the byte at a place, which is behind a backslash, stands for with those that go with it,
and the place of the last of them. -/
def escapeBytes (bs : List UInt8) (i : Nat) (b : UInt8) : Except Fault (List UInt8 × Nat) :=
  match letterByte? (charOf b) with
  | some b => return ([b], i)
  | none =>
    if charOf b = 'x' then
      match hexAt? bs (i + 1) with
      | some b => return ([b], i + 2)
      | none => return ([0x5c, 0x78], i)
    else if isOctal (charOf b) then do
      let count := (((← Offset.bytesFrom bs i).take 3).takeWhile fun b => isOctal (charOf b)).length
      let value ← octalBytes (← Offset.slice bs i (i + count))
      return ([UInt8.ofNat value], i + (← Offset.minus count 1))
    else return ([0x5c, b], i)

/-- One round: what stands at a place, and the next place. -/
def roundBytes (bs : List UInt8) (i : Nat) : Except Fault (List UInt8 × Nat) := do
  let b ← Offset.byteAt bs i
  if b ≠ 0x5c ∨ i + 1 = bs.length then return ([b], i + 1)
  let (out, last) ← escapeBytes bs (i + 1) (← Offset.byteAt bs (i + 1))
  return (out, last + 1)

/-- The bytes that some rounds from a place on come to. -/
def roundsBytes (bs : List UInt8) : (rounds i : Nat) → Except Fault (List UInt8)
  | 0, i => if i < bs.length then .error .endless else .ok []
  | rounds + 1, i => do
    if i < bs.length then
      let (out, next) ← roundBytes bs i
      return out ++ (← roundsBytes bs rounds next)
    else return []

/-- The bytes that a written name stands for, read in no more rounds than it has bytes. -/
def unescapeBytes (bs : List UInt8) : Except Fault (List UInt8) :=
  roundsBytes bs bs.length 0

/-- The text of a written name. -/
def decodeBytes (bs : List UInt8) : Except Fault String := do
  return String.ofList (Utf8.decodeLossy (← unescapeBytes bs))

/-! ### Places -/

/-- At a place of a text there are some bytes that go on with a character, and then whole
characters. -/
structure At (bs : List UInt8) (i : Nat) (conts : List UInt8) (s : List Char) : Prop where
  parts : ∃ past front, bs = encode (past ++ s) ∧ encode past = front ++ conts ∧ front.length = i
  isContinuation_of_mem : ∀ b ∈ conts, isContinuation b = true

namespace At

lemma start (s : List Char) : At (encode s) 0 [] s :=
  ⟨⟨[], [], rfl, rfl, rfl⟩, List.forall_mem_nil _⟩

lemma eq_append (h : At bs i conts s) :
    ∃ front, bs = front ++ (conts ++ encode s) ∧ front.length = i := by
  obtain ⟨past, front, rfl, hpast, hlength⟩ := h.parts
  exact ⟨front, by rw [Utf8.encode_append, hpast, List.append_assoc], hlength⟩

lemma length_eq (h : At bs i conts s) : bs.length = i + (conts.length + (encode s).length) := by
  obtain ⟨front, rfl, rfl⟩ := h.eq_append
  rw [List.length_append, List.length_append]

/-- Between characters the whole text is what is before the place and what is behind it. -/
lemma eq_encode_append (h : At bs i [] s) :
    ∃ past, bs = encode (past ++ s) ∧ (encode past).length = i := by
  obtain ⟨past, front, hbs, hpast, hlength⟩ := h.parts
  exact ⟨past, hbs, by rw [hpast, List.append_nil, hlength]⟩

lemma continuation (h : At bs i (b :: conts) s) :
    Offset.byteAt bs i = .ok b ∧ At bs (i + 1) conts s := by
  obtain ⟨past, front, rfl, hpast, rfl⟩ := h.parts
  refine ⟨?_, ⟨past, front ++ [b], rfl, ?_, List.length_append⟩, ?_⟩
  · rw [Utf8.encode_append, hpast, List.append_assoc, List.cons_append]
    exact Offset.byteAt_append_cons _ _ _
  · rw [hpast, ← List.append_cons]
  · exact (List.forall_mem_cons.1 h.isContinuation_of_mem).2

/-- The first byte of a character, and the place behind it. -/
lemma char (h : At bs i [] (c :: s)) :
    ∃ b rest, String.utf8EncodeChar c = b :: rest ∧ Offset.byteAt bs i = .ok b
      ∧ At bs (i + 1) rest s := by
  obtain ⟨past, rfl, rfl⟩ := h.eq_encode_append
  obtain ⟨b, rest, hbytes, -, hrest⟩ := Utf8.encodeChar_eq_cons c
  refine ⟨b, rest, hbytes, ?_, ⟨past ++ [c], encode past ++ [b], ?_, ?_, List.length_append⟩,
    hrest⟩
  · rw [Utf8.encode_append, Utf8.encode_cons, hbytes, List.cons_append]
    exact Offset.byteAt_append_cons _ _ _
  · rw [← List.append_cons]
  · rw [Utf8.encode_append, Utf8.encode_cons, hbytes, Utf8.encode_nil, List.append_nil,
      List.append_cons]

lemma append (h : At bs i [] (t ++ s)) (hj : i + (encode t).length = j) :
    Offset.slice bs i j = .ok (encode t) ∧ At bs j [] s := by
  obtain ⟨past, rfl, rfl⟩ := h.eq_encode_append
  refine ⟨Offset.slice_encode rfl hj, ⟨past ++ t, encode (past ++ t), ?_, ?_, ?_⟩,
    List.forall_mem_nil _⟩
  · rw [List.append_assoc]
  · rw [List.append_nil]
  · rw [Utf8.length_encode_append, hj]

lemma ascii (h : At bs i [] (c :: s)) (hc : c.toNat < 0x80) :
    Offset.byteAt bs i = .ok (UInt8.ofNat c.toNat) ∧ At bs (i + 1) [] s := by
  obtain ⟨b, rest, hbytes, hb, hnext⟩ := h.char
  rw [Utf8.encodeChar_of_ascii hc] at hbytes
  obtain ⟨rfl, rfl⟩ := List.cons.inj hbytes
  exact ⟨hb, hnext⟩

lemma bytesFrom (h : At bs i conts s) : Offset.bytesFrom bs i = .ok (conts ++ encode s) := by
  obtain ⟨front, rfl, rfl⟩ := h.eq_append
  have hle : ¬(front ++ (conts ++ encode s)).length < front.length := by
    rw [List.length_append]
    omega
  rw [Offset.bytesFrom, if_neg hle, List.drop_left]

/-- A part of the text that can be taken from between two characters on. -/
lemma of_slice (h : At bs i [] s) {part : List UInt8} (hpart : Offset.slice bs i j = .ok part) :
    ∃ t rest, s = t ++ rest ∧ i + (encode t).length = j ∧ part = encode t := by
  obtain ⟨past, rfl, rfl⟩ := h.eq_encode_append
  obtain ⟨front, t, rest, heq, hfront, hj, rfl⟩ := Offset.exists_of_slice hpart
  obtain rfl := Offset.eq_of_length_encode_eq heq hfront.symm
  exact ⟨t, rest, List.append_cancel_left heq, by rw [← hj], rfl⟩

end At

/-! ### Escapes -/

/-- The first byte of a character is its number, or neither is in ASCII. -/
lemma charOf_of_encodeChar {rest : List UInt8} (h : String.utf8EncodeChar c = b :: rest) :
    (charOf b = c ∧ rest = []) ∨ (0x80 ≤ c.toNat ∧ 0x80 ≤ (charOf b).toNat) := by
  have hnumber : (charOf b).toNat = b.toNat := by
    have hv : b.toNat.isValidChar := by
      have hlt := b.toNat_lt
      rw [Nat.isValidChar]
      omega
    exact Utf8.toNat_val_ofNat hv
  by_cases hc : c.toNat < 0x80
  · rw [Utf8.encodeChar_of_ascii hc] at h
    obtain ⟨rfl, rfl⟩ := List.cons.inj h
    refine .inl ⟨?_, rfl⟩
    rw [charOf, Utf8.toNat_byte (by omega), Char.ofNat_toNat]
  · obtain ⟨b', rest', hbytes, hb', -⟩ := Utf8.exists_encodeChar (Nat.le_of_not_lt hc)
    obtain ⟨rfl, -⟩ := List.cons.inj (h.symm.trans hbytes)
    exact .inr ⟨Nat.le_of_not_lt hc, by omega⟩

lemma toNat_lt_of_letterByte? (h : letterByte? c = some b) : c.toNat < 0x80 := by
  unfold letterByte? at h
  split_ifs at h
  all_goals
    subst c
    decide

lemma toNat_lt_of_digit? {base v : Nat} (h : Text.digit? base c = some v) :
    v < base ∧ c.toNat < 0x80 := by
  obtain ⟨hvalue, hlt⟩ := Option.filter_eq_some_iff.1 h
  exact ⟨of_decide_eq_true hlt, Text.toNat_lt_of_hexValue? hvalue⟩

lemma exists_digit?_of_isOctal (h : isOctal c = true) : ∃ v, Text.digit? 8 c = some v :=
  Option.isSome_iff_exists.1 h

/-- What is not in ASCII begins no escape. -/
lemma of_le_toNat (h : 0x80 ≤ c.toNat) :
    letterByte? c = none ∧ c ≠ 'x' ∧ isOctal c = false := by
  refine ⟨?_, ?_, ?_⟩
  · rw [Option.eq_none_iff_forall_ne_some]
    intro b hb
    exact absurd (toNat_lt_of_letterByte? hb) (Nat.not_lt.2 h)
  · rintro rfl
    revert h
    decide
  · rw [Bool.eq_false_iff]
    intro hoctal
    obtain ⟨v, hv⟩ := exists_digit?_of_isOctal hoctal
    exact absurd (toNat_lt_of_digit? hv).2 (Nat.not_lt.2 h)

/-! ### Octal digits -/

/-- Three octal digits have no value above 511. -/
lemma foldlM_addOctal (h : ∀ c ∈ digits, isOctal c = true) (hn : n < Nat.pow 8 k)
    (hk : k + digits.length ≤ 3) :
    digits.foldlM addOctal n
      = .ok (digits.foldl (fun n c => 8 * n + (Text.digit? 8 c).getD 0) n) := by
  induction digits generalizing n k with
  | nil => rfl
  | cons c digits ih =>
    rw [List.forall_mem_cons] at h
    rw [List.length_cons] at hk
    obtain ⟨v, hv⟩ := exists_digit?_of_isOctal h.1
    have hlt := (toNat_lt_of_digit? hv).1
    have hnext : 8 * n + v < Nat.pow 8 (k + 1) := by
      change 8 * n + v < Nat.pow 8 k * 8
      omega
    -- A number with so many digits is below the power of eight, and there are three at most.
    have hbound : Nat.pow 8 (k + 1) ≤ Nat.pow 8 3 :=
      Nat.pow_le_pow_right (by decide) (by omega)
    have hlimit : Nat.pow 8 3 = 512 := rfl
    have hadd : addOctal n c = .ok (8 * n + v) := by
      rw [addOctal, hv, Option.getD_some, if_pos (by omega)]
    rw [List.foldlM_cons, hadd, Offset.ok_bind, ih h.2 hnext (by omega), List.foldl_cons, hv,
      Option.getD_some]

lemma octalBytes_encode (h : ∀ c ∈ digits, isOctal c = true) (hthree : digits.length ≤ 3) :
    octalBytes (encode digits) = .ok (octalValue digits) := by
  rw [octalBytes, Utf8.decodeLossy_encode]
  exact foldlM_addOctal (k := 0) h (by decide) (by omega)

/-- The octal digits at the start of a text are found in its bytes. -/
lemma takeWhile_isOctal_encode (n : Nat) (s : List Char) :
    ((encode s).take n).takeWhile (fun b => isOctal (charOf b))
      = encode ((s.take n).takeWhile isOctal) := by
  induction n generalizing s with
  | zero => rfl
  | succ n ih =>
    cases s with
    | nil => rfl
    | cons c s =>
      obtain ⟨b, rest, hbytes, -⟩ := Utf8.encodeChar_eq_cons c
      rw [Utf8.encode_cons, hbytes, List.cons_append, List.take_succ_cons, List.take_succ_cons]
      rcases charOf_of_encodeChar hbytes with ⟨hb, rfl⟩ | ⟨hc, hb⟩
      · rw [List.nil_append, List.takeWhile_cons, List.takeWhile_cons, hb, ih]
        cases isOctal c with
        | false => rfl
        | true =>
          rw [if_pos rfl, if_pos rfl, Utf8.encode_cons, hbytes]
          rfl
      · rw [List.takeWhile_cons, List.takeWhile_cons, (of_le_toNat hc).2.2, (of_le_toNat hb).2.2]
        rfl

/-- Octal digits are a byte each. -/
lemma At.octal (h : At bs i [] (c :: s)) (hc : isOctal c = true) :
    ∃ count, (encode (((c :: s).take 3).takeWhile isOctal)).length = count + 1
      ∧ Offset.slice bs i (i + (count + 1)) = .ok (encode (((c :: s).take 3).takeWhile isOctal))
      ∧ At bs (i + count + 1) []
          ((c :: s).drop (((c :: s).take 3).takeWhile isOctal).length) := by
  have hparts : ((c :: s).take 3).takeWhile isOctal
      ++ (c :: s).drop (((c :: s).take 3).takeWhile isOctal).length = c :: s :=
    (List.prefix_append_drop ((List.takeWhile_prefix _).trans (List.take_prefix _ _))).symm
  have hascii : ∀ d ∈ ((c :: s).take 3).takeWhile isOctal, d.toNat < 0x80 := by
    intro d hd
    obtain ⟨v, hv⟩ := exists_digit?_of_isOctal (List.mem_takeWhile_imp hd)
    exact (toNat_lt_of_digit? hv).2
  have hlength := Utf8.length_encode_of_ascii hascii
  obtain ⟨count, hcount⟩ :
      ∃ count, (((c :: s).take 3).takeWhile isOctal).length = count + 1 := by
    refine ⟨((s.take 2).takeWhile isOctal).length, ?_⟩
    rw [List.take_succ_cons, List.takeWhile_cons_of_pos hc, List.length_cons]
  rw [hcount] at hlength
  obtain ⟨hslice, hbehind⟩ := At.append (hparts ▸ h) (congrArg (i + ·) hlength)
  exact ⟨count, hlength, hslice, hbehind⟩

/-! ### Hexadecimal digits -/

/-- An unsigned numeral is in ASCII. -/
lemma toNat_lt_of_mem_word? {base bits : Nat} (h : Text.word? base bits s = some n) :
    ∀ c ∈ s, c.toNat < 0x80 := by
  intro c hc
  rcases (Text.exists_digit?_of_word? h).2 c hc with rfl | ⟨v, hv⟩
  · decide
  · exact (toNat_lt_of_digit? hv).2

lemma hexPair?_eq_some_iff :
    hexPair? s = some (b, t)
      ↔ ∃ c d n, s = [c, d] ++ t ∧ Text.word? 16 8 [c, d] = some n ∧ UInt8.ofNat n = b := by
  unfold hexPair?
  split
  · next c d s =>
    rw [Option.map_eq_some_iff]
    constructor
    · rintro ⟨n, hword, heq⟩
      obtain ⟨rfl, rfl⟩ := Prod.mk.inj heq
      exact ⟨c, d, n, rfl, hword, rfl⟩
    · rintro ⟨c', d', n, heq, hword, rfl⟩
      obtain ⟨rfl, rfl, rfl⟩ : c = c' ∧ d = d' ∧ s = t := by simpa using heq
      exact ⟨n, hword, rfl⟩
  · next hnot =>
    simp only [reduceCtorEq, false_iff, not_exists]
    rintro c d n ⟨rfl, -⟩
    exact hnot c d t rfl

/-- Two hexadecimal digits have a byte each. -/
lemma At.hexPair? (h : At bs i [] s) (hpair : Ssid.hexPair? s = some (b, t)) :
    hexAt? bs i = some b ∧ At bs (i + 2) [] t := by
  obtain ⟨c, d, n, rfl, hword, rfl⟩ := hexPair?_eq_some_iff.1 hpair
  have htwo : (encode [c, d]).length = 2 :=
    Utf8.length_encode_of_ascii (toNat_lt_of_mem_word? hword)
  obtain ⟨hslice, hnext⟩ := h.append (j := i + 2) (by rw [htwo])
  refine ⟨?_, hnext⟩
  rw [hexAt?, hslice, Except.toOption, Option.bind_some, Utf8.decodeLossy_encode, hword]
  rfl

/-- Where no two hexadecimal digits stand none are found. -/
lemma At.hexAt?_eq_none (h : At bs i [] s) (hpair : Ssid.hexPair? s = none) :
    hexAt? bs i = none := by
  rw [Option.eq_none_iff_forall_ne_some]
  intro b hb
  rw [hexAt?, Option.map_eq_some_iff] at hb
  obtain ⟨n, hb, rfl⟩ := hb
  obtain ⟨part, hpart, hword⟩ := Option.bind_eq_some_iff.1 hb
  have hslice : Offset.slice bs i (i + 2) = .ok part := by
    revert hpart
    cases Offset.slice bs i (i + 2) <;> simp [Except.toOption]
  -- What can be taken are whole characters, and a numeral has only ones of one byte.
  obtain ⟨u, rest, rfl, htwo, rfl⟩ := h.of_slice hslice
  rw [Utf8.decodeLossy_encode] at hword
  have hlength := Utf8.length_encode_of_ascii (toNat_lt_of_mem_word? hword)
  obtain ⟨c, d, rfl⟩ := List.length_eq_two.1 (show u.length = 2 by omega)
  rw [hexPair?_eq_some_iff.2 ⟨c, d, n, rfl, hword, rfl⟩] at hpair
  cases hpair

/-! ### What a round does -/

/-- What stands behind a backslash is read, up to its last byte or inside a character. -/
lemma exists_escapeBytes {rest : List UInt8} (h : At bs i [] (c :: s))
    (hbytes : String.utf8EncodeChar c = b :: rest) (hnext : At bs (i + 1) rest s) :
    ∃ out last conts s', escapeBytes bs i b = .ok (out, last) ∧ At bs (last + 1) conts s'
      ∧ i ≤ last ∧ out ++ (conts ++ unescape s')
        = (afterBackslash (c :: s)).1 ++ unescape (afterBackslash (c :: s)).2 := by
  rcases charOf_of_encodeChar hbytes with ⟨hchar, rfl⟩ | ⟨hc, hb⟩
  · rw [escapeBytes, hchar, afterBackslash]
    cases hletter : letterByte? c with
    | some b' => exact ⟨_, _, _, _, rfl, hnext, le_refl i, rfl⟩
    | none =>
      dsimp only
      split_ifs with hx hoctal
      · cases hpair : hexPair? s with
        | some pair =>
          obtain ⟨hhex, hbehind⟩ := hnext.hexPair? hpair
          rw [hhex]
          exact ⟨_, _, _, _, rfl, hbehind, Nat.le_add_right i 2, rfl⟩
        | none =>
          rw [hnext.hexAt?_eq_none hpair]
          exact ⟨_, _, _, _, rfl, hnext, le_refl i, rfl⟩
      · -- One to three octal digits, of which the last is the place that the round comes to.
        obtain ⟨count, hcount, hslice, hbehind⟩ := h.octal hoctal
        have hbytesFrom := h.bytesFrom
        rw [List.nil_append] at hbytesFrom
        have hdigits : ∀ d ∈ ((c :: s).take 3).takeWhile isOctal, isOctal d = true :=
          fun d => List.mem_takeWhile_imp
        have hthree : (((c :: s).take 3).takeWhile isOctal).length ≤ 3 :=
          (List.takeWhile_prefix _).length_le.trans (List.length_take_le 3 _)
        refine ⟨[UInt8.ofNat (octalValue (((c :: s).take 3).takeWhile isOctal))], i + count, [], _,
          ?_, hbehind, Nat.le_add_right i count, rfl⟩
        rw [hbytesFrom, Offset.ok_bind, takeWhile_isOctal_encode, hcount, hslice, Offset.ok_bind,
          octalBytes_encode hdigits hthree]
        rfl
      · refine ⟨_, _, _, _, rfl, hnext, le_refl i, ?_⟩
        rw [hbytes]
        rfl
  · -- What is not in ASCII is no escape, and only its first byte is read.
    obtain ⟨hletter, hx, hoctal⟩ := of_le_toNat hc
    obtain ⟨hletter', hx', hoctal'⟩ := of_le_toNat hb
    refine ⟨[0x5c, b], i, rest, s, ?_, hnext, le_refl i, ?_⟩
    · rw [escapeBytes, hletter']
      dsimp only
      rw [if_neg hx', hoctal']
      rfl
    · rw [afterBackslash, hletter]
      dsimp only
      rw [if_neg hx, hoctal, hbytes]
      rfl

/-- A round reads some bytes at a place, and goes on behind them. -/
theorem exists_roundBytes (h : At bs i conts s) (hi : i < bs.length) :
    ∃ out next conts' s', roundBytes bs i = .ok (out, next) ∧ At bs next conts' s' ∧ i < next
      ∧ out ++ (conts' ++ unescape s') = conts ++ unescape s := by
  have hlength := h.length_eq
  cases conts with
  | cons b conts =>
    obtain ⟨hb, hnext⟩ := h.continuation
    refine ⟨[b], i + 1, conts, s, ?_, hnext, Nat.lt_succ_self i, rfl⟩
    have hne : b ≠ 0x5c := by
      rintro rfl
      exact absurd (h.isContinuation_of_mem 0x5c List.mem_cons_self) (by decide)
    rw [roundBytes, hb, Offset.ok_bind, if_pos (.inl hne)]
    rfl
  | nil =>
    cases s with
    | nil =>
      rw [List.length_nil, Utf8.encode_nil, List.length_nil] at hlength
      omega
    | cons c s =>
      obtain ⟨b, rest, hbytes, hb, hnext⟩ := h.char
      by_cases hc : c = '\\'
      · subst hc
        obtain ⟨rfl, rfl⟩ : 0x5c = b ∧ [] = rest := List.cons.inj hbytes
        cases s with
        | nil =>
          have hlast := hnext.length_eq
          refine ⟨[0x5c], i + 1, [], [], ?_, hnext, Nat.lt_succ_self i, ?_⟩
          · rw [roundBytes, hb, Offset.ok_bind, if_pos (.inr hlast.symm)]
            rfl
          · simp [unescape, afterBackslash]
        | cons c s =>
          obtain ⟨b, rest, hbytes', hb', hnext'⟩ := hnext.char
          obtain ⟨out, last, conts, s', hescape, hplace, hle, heq⟩ :=
            exists_escapeBytes hnext hbytes' hnext'
          refine ⟨out, last + 1, conts, s', ?_, hplace, by omega, ?_⟩
          · -- There is a byte behind the backslash, so it can be looked at.
            have hmore : ¬((0x5c : UInt8) ≠ 0x5c ∨ i + 1 = bs.length) := by
              have hlast := hnext.length_eq
              rw [Utf8.encode_cons, hbytes', List.cons_append, List.length_cons] at hlast
              simp only [ne_eq, not_true_eq_false, false_or]
              omega
            rw [roundBytes, hb, Offset.ok_bind, if_neg hmore, hb', Offset.ok_bind, hescape]
            rfl
          · rw [unescape, if_pos rfl, heq, List.nil_append]
      · have hne : b ≠ 0x5c := by
          rintro rfl
          rcases charOf_of_encodeChar hbytes with ⟨rfl, -⟩ | ⟨-, hb⟩
          · exact hc rfl
          · revert hb
            decide
        refine ⟨[b], i + 1, rest, s, ?_, hnext, Nat.lt_succ_self i, ?_⟩
        · rw [roundBytes, hb, Offset.ok_bind, if_pos (.inl hne)]
          rfl
        · rw [unescape, if_neg hc, hbytes]
          rfl

/-! ### Whole names -/

lemma At.append_eq_nil (h : At bs i conts s) (hi : ¬i < bs.length) :
    conts ++ unescape s = [] := by
  have hlength := h.length_eq
  have hle := Utf8.length_le_length_encode s
  obtain rfl : conts = [] := List.length_eq_zero_iff.1 (by omega)
  obtain rfl : s = [] := List.length_eq_zero_iff.1 (by omega)
  rw [unescape]
  rfl

/-- From a place on the rounds come to the bytes that go on with a character and those that the
characters behind stand for. -/
lemma roundsBytes_eq {rounds : Nat} (h : At bs i conts s) (hrounds : bs.length - i ≤ rounds) :
    roundsBytes bs rounds i = .ok (conts ++ unescape s) := by
  -- By induction on the rounds: a round goes on by a byte at least.
  induction rounds generalizing i conts s with
  | zero =>
    have hi : ¬i < bs.length := by omega
    rw [roundsBytes, if_neg hi, h.append_eq_nil hi]
  | succ rounds ih =>
    by_cases hi : i < bs.length
    · obtain ⟨out, next, conts', s', hround, hnext, hlt, heq⟩ := exists_roundBytes h hi
      have hbehind := ih hnext (by omega)
      rw [roundsBytes, if_pos hi, hround, Offset.ok_bind]
      dsimp only
      rw [hbehind, Offset.ok_bind, heq]
      rfl
    · rw [roundsBytes, if_neg hi, h.append_eq_nil hi]
      rfl

/-- The escapes of a written name are taken back to its end, and come to the bytes that its
characters stand for. -/
theorem unescapeBytes_encode (s : List Char) : unescapeBytes (encode s) = .ok (unescape s) :=
  roundsBytes_eq (.start s) (Nat.sub_le _ _)

lemma decodeBytes_encode (s : List Char) : decodeBytes (encode s) = .ok (decode s) := by
  rw [decodeBytes, unescapeBytes_encode]
  rfl

end SupplicantWatch.Ssid
