import Mathlib.Tactic.Common
import SupplicantWatch.Proofs.Fields.Items
import SupplicantWatch.Proofs.Text.Offset

/-!
# The fields of a line, read at places in its bytes

The items of a line are read off its bytes in rounds: each cuts the text at places that were found
in it, of which any could be beyond the end or inside a character. None is, and a round takes at
least one byte off. Main statements: `roundBytes_encode` and `ofBytes_encode`.
-/

namespace SupplicantWatch.Fields

open Offset (Fault)
open Utf8 (encode)

variable {s : List Char}

/-! ### Rounds -/

/-- The quote that a text begins with. -/
def quoteOf? (bs : List UInt8) : Option Char :=
  (Utf8.decodeLossy bs).head?.filter IsQuote

/-- The place at which the quote that a text begins with occurs again, counted from behind the
quote. -/
def closingOf? (bs : List UInt8) : Except Fault (Option Nat) :=
  match quoteOf? bs with
  | some quote => return Offset.find? [quote] (← Offset.sliceFrom bs 1)
  | none => return none

/-- The value at the start of a text, and the number of bytes that it takes. -/
def valueBytes (bs : List UInt8) : Except Fault (List UInt8 × Nat) := do
  match ← closingOf? bs with
  | some stop => return (← Offset.slice bs 1 (stop + 1), stop + 2)
  | none =>
    let stop := (Offset.find? [' '] bs).getD bs.length
    return (← Offset.sliceTo bs stop, stop)

/-- One round: the item at the start of a text, if it is a field, and the text from the next item
on. -/
def roundBytes (rest : List UInt8) :
    Except Fault (Option (List UInt8 × List UInt8) × List UInt8) := do
  let stop := (Offset.find? [' '] rest).getD rest.length
  match Offset.find? ['='] (← Offset.sliceTo rest stop) with
  | none => return (none, Offset.trimStart (← Offset.sliceFrom rest stop))
  | some equals =>
    let key ← Offset.sliceTo rest equals
    let (value, count) ← valueBytes (← Offset.sliceFrom rest (equals + 1))
    let behind ← Offset.sliceFrom rest (min (equals + 1 + count) rest.length)
    return (some (key, value), Offset.trimStart behind)

/-- The fields that some rounds read until nothing is left. -/
def roundsBytes : (rounds : Nat) → List UInt8 → Except Fault (List (List UInt8 × List UInt8))
  | _, [] => return []
  | 0, _ :: _ => .error .endless
  | rounds + 1, b :: bs => do
    let (field, rest) ← roundBytes (b :: bs)
    return field.toList ++ (← roundsBytes rounds rest)

/-- The fields of a line, read in no more rounds than the line has bytes. -/
def ofBytes (line : List UInt8) : Except Fault (List (List UInt8 × List UInt8)) :=
  roundsBytes line.length (Offset.trimStart line)

/-- The bytes of a field. -/
def encodeField (field : List Char × List Char) : List UInt8 × List UInt8 :=
  (encode field.1, encode field.2)

/-! ### A round goes well -/

lemma quoteOf?_encode (s : List Char) : quoteOf? (encode s) = s.head?.filter IsQuote := by
  rw [quoteOf?, Utf8.decodeLossy_encode]

/-- A quote is one byte. -/
lemma length_encode_quote {quote : Char} (h : IsQuote quote) : (encode [quote]).length = 1 := by
  rcases h with rfl | rfl <;> rfl

lemma closingOf?_encode (s : List Char) :
    closingOf? (encode s) = .ok ((quotedValue? s).map fun parts => (encode parts.1).length) := by
  rw [closingOf?, quoteOf?_encode]
  cases s with
  | nil => rfl
  | cons c s =>
    rw [List.head?_cons, Option.filter_some, quotedValue?]
    by_cases hc : IsQuote c
    · have hslice : Offset.sliceFrom (encode (c :: s)) 1 = .ok (encode s) :=
        Offset.sliceFrom_encode (s := [c]) (length_encode_quote hc)
      have hquote : c = '\x27' ∨ c = '\x22' := hc
      rw [if_pos (decide_eq_true hc), if_pos hquote, ← Offset.find?_char]
      change (do return Offset.find? [c] (← Offset.sliceFrom (encode (c :: s)) 1)) = _
      rw [hslice]
      rfl
    · have hquote : ¬(c = '\x27' ∨ c = '\x22') := hc
      rw [if_neg (by rwa [decide_eq_true_iff]), if_neg hquote]
      rfl

/-- The value is the one that the characters have, and it takes all that is in front of what they
leave. -/
lemma exists_valueBytes (s : List Char) :
    ∃ front, s = front ++ (value s).2
      ∧ valueBytes (encode s) = .ok (encode (value s).1, (encode front).length) := by
  rw [valueBytes, closingOf?_encode, value]
  cases hquoted : quotedValue? s with
  | none =>
    refine ⟨Text.before ' ' s, List.takeWhile_append_dropWhile.symm, ?_⟩
    change (do
      let stop := (Offset.find? [' '] (encode s)).getD (encode s).length
      return (← Offset.sliceTo (encode s) stop, stop)) = _
    dsimp only
    rw [Offset.getD_find?_char, (Offset.slice_before ' ' s).1]
    rfl
  | some parts =>
    cases s with
    | nil => cases hquoted
    | cons quote s =>
      -- The value stands between two quotes, each of which is one byte.
      rw [quotedValue?] at hquoted
      split_ifs at hquoted with hquote
      obtain ⟨rfl, -⟩ := Text.cut?_eq_some_iff.1 hquoted
      have hone := length_encode_quote hquote
      have hslice : Offset.slice (encode ([quote] ++ (parts.1 ++ quote :: parts.2))) 1
          ((encode parts.1).length + 1) = .ok (encode parts.1) :=
        Offset.slice_encode hone (by rw [hone, Nat.add_comm])
      have hlength : (encode ([quote] ++ (parts.1 ++ [quote]))).length
          = (encode parts.1).length + 2 := by
        rw [Utf8.length_encode_append, Utf8.length_encode_append, hone]
        omega
      refine ⟨[quote] ++ (parts.1 ++ [quote]), by simp, ?_⟩
      rw [hlength]
      change (do
        return (← Offset.slice (encode ([quote] ++ (parts.1 ++ quote :: parts.2))) 1
          ((encode parts.1).length + 1), (encode parts.1).length + 2)) = _
      rw [hslice]
      rfl

lemma item_of_notMem (h : '=' ∉ Text.before ' ' s) :
    item s = (none, Text.trimStart (s.dropWhile (· != ' '))) := by
  have hword : ∀ c ∈ Text.before ' ' s, isKeyChar c = true := by
    intro c hc
    have hspace : (c != ' ') = true := List.mem_takeWhile_imp (p := (· != ' ')) hc
    rw [isKeyChar, hspace, Bool.and_true, bne_iff_ne]
    rintro rfl
    exact h hc
  -- Without an equals sign in it, the word is the run of characters that a key may have.
  have hdrop : s.dropWhile isKeyChar = s.dropWhile (· != ' ') := by
    have hparts : Text.before ' ' s ++ s.dropWhile (· != ' ') = s :=
      List.takeWhile_append_dropWhile
    rw [← hparts, List.dropWhile_append_of_pos hword, hparts]
    cases hrest : s.dropWhile (· != ' ') with
    | nil => rfl
    | cons c rest =>
      obtain rfl : c = ' ' := by
        simpa using Text.head?_dropWhile_eq_false (· != ' ') s c (by rw [hrest]; rfl)
      rfl
  rw [item, hdrop]
  split
  · next rest hrest =>
    have hfalse := Text.head?_dropWhile_eq_false (· != ' ') s '=' (by rw [hrest]; rfl)
    cases hfalse
  · rfl

/-- A round reads the item that the characters have, and leaves what they leave. -/
theorem roundBytes_encode (s : List Char) :
    roundBytes (encode s) = .ok ((item s).1.map encodeField, encode (item s).2) := by
  have hparts : Text.before ' ' s ++ s.dropWhile (· != ' ') = s :=
    List.takeWhile_append_dropWhile
  obtain ⟨hword, hrest⟩ := Offset.slice_before ' ' s
  have hspace : ' ' ∉ Text.before ' ' s := by
    intro hmem
    simpa using List.mem_takeWhile_imp hmem
  rw [roundBytes]
  dsimp only
  rw [Offset.getD_find?_char, hword, Offset.ok_bind, Offset.find?_char]
  cases hcut : Text.cut? '=' (Text.before ' ' s) with
  | none =>
    rw [item_of_notMem (Text.cut?_eq_none_iff.1 hcut), ← Offset.trimStart_encode, Option.map_none]
    dsimp only
    rw [hrest]
    rfl
  | some parts =>
    obtain ⟨hbefore, hkey⟩ := Text.cut?_eq_some_iff.1 hcut
    obtain ⟨key, rest⟩ := parts
    rw [hbefore, List.mem_append] at hspace
    -- The equals sign was found in the word, and the value may go on behind that.
    obtain ⟨after, rfl⟩ : ∃ after, s = key ++ '=' :: after :=
      ⟨rest ++ s.dropWhile (· != ' '), by
        rw [← List.cons_append, ← List.append_assoc, ← hbefore, hparts]⟩
    obtain ⟨front, hfront, hvalue⟩ := exists_valueBytes after
    have hfield : (encode (key ++ ['='])).length = (encode key).length + 1 :=
      Utf8.length_encode_append key ['=']
    have hafter : Offset.sliceFrom (encode (key ++ '=' :: after)) ((encode key).length + 1)
        = .ok (encode after) := by
      rw [← hfield, List.append_cons]
      exact Offset.sliceFrom_encode rfl
    have hbehind : Offset.sliceFrom (encode (key ++ '=' :: after))
        (min ((encode key).length + 1 + (encode front).length)
          (encode (key ++ '=' :: after)).length) = .ok (encode (value after).2) := by
      have htake : key ++ '=' :: after = key ++ ['='] ++ front ++ (value after).2 := by
        rw [List.append_assoc, ← hfront, ← List.append_cons]
      have hlength : (encode (key ++ ['='] ++ front)).length
          = (encode key).length + 1 + (encode front).length := by
        rw [Utf8.length_encode_append, hfield]
      have hle : (encode key).length + 1 + (encode front).length
          ≤ (encode (key ++ '=' :: after)).length := by
        rw [htake, Utf8.length_encode_append, hlength]
        exact Nat.le_add_right _ _
      rw [Nat.min_eq_left hle, htake]
      exact Offset.sliceFrom_encode hlength
    have hkeyBytes : Offset.sliceTo (encode (key ++ '=' :: after)) (encode key).length
        = .ok (encode key) := Offset.sliceTo_encode rfl
    rw [item_append ⟨fun h => hspace (.inl h), hkey⟩, ← Offset.trimStart_encode, Option.map_some]
    dsimp only
    rw [hkeyBytes, Offset.ok_bind, hafter, Offset.ok_bind, hvalue, Offset.ok_bind, hbehind]
    rfl

lemma roundsBytes_succ (rounds : Nat) (c : Char) (s : List Char) :
    roundsBytes (rounds + 1) (encode (c :: s)) = do
      let (field, rest) ← roundBytes (encode (c :: s))
      return field.toList ++ (← roundsBytes rounds rest) := by
  obtain ⟨b, rest, hbytes, -⟩ := Utf8.encodeChar_eq_cons c
  rw [Utf8.encode_cons, hbytes, List.cons_append, roundsBytes]

/-- Enough rounds read a text to its end, and the fields are those that the characters have. -/
lemma roundsBytes_encode (rounds : Nat) (hrounds : s.length ≤ rounds) :
    roundsBytes rounds (encode s) = .ok ((itemsOf s).map encodeField) := by
  induction rounds generalizing s with
  | zero =>
    obtain rfl := List.length_eq_zero_iff.1 (Nat.le_zero.1 hrounds)
    rw [itemsOf]
    rfl
  | succ rounds ih =>
    cases s with
    | nil =>
      rw [itemsOf]
      rfl
    | cons c s =>
      -- An item takes a character at least, so one round less is enough for the rest.
      have hitem := length_item_le c s
      rw [List.length_cons] at hrounds
      have hrest := ih (s := (item (c :: s)).2) (by omega)
      rw [roundsBytes_succ, roundBytes_encode, Offset.ok_bind]
      dsimp only
      rw [hrest, itemsOf, List.map_append]
      cases (item (c :: s)).1 <;> rfl

/-- A line is read to its end, and the fields are those that the characters have. -/
theorem ofBytes_encode (line : List Char) :
    ofBytes (encode line) = .ok ((ofLine line).items.map encodeField) := by
  have hrounds : (Text.trimStart line).length ≤ (encode line).length :=
    (Text.length_trimStart_le line).trans (Utf8.length_le_length_encode line)
  rw [ofBytes, Offset.trimStart_encode, roundsBytes_encode _ hrounds, ofLine]

end SupplicantWatch.Fields
