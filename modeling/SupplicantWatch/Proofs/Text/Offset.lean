import Mathlib.Data.Option.Basic
import Mathlib.Tactic.Common
import SupplicantWatch.Proofs.Text.Decoding
import SupplicantWatch.Proofs.Text.Encoding
import SupplicantWatch.Proofs.Text.Search
import SupplicantWatch.Text.Offset

/-!
# Places between the characters of a text

The places between characters are those that have the bytes of whole characters in front of them.
There reading does not go wrong, and a word is found at no other place. Main statements:
`isBoundary_encode_iff`, `slice_encode` and `find?_encode`.
-/

namespace SupplicantWatch

/-! ### The bytes of a character -/

namespace Utf8

open Offset (isContinuation)

variable {b : UInt8} {c : Char} {s t : List Char}

@[simp] lemma encode_nil : encode [] = [] := rfl

lemma encode_cons (c : Char) (s : List Char) :
    encode (c :: s) = String.utf8EncodeChar c ++ encode s := rfl

lemma encode_append (s t : List Char) : encode (s ++ t) = encode s ++ encode t :=
  List.flatMap_append

lemma length_encode_append (s t : List Char) :
    (encode (s ++ t)).length = (encode s).length + (encode t).length := by
  rw [encode_append, List.length_append]

/-- An ASCII character is one byte. -/
lemma encodeChar_of_ascii (h : c.toNat < 0x80) :
    String.utf8EncodeChar c = [UInt8.ofNat c.toNat] := by
  have hle : c.val.toNat ≤ 0x7f := Nat.le_of_lt_succ h
  rw [String.utf8EncodeChar, if_pos hle]
  rfl

/-- Any other character has a byte that begins it and others that go on with it. -/
lemma exists_encodeChar (h : 0x80 ≤ c.toNat) :
    ∃ b rest, String.utf8EncodeChar c = b :: rest ∧ 0xc0 ≤ b.toNat ∧ rest ≠ []
      ∧ ∀ d ∈ rest, isContinuation d = true := by
  have hc : c.val.toNat.isValidChar := c.valid
  have hnot : ¬c.val.toNat ≤ 0x7f := Nat.not_le.2 h
  have hcont (n : Nat) : isContinuation (UInt8.ofNat (n % 64 + 128)) = true := by
    rw [isContinuation, toNat_byte (by omega)]
    simp only [Bool.and_eq_true, decide_eq_true_eq]
    omega
  rw [String.utf8EncodeChar, if_neg hnot]
  split_ifs
  · refine ⟨_, _, rfl, ?_, List.cons_ne_nil _ _, List.forall_mem_singleton.2 (hcont _)⟩
    rw [toNat_byte (by omega)]
    omega
  · refine ⟨_, _, rfl, ?_, List.cons_ne_nil _ _,
      List.forall_mem_cons.2 ⟨hcont _, List.forall_mem_singleton.2 (hcont _)⟩⟩
    rw [toNat_byte (by omega)]
    omega
  · refine ⟨_, _, rfl, ?_, List.cons_ne_nil _ _, List.forall_mem_cons.2 ⟨hcont _,
      List.forall_mem_cons.2 ⟨hcont _, List.forall_mem_singleton.2 (hcont _)⟩⟩⟩
    rw [toNat_byte (by omega)]
    omega

/-- The first byte of a character goes on with no character, and the others do. -/
lemma encodeChar_eq_cons (c : Char) :
    ∃ b rest, String.utf8EncodeChar c = b :: rest ∧ isContinuation b = false
      ∧ ∀ d ∈ rest, isContinuation d = true := by
  by_cases h : c.toNat < 0x80
  · refine ⟨_, [], encodeChar_of_ascii h, ?_, List.forall_mem_nil _⟩
    rw [isContinuation, toNat_byte (by omega), Bool.and_eq_false_iff, decide_eq_false_iff_not]
    omega
  · obtain ⟨b, rest, hbytes, hb, -, hrest⟩ := exists_encodeChar (Nat.le_of_not_lt h)
    refine ⟨b, rest, hbytes, ?_, hrest⟩
    rw [isContinuation]
    simp only [Bool.and_eq_false_iff, decide_eq_false_iff_not]
    omega

/-- A text behind some bytes is decoded apart from them. -/
theorem decodeLossy_append_encode (bs : List UInt8) (s : List Char) :
    decodeLossy (bs ++ encode s) = decodeLossy bs ++ s := by
  cases s with
  | nil => rw [encode_nil, List.append_nil, List.append_nil]
  | cons c s =>
    obtain ⟨b, rest, hbytes, hb, -⟩ := encodeChar_eq_cons c
    have hb' : b.toNat < 0x80 ∨ 0xbf < b.toNat := by
      rw [isContinuation, Bool.and_eq_false_iff, decide_eq_false_iff_not,
        decide_eq_false_iff_not] at hb
      omega
    have hcons : encode (c :: s) = b :: (rest ++ encode s) := by
      rw [encode_cons, hbytes, List.cons_append]
    rw [decodeLossy, hcons, pieces_append_cons hb', List.map_append, ← hcons, ← decodeLossy,
      ← decodeLossy, decodeLossy_encode]

lemma length_le_length_encode (s : List Char) : s.length ≤ (encode s).length := by
  induction s with
  | nil => exact Nat.le_refl 0
  | cons c s ih =>
    obtain ⟨b, rest, hbytes, -⟩ := encodeChar_eq_cons c
    rw [encode_cons, hbytes, List.length_append, List.length_cons, List.length_cons]
    omega

lemma length_encode_of_ascii (h : ∀ c ∈ s, c.toNat < 0x80) : (encode s).length = s.length := by
  induction s with
  | nil => rfl
  | cons c s ih =>
    rw [List.forall_mem_cons] at h
    rw [encode_cons, List.length_append, encodeChar_of_ascii h.1, ih h.2, List.length_singleton,
      List.length_cons, Nat.add_comm]

/-- The last byte of a character is that of a space only if the character is one. -/
lemma exists_last_encodeChar (c : Char) :
    ∃ front last, String.utf8EncodeChar c = front ++ [last] ∧ (last = 0x20 ↔ c = ' ') := by
  by_cases h : c.toNat < 0x80
  · refine ⟨[], _, encodeChar_of_ascii h, ?_⟩
    rw [ofNat_eq_iff (by omega), ← Char.toNat_inj]
    rfl
  · obtain ⟨b, rest, hbytes, -, hne, hrest⟩ := exists_encodeChar (Nat.le_of_not_lt h)
    refine ⟨b :: rest.dropLast, rest.getLast hne, ?_, ?_⟩
    · rw [hbytes, List.cons_append, List.dropLast_append_getLast]
    · constructor
      · intro hlast
        have hcont := hrest _ (List.getLast_mem hne)
        rw [hlast] at hcont
        cases hcont
      · rintro rfl
        exact absurd (by decide) h

/-- The bytes of a text begin with those of a word exactly if the text begins with the word. -/
lemma encode_prefix_iff : encode s <+: encode t ↔ s <+: t := by
  constructor
  · rintro ⟨rest, h⟩
    have hpieces : pieces (encode s ++ rest) = s.map some ++ pieces rest := by
      clear h
      induction s with
      | nil => rfl
      | cons c s ih => rw [encode_cons, List.append_assoc, pieces_encodeChar, ih]; rfl
    rw [h, pieces_encode] at hpieces
    have hbegins : s.map some <+: t.map some := ⟨_, hpieces.symm⟩
    exact (List.prefix_map_iff_of_injective (Option.some_injective _)).1 hbegins
  · rintro ⟨rest, rfl⟩
    rw [encode_append]
    exact List.prefix_append _ _

end Utf8

namespace Offset

open Utf8

variable {w s t u : List Char} {bs part : List UInt8} {i j : Nat}

/-- Reading goes on with what was read. -/
@[simp] lemma ok_bind {α β : Type} (a : α) (f : α → Except Fault β) : (Except.ok a >>= f) = f a :=
  rfl

/-! ### Places -/

lemma isBoundary_encode_append (s t : List Char) :
    isBoundary (encode (s ++ t)) (encode s).length = true := by
  have hbyte : (encode (s ++ t))[(encode s).length]? = (encode t).head? := by
    rw [encode_append, List.getElem?_append_right (Nat.le_refl _), Nat.sub_self,
      List.head?_eq_getElem?]
  rw [isBoundary, hbyte, Bool.or_eq_true]
  right
  cases t with
  | nil => simp
  | cons c t =>
    obtain ⟨b, rest, hbytes, hb, -⟩ := encodeChar_eq_cons c
    rw [encode_cons, hbytes, List.cons_append, List.head?_cons, Option.map_some, Option.getD_some,
      hb]
    rfl

/-- A place is between characters exactly if the bytes of whole characters are in front of it. -/
theorem isBoundary_encode_iff :
    isBoundary (encode s) i = true ↔ ∃ t u, s = t ++ u ∧ (encode t).length = i := by
  constructor
  · intro h
    induction s generalizing i with
    | nil =>
      have hi : i = 0 := by simpa [isBoundary] using h
      exact ⟨[], [], rfl, hi.symm⟩
    | cons c s ih =>
      obtain ⟨b, rest, hbytes, -, hrest⟩ := encodeChar_eq_cons c
      rcases Nat.eq_zero_or_pos i with rfl | hpos
      · exact ⟨[], c :: s, rfl, rfl⟩
      -- Inside the first character there are only bytes that go on with it.
      have hnot : ¬i < rest.length + 1 := by
        intro hlt
        obtain ⟨k, rfl⟩ : ∃ k, i = k + 1 := ⟨i - 1, by omega⟩
        have hk : k < rest.length := by omega
        have hbyte : (encode (c :: s))[k + 1]? = some rest[k] := by
          rw [encode_cons, hbytes, List.cons_append, List.getElem?_cons_succ,
            List.getElem?_append_left hk, List.getElem?_eq_getElem hk]
        rw [isBoundary, hbyte, Option.map_some, Option.getD_some,
          hrest _ (List.getElem_mem hk)] at h
        simp at h
      obtain ⟨k, rfl⟩ : ∃ k, i = (String.utf8EncodeChar c).length + k := by
        refine ⟨i - (rest.length + 1), ?_⟩
        rw [hbytes, List.length_cons]
        omega
      have htail : isBoundary (encode s) k = true := by
        have hne : ((String.utf8EncodeChar c).length + k == 0) = false := by
          rw [beq_eq_false_iff_ne]
          omega
        rw [isBoundary, hne, Bool.false_or, encode_cons,
          List.getElem?_append_right (Nat.le_add_right _ _), Nat.add_sub_cancel_left,
          List.length_append] at h
        rw [isBoundary, Bool.or_eq_true]
        right
        rw [← h]
        congr 1
        rw [Bool.eq_iff_iff, beq_iff_eq, beq_iff_eq, Nat.add_left_cancel_iff]
      obtain ⟨t, u, rfl, hlength⟩ := ih htail
      refine ⟨c :: t, u, rfl, ?_⟩
      rw [encode_cons, List.length_append, hlength]
  · rintro ⟨t, u, rfl, rfl⟩
    exact isBoundary_encode_append t u

/-- Between characters a part of a text is what stands there. -/
theorem slice_encode (hi : (encode s).length = i)
    (hj : (encode s).length + (encode t).length = j) :
    slice (encode (s ++ (t ++ u))) i j = .ok (encode t) := by
  subst hi hj
  have hstart := isBoundary_encode_append s (t ++ u)
  have hstop := isBoundary_encode_append (s ++ t) u
  rw [List.append_assoc, length_encode_append] at hstop
  have hrange : ¬((encode s).length + (encode t).length < (encode s).length
      ∨ (encode (s ++ (t ++ u))).length < (encode s).length + (encode t).length) := by
    rw [length_encode_append, length_encode_append]
    omega
  rw [slice, if_neg hrange, if_pos (by rw [hstart, hstop]; rfl), ← List.append_assoc, encode_append,
    encode_append, List.take_left' (by rw [List.length_append]), List.drop_left]

/-- The characters in front of a place are told by how many bytes they have. -/
lemma eq_of_length_encode_eq (heq : s ++ t = w ++ u)
    (hlength : (encode s).length = (encode w).length) : s = w := by
  have hnil {v : List Char} (hv : (encode v).length = 0) : v = [] :=
    List.length_eq_zero_iff.1 (Nat.le_zero.1 (hv ▸ length_le_length_encode v))
  rcases List.append_eq_append_iff.1 heq with ⟨v, rfl, -⟩ | ⟨v, rfl, -⟩
  · rw [length_encode_append] at hlength
    rw [hnil (v := v) (by omega), List.append_nil]
  · rw [length_encode_append] at hlength
    rw [hnil (v := v) (by omega), List.append_nil]

/-- A part of a text that can be taken is what stands between two characters. -/
lemma exists_of_slice (h : slice (encode s) i j = .ok part) :
    ∃ front t rest, s = front ++ (t ++ rest) ∧ (encode front).length = i
      ∧ (encode front).length + (encode t).length = j ∧ part = encode t := by
  have hplaces : (i ≤ j) ∧ isBoundary (encode s) i = true ∧ isBoundary (encode s) j = true := by
    unfold slice at h
    split_ifs at h with hrange hboundary
    rw [Bool.and_eq_true] at hboundary
    exact ⟨by omega, hboundary⟩
  obtain ⟨hle, hstart, hstop⟩ := hplaces
  obtain ⟨front, behind, rfl, hi⟩ := isBoundary_encode_iff.1 hstart
  obtain ⟨until', rest, heq, hj⟩ := isBoundary_encode_iff.1 hstop
  obtain ⟨t, rfl, rfl⟩ : ∃ t, until' = front ++ t ∧ behind = t ++ rest := by
    rcases List.append_eq_append_iff.1 heq with ⟨t, hfront, hbehind⟩ | ⟨t, hfront, hrest⟩
    · exact ⟨t, hfront, hbehind⟩
    · have hlength := length_encode_append until' t
      have hnil := length_le_length_encode t
      rw [← hfront] at hlength
      obtain rfl : t = [] := List.length_eq_zero_iff.1 (by omega)
      rw [List.append_nil] at hfront
      exact ⟨[], by rw [hfront, List.append_nil], hrest.symm⟩
  rw [length_encode_append] at hj
  refine ⟨front, t, rest, rfl, hi, hj, ?_⟩
  rw [slice_encode hi hj] at h
  exact (Except.ok.inj h).symm

lemma sliceFrom_encode (h : (encode s).length = i) :
    sliceFrom (encode (s ++ t)) i = .ok (encode t) := by
  have hslice := slice_encode (u := []) h (t := t) rfl
  rw [List.append_nil] at hslice
  rw [sliceFrom, length_encode_append, hslice]

lemma sliceTo_encode (h : (encode s).length = i) :
    sliceTo (encode (s ++ t)) i = .ok (encode s) :=
  slice_encode (s := []) rfl (by rw [encode_nil, List.length_nil, Nat.zero_add, h])

/-! ### Words -/

/-- No word begins inside a character. -/
lemma not_encode_prefix_cons {b : UInt8} (hne : w ≠ []) (hb : isContinuation b = true)
    (bs : List UInt8) : ¬(encode w).isPrefixOf (b :: bs) = true := by
  obtain ⟨c, w, rfl⟩ := List.exists_cons_of_ne_nil hne
  obtain ⟨d, rest, hbytes, hd, -⟩ := encodeChar_eq_cons c
  rw [List.isPrefixOf_iff_prefix, encode_cons, hbytes, List.cons_append, List.cons_prefix_cons]
  rintro ⟨rfl, -⟩
  rw [hd] at hb
  cases hb

lemma findBytes?_append {conts : List UInt8} (hne : w ≠ [])
    (hconts : ∀ b ∈ conts, isContinuation b = true) (bs : List UInt8) :
    findBytes? (encode w) (conts ++ bs) = (findBytes? (encode w) bs).map (· + conts.length) := by
  induction conts with
  | nil => simp
  | cons b conts ih =>
    rw [List.forall_mem_cons] at hconts
    rw [List.cons_append, findBytes?, if_neg (not_encode_prefix_cons hne hconts.1 _), ih hconts.2,
      Option.map_map]
    rfl

/-- A word is found in the bytes where it is found in the text. -/
theorem find?_encode (w s : List Char) :
    find? w (encode s) = (Text.find? w s).map fun parts => (encode parts.1).length := by
  induction s with
  | nil =>
    cases w with
    | nil => rfl
    | cons d w =>
      obtain ⟨b, rest, hbytes, -⟩ := encodeChar_eq_cons d
      rw [find?, encode_nil, findBytes?, encode_cons, hbytes]
      rfl
  | cons c s ih =>
    obtain ⟨b, conts, hbytes, -, hconts⟩ := encodeChar_eq_cons c
    have hcons : encode (c :: s) = b :: (conts ++ encode s) := by
      rw [encode_cons, hbytes, List.cons_append]
    have hbegins : (encode w).isPrefixOf (b :: (conts ++ encode s)) = true ↔ w <+: c :: s := by
      rw [← hcons, List.isPrefixOf_iff_prefix, encode_prefix_iff]
    rw [find?] at ih
    rw [find?, hcons, findBytes?, Text.find?]
    cases hafter : w.isPrefixOf? (c :: s) with
    | some rest =>
      rw [if_pos (hbegins.2 ⟨rest, List.append_eq_of_isPrefixOf?_eq_some hafter⟩)]
      rfl
    | none =>
      -- An empty word would have been found here.
      have hne : w ≠ [] := by
        rintro rfl
        cases hafter
      rw [if_neg (mt hbegins.1 (Text.isPrefixOf?_eq_none_iff.1 hafter)),
        findBytes?_append hne hconts, ih]
      dsimp only
      rw [Option.map_map, Option.map_map, Option.map_map]
      congr 1
      funext parts
      simp only [Function.comp_apply]
      rw [encode_cons, hbytes, List.length_append, List.length_cons]
      omega

lemma find?_char (c : Char) (s : List Char) :
    find? [c] (encode s) = (Text.cut? c s).map fun parts => (encode parts.1).length := by
  rw [find?_encode, Text.find?_singleton]

/-- The place of the first occurrence of a character, or the end, is that behind what is before
it. -/
lemma getD_find?_char (c : Char) (s : List Char) :
    (find? [c] (encode s)).getD (encode s).length = (encode (Text.before c s)).length := by
  rw [find?_char]
  cases hcut : Text.cut? c s with
  | none =>
    have hbefore : Text.before c s = s :=
      Text.before_eq_iff.2 ⟨Text.cut?_eq_none_iff.1 hcut, [], by simp⟩
    rw [hbefore]
    rfl
  | some parts =>
    obtain ⟨rfl, hfront⟩ := Text.cut?_eq_some_iff.1 hcut
    have hbefore : Text.before c (parts.1 ++ c :: parts.2) = parts.1 :=
      Text.before_eq_iff.2 ⟨hfront, c :: parts.2, rfl, .inr ⟨parts.2, rfl⟩⟩
    rw [hbefore]
    rfl

/-- What is in front of a character, and what is from there on. -/
lemma slice_before (c : Char) (s : List Char) :
    sliceTo (encode s) (encode (Text.before c s)).length = .ok (encode (Text.before c s))
      ∧ sliceFrom (encode s) (encode (Text.before c s)).length
        = .ok (encode (s.dropWhile (· != c))) := by
  have hparts : Text.before c s ++ s.dropWhile (· != c) = s := List.takeWhile_append_dropWhile
  have hto := sliceTo_encode (s := Text.before c s) (t := s.dropWhile (· != c)) rfl
  have hfrom := sliceFrom_encode (s := Text.before c s) (t := s.dropWhile (· != c)) rfl
  rw [hparts] at hto hfrom
  exact ⟨hto, hfrom⟩

lemma behind?_encode (w s : List Char) :
    behind? w (encode s) = .ok ((Text.find? w s).map fun parts => encode parts.2) := by
  rw [behind?, find?_encode]
  cases hfind : Text.find? w s with
  | none => rfl
  | some parts =>
    have hs : s = parts.1 ++ w ++ parts.2 := Text.eq_of_find? hfind
    have hslice : sliceFrom (encode s) ((encode parts.1).length + (encode w).length)
        = .ok (encode parts.2) := by
      rw [hs]
      exact sliceFrom_encode (length_encode_append _ _)
    rw [Option.map_some]
    dsimp only
    rw [hslice]
    rfl

/-- After an occurrence the places inside it are passed over. -/
lemma occurrencesFrom_passed (w passed rest : List UInt8) (i : Nat) :
    occurrencesFrom w passed.length i (passed ++ rest)
      = occurrencesFrom w 0 (i + passed.length) rest := by
  induction passed generalizing i with
  | nil => rfl
  | cons b passed ih =>
    rw [List.length_cons, List.cons_append, occurrencesFrom, if_neg (by omega), Nat.add_sub_cancel,
      ih, Nat.add_right_comm, Nat.add_assoc]

lemma occurrencesFrom_append (hne : w ≠ []) (rest : List UInt8) :
    occurrencesFrom (encode w) 0 i (encode w ++ rest)
      = i :: occurrencesFrom (encode w) 0 (i + (encode w).length) rest := by
  obtain ⟨c, w, rfl⟩ := List.exists_cons_of_ne_nil hne
  obtain ⟨b, conts, hbytes, -⟩ := encodeChar_eq_cons c
  have hcons : encode (c :: w) = b :: (conts ++ encode w) := by
    rw [encode_cons, hbytes, List.cons_append]
  have hbegins : (b :: (conts ++ encode w)).isPrefixOf (b :: (conts ++ encode w ++ rest)) = true :=
    List.isPrefixOf_iff_prefix.2 ⟨rest, rfl⟩
  rw [hcons, List.cons_append, occurrencesFrom, if_pos ⟨rfl, hbegins⟩, List.length_cons,
    Nat.add_sub_cancel, occurrencesFrom_passed, Nat.add_assoc, Nat.add_comm 1]

/-- Inside a character there are no occurrences. -/
lemma occurrencesFrom_continuations {conts : List UInt8} (hne : w ≠ [])
    (hconts : ∀ b ∈ conts, isContinuation b = true) (bs : List UInt8) :
    occurrencesFrom (encode w) 0 i (conts ++ bs)
      = occurrencesFrom (encode w) 0 (i + conts.length) bs := by
  induction conts generalizing i with
  | nil => rfl
  | cons b conts ih =>
    rw [List.forall_mem_cons] at hconts
    rw [List.cons_append, occurrencesFrom,
      if_neg fun h => not_encode_prefix_cons hne hconts.1 _ h.2, Nat.zero_sub, ih hconts.2,
      List.length_cons, Nat.add_assoc, Nat.add_comm 1]

lemma occurrencesFrom_cons {c : Char} (hne : w ≠ []) (h : ¬w <+: c :: s) :
    occurrencesFrom (encode w) 0 i (encode (c :: s))
      = occurrencesFrom (encode w) 0 (i + (encode [c]).length) (encode s) := by
  obtain ⟨b, conts, hbytes, -, hconts⟩ := encodeChar_eq_cons c
  have hbegins : ¬(encode w).isPrefixOf (encode (c :: s)) = true := by
    rwa [List.isPrefixOf_iff_prefix, encode_prefix_iff]
  have hlength : (encode [c]).length = conts.length + 1 := by
    rw [encode_cons, hbytes, encode_nil, List.append_nil, List.length_cons]
  rw [encode_cons, hbytes, List.cons_append] at hbegins ⊢
  rw [occurrencesFrom, if_neg fun h => hbegins h.2, Nat.zero_sub,
    occurrencesFrom_continuations hne hconts, hlength, Nat.add_assoc, Nat.add_comm 1]

lemma trimStart_encode (s : List Char) : trimStart (encode s) = encode (Text.trimStart s) := by
  rw [trimStart, decodeLossy_encode]

lemma byteAt_append_cons (front : List UInt8) (b : UInt8) (rest : List UInt8) :
    byteAt (front ++ b :: rest) front.length = .ok b := by
  rw [byteAt, List.getElem?_append_right (Nat.le_refl _), Nat.sub_self]
  rfl

end Offset

end SupplicantWatch
