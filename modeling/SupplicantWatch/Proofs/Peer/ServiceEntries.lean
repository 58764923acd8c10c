import Mathlib.Tactic.Common
import SupplicantWatch.Peer.Service
import SupplicantWatch.Proofs.Text.Encoding

/-!
# Which service discovery lines are read

Any bytes fall apart into whole entries, in one way, and what is behind these: nothing, or bytes
that begin with no entry, be they too few, with a length that does not cover what it has to, or with
one that reaches too far. A line is read exactly if nothing is behind. Main statement:
`listOfLine?_iff_wire`.
-/

namespace SupplicantWatch.Peer

namespace Entry

variable {entries entries' : List Entry} {bytes rest : List UInt8}

/-- The data of an entry fits the length field, which covers three bytes more. -/
def Fits (e : Entry) : Prop :=
  e.data.length ≤ 65532

instance (e : Entry) : Decidable e.Fits :=
  inferInstanceAs (Decidable (_ ≤ _))

/-- Some bytes begin with no entry, and are not at their end either. -/
inductive IsBroken : List UInt8 → Prop where
  /-- They end before the data of an entry could begin. -/
  | short {bytes : List UInt8} (hne : bytes ≠ []) (h : bytes.length < 5) : IsBroken bytes
  /-- The length does not cover the three bytes in front of the data. -/
  | tooSmall {lo hi type transactionId status : UInt8} {tail : List UInt8}
      (h : lo.toNat + 256 * hi.toNat < 3) :
    IsBroken (lo :: hi :: type :: transactionId :: status :: tail)
  /-- The length reaches beyond the end. -/
  | tooLarge {lo hi type transactionId status : UInt8} {tail : List UInt8}
      (h : tail.length + 3 < lo.toNat + 256 * hi.toNat) :
    IsBroken (lo :: hi :: type :: transactionId :: status :: tail)

/-! ### One entry -/

/-- An entry takes five bytes at least. -/
lemma five_le_length_bytes (e : Entry) : 5 ≤ e.bytes.length := by
  simp [Entry.bytes]

/-- Bytes are at their end, begin with no entry, or begin with an entry. -/
lemma begins_cases (bytes : List UInt8) :
    bytes = [] ∨ IsBroken bytes
      ∨ ∃ (e : Entry) (rest : List UInt8), e.Fits ∧ bytes = e.bytes ++ rest := by
  match bytes with
  | [] => exact .inl rfl
  | [_] | [_, _] | [_, _, _] | [_, _, _, _] =>
    exact .inr (.inl (.short (List.cons_ne_nil _ _) (by simp)))
  | lo :: hi :: type :: transactionId :: status :: tail =>
    have hlo := lo.toNat_lt
    have hhi := hi.toNat_lt
    by_cases hsmall : lo.toNat + 256 * hi.toNat < 3
    · exact .inr (.inl (.tooSmall hsmall))
    by_cases hlarge : tail.length + 3 < lo.toNat + 256 * hi.toNat
    · exact .inr (.inl (.tooLarge hlarge))
    have hlength : (tail.take (lo.toNat + 256 * hi.toNat - 3)).length + 3
        = lo.toNat + 256 * hi.toNat := by
      rw [List.length_take]
      omega
    refine .inr (.inr ⟨⟨type, transactionId, status, tail.take (lo.toNat + 256 * hi.toNat - 3)⟩,
      tail.drop (lo.toNat + 256 * hi.toNat - 3), ?_, ?_⟩)
    · change (tail.take (lo.toNat + 256 * hi.toNat - 3)).length ≤ 65532
      omega
    · have hmod : (lo.toNat + 256 * hi.toNat) % 256 = lo.toNat := by omega
      have hdiv : (lo.toNat + 256 * hi.toNat) / 256 = hi.toNat := by omega
      simp only [Entry.bytes, hlength, hmod, hdiv, UInt8.ofNat_toNat, List.cons_append,
        List.take_append_drop]

/-- Bytes that begin with no entry are not read. -/
lemma ofWire?_of_isBroken (h : IsBroken bytes) : ofWire? bytes = none := by
  cases h with
  | short hne h =>
    match bytes with
    | [] => exact absurd rfl hne
    | [_] | [_, _] | [_, _, _] | [_, _, _, _] => rw [ofWire?] <;> simp
    | _ :: _ :: _ :: _ :: _ :: _ =>
      simp only [List.length_cons] at h
      omega
  | tooSmall h =>
    rw [ofWire?, if_pos (.inl h)]
  | @tooLarge lo hi _ _ _ tail h =>
    have hshort : (tail.take (lo.toNat + 256 * hi.toNat - 3)).length
        < lo.toNat + 256 * hi.toNat - 3 := by
      rw [List.length_take]
      omega
    rw [ofWire?, if_pos (.inr hshort)]

/-! ### Entries one after the other -/

/-- Any bytes are those of some entries and, behind these, nothing or what begins with no entry. -/
lemma exists_wire_append (bytes : List UInt8) :
    ∃ entries rest, bytes = wire entries ++ rest ∧ (∀ e ∈ entries, e.Fits)
      ∧ (rest = [] ∨ IsBroken rest) := by
  -- By induction on the number of bytes, of which an entry takes five at least.
  induction hn : bytes.length using Nat.strongRecOn generalizing bytes with
  | ind n ih =>
    rcases begins_cases bytes with rfl | hbroken | ⟨e, rest, hfits, rfl⟩
    · exact ⟨[], [], rfl, by simp, .inl rfl⟩
    · exact ⟨[], bytes, rfl, by simp, .inr hbroken⟩
    · have hlt : rest.length < n := by
        have hle := five_le_length_bytes e
        rw [List.length_append] at hn
        omega
      obtain ⟨entries, rest', rfl, hall, hend⟩ := ih rest.length hlt rest rfl
      refine ⟨e :: entries, rest', ?_, List.forall_mem_cons.2 ⟨hfits, hall⟩, hend⟩
      rw [wire, wire, List.flatMap_cons, List.append_assoc]

lemma five_mul_length_le (entries : List Entry) : 5 * entries.length ≤ (wire entries).length := by
  induction entries with
  | nil => exact Nat.le_refl 0
  | cons e entries ih =>
    have hle := five_le_length_bytes e
    rw [wire, List.flatMap_cons, List.length_append, List.length_cons, ← wire]
    omega

lemma ofWire?_wire (h : ∀ e ∈ entries, e.Fits) : ofWire? (wire entries) = some entries := by
  have hread := ofWire?_wire_append h []
  rw [List.append_nil, ofWire?, Option.map_some, List.append_nil] at hread
  exact hread

/-- Bytes with a broken end are not read, whatever entries are in front of it. -/
lemma ofWire?_wire_append_of_isBroken (h : ∀ e ∈ entries, e.Fits) (hrest : IsBroken rest) :
    ofWire? (wire entries ++ rest) = none := by
  rw [ofWire?_wire_append h, ofWire?_of_isBroken hrest, Option.map_none]

/-- Bytes are read as some entries exactly if they are the bytes of these. -/
theorem ofWire?_eq_some_iff :
    ofWire? bytes = some entries ↔ bytes = wire entries ∧ ∀ e ∈ entries, e.Fits := by
  constructor
  · intro h
    obtain ⟨entries', rest, rfl, hfits, rfl | hbroken⟩ := exists_wire_append bytes
    · rw [List.append_nil, ofWire?_wire hfits] at h
      cases h
      exact ⟨List.append_nil _, hfits⟩
    · rw [ofWire?_wire_append_of_isBroken hfits hbroken] at h
      cases h
  · rintro ⟨rfl, hfits⟩
    exact ofWire?_wire hfits

/-- Bytes are not read exactly if they have a broken end. -/
theorem ofWire?_eq_none_iff :
    ofWire? bytes = none
      ↔ ∃ entries rest, bytes = wire entries ++ rest ∧ (∀ e ∈ entries, e.Fits) ∧ IsBroken rest := by
  constructor
  · intro h
    obtain ⟨entries, rest, rfl, hfits, rfl | hbroken⟩ := exists_wire_append bytes
    · rw [List.append_nil, ofWire?_wire hfits] at h
      cases h
    · exact ⟨entries, rest, rfl, hfits, hbroken⟩
  · rintro ⟨entries, rest, rfl, hfits, hbroken⟩
    exact ofWire?_wire_append_of_isBroken hfits hbroken

/-- No two lists of entries have the same bytes. -/
lemma wire_inj (h : ∀ e ∈ entries, e.Fits) (h' : ∀ e ∈ entries', e.Fits)
    (heq : wire entries = wire entries') : entries = entries' := by
  have hread := ofWire?_wire h
  rw [heq, ofWire?_wire h'] at hread
  exact (Option.some.inj hread).symm

/-- However some bytes go on, the reading of them comes to an end after the entries that they begin
with, at most one for each five bytes: with these if nothing is left, and with nothing if what is
left begins with no entry. -/
lemma exists_reading (bytes : List UInt8) :
    ∃ entries rest, bytes = wire entries ++ rest ∧ (∀ e ∈ entries, e.Fits)
      ∧ 5 * entries.length ≤ bytes.length
      ∧ (rest = [] ∧ ofWire? bytes = some entries ∨ IsBroken rest ∧ ofWire? bytes = none) := by
  obtain ⟨entries, rest, rfl, hfits, hend⟩ := exists_wire_append bytes
  refine ⟨entries, rest, rfl, hfits, ?_, ?_⟩
  · have hle := five_mul_length_le entries
    rw [List.length_append]
    omega
  · rcases hend with rfl | hbroken
    · rw [List.append_nil]
      exact .inl ⟨rfl, ofWire?_wire hfits⟩
    · exact .inr ⟨hbroken, ofWire?_wire_append_of_isBroken hfits hbroken⟩

end Entry

/-! ### Lines -/

namespace ServiceAnswer

open Peer.Entry Text

/-- The answers of a device that some entries give. An entry with a status other than success and
without data gives none. -/
def ofEntries (address : List Char) (entries : List Entry) : List ServiceAnswer :=
  (entries.filter fun e => e.data ≠ [] ∨ e.status = 0).map fun e =>
    ⟨String.ofList address, .ofCode e.type, e.transactionId, e.status, e.data⟩

variable {line first address third hex : List Char} {answers : List ServiceAnswer}

/-- The entries of a line of four words decide what the line is read as. -/
lemma listOfLine?_of_words (h : words line = [first, address, third, hex]) :
    listOfLine? line = ((hexBytes? hex).bind ofWire?).map (ofEntries address) := by
  have hvoid : (fun e : Entry => !e.isVoid) = fun e => decide (e.data ≠ [] ∨ e.status = 0) := by
    funext e
    rw [isVoid]
    cases e.data with
    | nil =>
      simp
      rfl
    | cons => simp
  rw [listOfLine?, h]
  dsimp only
  rw [hvoid]
  cases hexBytes? hex with
  | none => rfl
  | some bytes =>
    simp only [Option.bind_eq_bind, Option.bind_some]
    cases ofWire? bytes with
    | none => rfl
    | some entries => rfl

lemma listOfLine?_of_length_ne (h : (words line).length ≠ 4) : listOfLine? line = none := by
  unfold listOfLine?
  split
  · next hwords =>
    rw [hwords] at h
    exact absurd rfl h
  · rfl

lemma exists_words_of_length_eq (h : (words line).length = 4) :
    ∃ first address third hex, words line = [first, address, third, hex] := by
  match words line, h with
  | [first, address, third, hex], _ => exact ⟨first, address, third, hex, rfl⟩

/-- A line is read exactly if it has four words of which the last is, in hexadecimal, the bytes of
some entries, and then as the answers that these give. -/
lemma listOfLine?_eq_some_iff :
    listOfLine? line = some answers ↔
      ∃ first address third hex entries, words line = [first, address, third, hex]
        ∧ IsHex hex (wire entries) ∧ (∀ e ∈ entries, e.Fits)
        ∧ answers = ofEntries address entries := by
  constructor
  · intro h
    obtain ⟨first, address, third, hex, hwords⟩ : ∃ first address third hex,
        words line = [first, address, third, hex] := by
      by_contra hne
      rw [listOfLine?_of_length_ne (mt exists_words_of_length_eq hne)] at h
      cases h
    rw [listOfLine?_of_words hwords, Option.map_eq_some_iff] at h
    obtain ⟨entries, hentries, rfl⟩ := h
    obtain ⟨bytes, hbytes, hread⟩ := Option.bind_eq_some_iff.1 hentries
    obtain ⟨rfl, hfits⟩ := ofWire?_eq_some_iff.1 hread
    exact ⟨first, address, third, hex, entries, hwords, hexBytes?_eq_some_iff.1 hbytes, hfits, rfl⟩
  · rintro ⟨first, address, third, hex, entries, hwords, hhex, hfits, rfl⟩
    rw [listOfLine?_of_words hwords, hexBytes?_eq_some_iff.2 hhex, Option.bind_some,
      ofWire?_wire hfits, Option.map_some]

/-- A line is not read exactly if it has more or fewer words, or the last of the four is not
hexadecimal, or its bytes have a broken end. -/
lemma listOfLine?_eq_none_iff :
    listOfLine? line = none ↔
      (words line).length ≠ 4
        ∨ ∃ first address third hex, words line = [first, address, third, hex]
          ∧ ((∀ bytes, ¬IsHex hex bytes)
            ∨ ∃ entries rest, IsHex hex (wire entries ++ rest) ∧ (∀ e ∈ entries, e.Fits)
              ∧ IsBroken rest) := by
  constructor
  · intro h
    by_cases hlength : (words line).length = 4
    · obtain ⟨first, address, third, hex, hwords⟩ := exists_words_of_length_eq hlength
      rw [listOfLine?_of_words hwords, Option.map_eq_none_iff, Option.bind_eq_none_iff] at h
      refine .inr ⟨first, address, third, hex, hwords, ?_⟩
      by_cases hhex : ∃ bytes, IsHex hex bytes
      · obtain ⟨bytes, hhex⟩ := hhex
        obtain ⟨entries, rest, rfl, hfits, hbroken⟩ :=
          ofWire?_eq_none_iff.1 (h bytes (hexBytes?_eq_some_iff.2 hhex))
        exact .inr ⟨entries, rest, hhex, hfits, hbroken⟩
      · exact .inl (not_exists.1 hhex)
    · exact .inl hlength
  · rintro (hlength | ⟨first, address, third, hex, hwords, hhex | ⟨entries, rest, hhex, hend⟩⟩)
    · exact listOfLine?_of_length_ne hlength
    · have hnone : hexBytes? hex = none := by
        rw [Option.eq_none_iff_forall_ne_some]
        exact fun bytes hbytes => hhex bytes (hexBytes?_eq_some_iff.1 hbytes)
      rw [listOfLine?_of_words hwords, hnone, Option.bind_none, Option.map_none]
    · rw [listOfLine?_of_words hwords, hexBytes?_eq_some_iff.2 hhex, Option.bind_some,
        ofWire?_eq_none_iff.2 ⟨entries, rest, rfl, hend⟩, Option.map_none]

/-- A line is read exactly if it has four words of which the last is, in hexadecimal, the bytes of
some entries; there are no others with these bytes, and the answers are those that they give. Any
other line is not read: it has more or fewer words, or its last word is not hexadecimal, or the
bytes have a broken end. Whatever the bytes are, the reading of them comes to an end, after at most
one entry for each five of them. -/
theorem listOfLine?_iff_wire (line : List Char) :
    (∀ answers, listOfLine? line = some answers ↔
        ∃ first address third hex entries, words line = [first, address, third, hex]
          ∧ IsHex hex (wire entries) ∧ (∀ e ∈ entries, e.Fits)
          ∧ answers = ofEntries address entries)
      ∧ (∀ entries entries', (∀ e ∈ entries, e.Fits) → (∀ e ∈ entries', e.Fits) →
          wire entries = wire entries' → entries = entries')
      ∧ (listOfLine? line = none ↔
        (words line).length ≠ 4
          ∨ ∃ first address third hex, words line = [first, address, third, hex]
            ∧ ((∀ bytes, ¬IsHex hex bytes)
              ∨ ∃ entries rest, IsHex hex (wire entries ++ rest) ∧ (∀ e ∈ entries, e.Fits)
                ∧ IsBroken rest))
      ∧ ∀ bytes, ∃ entries rest, bytes = wire entries ++ rest ∧ (∀ e ∈ entries, e.Fits)
          ∧ 5 * entries.length ≤ bytes.length
          ∧ (rest = [] ∧ ofWire? bytes = some entries ∨ IsBroken rest ∧ ofWire? bytes = none) :=
  ⟨fun _ => listOfLine?_eq_some_iff, fun _ _ => wire_inj, listOfLine?_eq_none_iff, exists_reading⟩

/-- Digits of either case are read, an entry that says nothing is passed over between two others,
and one with data is not, whatever its status. A length of two is not read, whatever is in front. -/
theorem listOfLine?_iff_wire_unavailable :
    listOfLine? "P2P-SERV-DISC-RESP 42:fc:89:e1:e2:27 1 050002010A4Bf30300010102040007030100".toList
        = some [⟨"42:fc:89:e1:e2:27", .upnp, 1, 0x0a, [0x4b, 0xf3]⟩,
            ⟨"42:fc:89:e1:e2:27", .other 7, 3, 1, [0]⟩]
      ∧ listOfLine? "P2P-SERV-DISC-RESP 42:fc:89:e1:e2:27 1 03000101020200010100".toList
        = none := by
  have hhex : IsHex "050002010A4Bf30300010102040007030100".toList
      (wire [⟨2, 1, 0x0a, [0x4b, 0xf3]⟩, ⟨1, 1, 2, []⟩, ⟨7, 3, 1, [0]⟩]) := by
    decide +kernel
  have hbroken : IsHex "03000101020200010100".toList (wire [⟨1, 1, 2, []⟩] ++ [2, 0, 1, 1, 0]) := by
    decide +kernel
  obtain ⟨hread, -⟩ := listOfLine?_iff_wire
    "P2P-SERV-DISC-RESP 42:fc:89:e1:e2:27 1 050002010A4Bf30300010102040007030100".toList
  obtain ⟨-, -, hnone, -⟩ := listOfLine?_iff_wire
    "P2P-SERV-DISC-RESP 42:fc:89:e1:e2:27 1 03000101020200010100".toList
  constructor
  · exact (hread _).2 ⟨"P2P-SERV-DISC-RESP".toList, "42:fc:89:e1:e2:27".toList, ['1'], _, _,
      by decide +kernel, hhex, by decide, by decide +kernel⟩
  · exact hnone.2 (.inr ⟨"P2P-SERV-DISC-RESP".toList, "42:fc:89:e1:e2:27".toList, ['1'], _,
      by decide +kernel, .inr ⟨_, _, hbroken, by decide, .tooSmall (by decide)⟩⟩)

end ServiceAnswer

end SupplicantWatch.Peer
