import Mathlib.Data.List.MinMax
import Mathlib.Tactic.Common
import SupplicantWatch.Hotspot.Anqp
import SupplicantWatch.Proofs.Control.NetworkName
import SupplicantWatch.Proofs.Fields.Bytes
import SupplicantWatch.Proofs.Ssid.Bytes

/-!
# The scanners of the classifier, at places in the bytes of a line

The network name of a state change, the address of a completed connection and a value behind a
marker are cut out of a line at places that were searched for in its bytes. Main statement:
`scanners_at_places`, that no line lets any of the scanners read where it must not.
-/

namespace SupplicantWatch

open Offset (Fault)
open Utf8 (encode)

/-! ### The network name of a state change -/

namespace Control

variable {past s p front rest : List Char} {ws : List (List Char)} {w : List Char}

/-- Whether a place is the start, or that behind a space. -/
def standsAlone (bs : List UInt8) (i : Nat) : Except Fault Bool := do
  if i = 0 then return true
  return (← Offset.byteAt bs (← Offset.minus i 1)) == 0x20

/-- The last of some places that is the start or behind a space. -/
def lastAlone (bs : List UInt8) : List Nat → Except Fault (Option Nat)
  | [] => return none
  | i :: places => do
    let here ← standsAlone bs i
    let later ← lastAlone bs places
    return later.or (if here then some i else none)

/-- The first place at which one of some words occurs, the end if none does. -/
def firstPlace (ws : List (List Char)) (bs : List UInt8) : Nat :=
  (ws.filterMap fun w => Offset.find? w bs).min?.getD bs.length

/-- The written network name in a payload. -/
def writtenSsidBytes (payload : List UInt8) : Except Fault (Option (List UInt8)) := do
  match ← lastAlone payload (Offset.occurrences "SSID=".toList payload) with
  | none => return none
  | some i =>
    let rest ← Offset.sliceFrom payload (i + (encode "SSID=".toList).length)
    let stop := firstPlace [" BSSID=".toList, " id=".toList, " state=".toList] rest
    return some (← Offset.sliceTo rest stop)

lemma standsAlone_encode (past s : List Char) :
    standsAlone (encode (past ++ s)) (encode past).length
      = .ok (past.getLast?.getD ' ' == ' ') := by
  rcases List.eq_nil_or_concat' past with rfl | ⟨past, c, rfl⟩
  · rfl
  · obtain ⟨front, last, hbytes, hlast⟩ := Utf8.exists_last_encodeChar c
    have hpast : encode (past ++ [c]) = encode past ++ front ++ [last] := by
      rw [Utf8.encode_append, Utf8.encode_cons, hbytes, Utf8.encode_nil, List.append_nil,
        List.append_assoc]
    have hlength : (encode (past ++ [c])).length = (encode past ++ front).length + 1 := by
      rw [hpast, List.length_append, List.length_singleton]
    have hbyte : Offset.byteAt (encode (past ++ [c] ++ s)) (encode past ++ front).length
        = .ok last := by
      rw [Utf8.encode_append, hpast, List.append_assoc]
      exact Offset.byteAt_append_cons _ _ _
    have hminus : Offset.minus ((encode past ++ front).length + 1) 1
        = .ok (encode past ++ front).length := if_neg (by omega)
    rw [standsAlone, hlength, if_neg (Nat.succ_ne_zero _), hminus, Offset.ok_bind, hbyte,
      Offset.ok_bind, List.getLast?_concat, Option.getD_some]
    change Except.ok _ = _
    congr 1
    rw [Bool.eq_iff_iff, beq_iff_eq, beq_iff_eq, hlast]

lemma isPrefixOf?_space_ssid (c : Char) (s : List Char) :
    List.isPrefixOf? " SSID=".toList (c :: s)
      = if ' ' = c then List.isPrefixOf? "SSID=".toList s else none := by
  have hword : " SSID=".toList = ' ' :: "SSID=".toList := by decide
  rw [hword, List.isPrefixOf?]
  simp only [beq_iff_eq]

lemma searchLast_ssid_append (rest : List Char) :
    Text.searchLast (List.isPrefixOf? " SSID=".toList) ("SSID=".toList ++ rest)
      = Text.searchLast (List.isPrefixOf? " SSID=".toList) ('=' :: rest) := by
  change Text.searchLast (List.isPrefixOf? " SSID=".toList) ("SSID".toList ++ '=' :: rest) = _
  apply Text.searchLast_append
  intro t ht hne
  obtain ⟨c, t, rfl⟩ := List.exists_cons_of_ne_nil hne
  have hc : c ∈ "SSID".toList := ht.subset List.mem_cons_self
  have hspace : ' ' ≠ c := by
    rintro rfl
    revert hc
    decide
  rw [List.cons_append, isPrefixOf?_space_ssid, if_neg hspace]

/-- The places of the word are looked at from the last one on, as the characters are. -/
lemma lastAlone_occurrencesFrom (past s : List Char) :
    lastAlone (encode (past ++ s))
        (Offset.occurrencesFrom (encode "SSID=".toList) 0 (encode past).length (encode s))
      = .ok ((Text.searchLast (List.isPrefixOf? " SSID=".toList) (past.getLast?.getD ' ' :: s)).map
          fun rest => (encode (past ++ s)).length - ((encode rest).length + 5)) := by
  induction hn : s.length using Nat.strongRecOn generalizing past s with
  | ind n ih =>
    cases s with
    | nil =>
      rw [Text.searchLast, isPrefixOf?_space_ssid, Text.searchLast]
      split_ifs <;> rfl
    | cons c s =>
      rw [Text.searchLast, isPrefixOf?_space_ssid]
      cases hafter : List.isPrefixOf? "SSID=".toList (c :: s) with
      | some rest =>
        -- The search goes on behind the word, in which no other one begins.
        have hs : c :: s = "SSID=".toList ++ rest :=
          (List.append_eq_of_isPrefixOf?_eq_some hafter).symm
        have hlt : rest.length < n := by
          rw [← hn, hs, List.length_append]
          exact Nat.lt_add_of_pos_left (by decide)
        have hlater := ih _ hlt (past ++ "SSID=".toList) rest rfl
        rw [List.append_assoc, Utf8.length_encode_append, List.getLast?_append] at hlater
        have hlength : (encode (past ++ ("SSID=".toList ++ rest))).length
            = (encode past).length + ((encode rest).length + 5) := by
          rw [Utf8.length_encode_append, Utf8.length_encode_append]
          exact congrArg _ (Nat.add_comm 5 _)
        rw [hs, Utf8.encode_append "SSID=".toList,
          Offset.occurrencesFrom_append (by decide), lastAlone, standsAlone_encode,
          Offset.ok_bind, hlater, Offset.ok_bind, searchLast_ssid_append, Option.map_or]
        by_cases hspace : past.getLast?.getD ' ' = ' '
        · rw [hspace, if_pos (by decide), if_pos rfl, Option.map_some, hlength,
            Nat.add_sub_cancel_right]
          rfl
        · have hnot : ¬(past.getLast?.getD ' ' == ' ') = true := by rwa [beq_iff_eq]
          rw [if_neg hnot, if_neg (Ne.symm hspace)]
          rfl
      | none =>
        -- No occurrence begins here, and the character is one of the past from now on.
        have hnot := Text.isPrefixOf?_eq_none_iff.1 hafter
        have hlater := ih s.length (by rw [← hn]; exact Nat.lt_succ_self _) (past ++ [c]) s rfl
        rw [← List.append_cons, Utf8.length_encode_append, List.getLast?_concat,
          Option.getD_some] at hlater
        rw [Offset.occurrencesFrom_cons (by decide) hnot, hlater]
        split_ifs <;> rw [Option.or_none]

/-- What is in front of the first of some words is in front of each of them. -/
lemma beforeAny_isPrefix (hw : w ∈ ws) (front rest : List Char) :
    beforeAny ws (front ++ w ++ rest) <+: front := by
  induction front with
  | nil =>
    rw [List.nil_append]
    cases hs : w ++ rest with
    | nil => exact List.prefix_rfl
    | cons c s =>
      have hany : ws.any (·.isPrefixOf (c :: s)) = true :=
        List.any_eq_true.2 ⟨w, hw, List.isPrefixOf_iff_prefix.2 ⟨rest, hs⟩⟩
      rw [beforeAny, if_pos hany]
  | cons c front ih =>
    rw [List.cons_append, List.cons_append, beforeAny]
    split_ifs
    · exact List.nil_prefix
    · exact List.cons_prefix_cons.2 ⟨rfl, ih⟩

lemma firstPlace_encode (ws : List (List Char)) (s : List Char) :
    firstPlace ws (encode s) = (encode (beforeAny ws s)).length := by
  have hplaces (n : Nat) : n ∈ ws.filterMap (fun w => Offset.find? w (encode s))
      ↔ ∃ w ∈ ws, ∃ parts, Text.find? w s = some parts ∧ (encode parts.1).length = n := by
    simp only [List.mem_filterMap, Offset.find?_encode, Option.map_eq_some_iff]
  have hfound {w : List Char} {parts : List Char × List Char} (hw : w ∈ ws)
      (hfind : Text.find? w s = some parts) :
      beforeAny ws s <+: parts.1 ∧ parts.1 <+: s := by
    have hs : s = parts.1 ++ w ++ parts.2 := Text.eq_of_find? hfind
    have hbegins := beforeAny_isPrefix hw parts.1 parts.2
    rw [← hs] at hbegins
    exact ⟨hbegins, w ++ parts.2, by rw [← List.append_assoc, ← hs]⟩
  -- None of them is in front of the place that the characters give, which is to be the least.
  have hlower : ∀ n ∈ ws.filterMap (fun w => Offset.find? w (encode s)),
      (encode (beforeAny ws s)).length ≤ n := by
    intro n hn
    obtain ⟨w, hw, parts, hfind, rfl⟩ := (hplaces n).1 hn
    exact (Utf8.encode_prefix_iff.2 (hfound hw hfind).1).length_le
  rw [firstPlace]
  rcases beforeAny_cases ws s with ⟨hs, -⟩ | ⟨tail, hs, w, hw, hbegins⟩
  · -- A word that is found then is the empty one, or stands at the end.
    rw [hs] at hlower ⊢
    cases hmin : (ws.filterMap fun w => Offset.find? w (encode s)).min? with
    | none => rfl
    | some n =>
      have hn := (List.min?_eq_some_iff.1 hmin).1
      obtain ⟨w, hw, parts, hfind, hlength⟩ := (hplaces n).1 hn
      have hle := (Utf8.encode_prefix_iff.2 (hfound hw hfind).2).length_le
      rw [Option.getD_some]
      exact Nat.le_antisymm (hlength ▸ hle) (hlower n hn)
  · obtain ⟨rest, rfl⟩ := hbegins
    have hmem : (encode (beforeAny ws s)).length
        ∈ ws.filterMap fun w => Offset.find? w (encode s) := by
      have hoccurs : Text.occurs w s = true :=
        Text.occurs_iff.2 ⟨beforeAny ws s, rest, by rw [List.append_assoc, ← hs]⟩
      obtain ⟨parts, hfind⟩ := Option.isSome_iff_exists.1 hoccurs
      have hshort := (Text.find?_eq_some_iff.1 hfind).2 (beforeAny ws s) rest
        (by rw [List.append_assoc, ← hs])
      have heq := (hfound hw hfind).1.eq_of_length_le hshort
      exact (hplaces _).2 ⟨w, hw, parts, hfind, by rw [heq]⟩
    rw [List.min?_eq_some_iff.2 ⟨hmem, hlower⟩, Option.getD_some]

/-- The network name is cut out of the bytes as it is out of the characters. -/
theorem writtenSsidBytes_encode (payload : List Char) :
    writtenSsidBytes (encode payload) = .ok ((writtenSsid? payload).map encode) := by
  have hlast : lastAlone (encode payload) (Offset.occurrences "SSID=".toList (encode payload))
      = .ok ((Text.searchLast (List.isPrefixOf? " SSID=".toList) (' ' :: payload)).map
          fun rest => (encode payload).length - ((encode rest).length + 5)) :=
    lastAlone_occurrencesFrom [] payload
  rw [writtenSsidBytes, hlast, Offset.ok_bind, writtenSsid?]
  cases hssid : Text.searchLast (List.isPrefixOf? " SSID=".toList) (' ' :: payload) with
  | none => rfl
  | some rest =>
    obtain ⟨front, hs, -⟩ := Text.searchLast_isPrefixOf?_eq_some_iff.1 hssid
    -- The space in front of the key may be the one put before the payload, or one of the payload.
    obtain ⟨past, rfl⟩ : ∃ past, payload = past ++ "SSID=".toList ++ rest := by
      cases front with
      | nil => exact ⟨[], (List.cons.inj hs).2⟩
      | cons c front => exact ⟨front ++ [' '], by simpa using (List.cons.inj hs).2⟩
    have hlength : (encode (past ++ "SSID=".toList ++ rest)).length
        = (encode (past ++ "SSID=".toList)).length + (encode rest).length :=
      Utf8.length_encode_append _ _
    have hplace : (encode (past ++ "SSID=".toList)).length
        = (encode (past ++ "SSID=".toList ++ rest)).length - ((encode rest).length + 5)
          + (encode "SSID=".toList).length := by
      have hpast : (encode (past ++ "SSID=".toList)).length = (encode past).length + 5 :=
        Utf8.length_encode_append _ _
      have hfive : (encode "SSID=".toList).length = 5 := by decide
      omega
    rw [Option.map_some]
    dsimp only
    rw [Offset.sliceFrom_encode hplace, Offset.ok_bind, firstPlace_encode]
    obtain ⟨behind, hbehind⟩ : ∃ behind, rest
        = beforeAny [" BSSID=".toList, " id=".toList, " state=".toList] rest ++ behind := by
      rcases beforeAny_cases [" BSSID=".toList, " id=".toList, " state=".toList] rest with
        ⟨hrest, -⟩ | ⟨behind, hrest, -⟩
      · exact ⟨[], by rw [hrest, List.append_nil]⟩
      · exact ⟨behind, hrest⟩
    have hslice : Offset.sliceTo (encode rest)
        (encode (beforeAny [" BSSID=".toList, " id=".toList, " state=".toList] rest)).length
        = .ok (encode (beforeAny [" BSSID=".toList, " id=".toList, " state=".toList] rest)) := by
      have hto := Offset.sliceTo_encode (t := behind)
        (s := beforeAny [" BSSID=".toList, " id=".toList, " state=".toList] rest) rfl
      rwa [← hbehind] at hto
    rw [hslice]
    rfl

/-! ### The address of a completed connection -/

/-- The address in the phrase that reports a completed connection. -/
def connectedBytes (line : List UInt8) : Except Fault (Option MacAddress) := do
  match ← Offset.behind? "Connection to ".toList line with
  | none => return none
  | some rest =>
    match Offset.find? " completed".toList rest with
    | none => return none
    | some stop => return MacAddress.ofChars? (Utf8.decodeLossy (← Offset.sliceTo rest stop))

/-- The address is cut out of the bytes as it is out of the characters. -/
theorem connectedBytes_encode (line : List Char) :
    connectedBytes (encode line) = .ok (connectedAddress? line) := by
  have haddress : connectedAddress? line
      = (Text.find? "Connection to ".toList line).bind fun parts =>
          (Text.find? " completed".toList parts.2).bind fun parts =>
            MacAddress.ofChars? parts.1 := rfl
  rw [connectedBytes, haddress, Offset.behind?_encode, Offset.ok_bind]
  cases Text.find? "Connection to ".toList line with
  | none => rfl
  | some parts =>
    rw [Option.map_some, Option.bind_some]
    dsimp only
    rw [Offset.find?_encode]
    cases hfind : Text.find? " completed".toList parts.2 with
    | none => rfl
    | some parts' =>
      have hrest : parts.2 = parts'.1 ++ " completed".toList ++ parts'.2 := Text.eq_of_find? hfind
      -- The second phrase is found at the end of a character, so cutting there does not fail.
      have hslice : Offset.sliceTo (encode parts.2) (encode parts'.1).length
          = .ok (encode parts'.1) := by
        rw [hrest, List.append_assoc]
        exact Offset.sliceTo_encode rfl
      rw [Option.map_some, Option.bind_some]
      dsimp only
      rw [hslice, Offset.ok_bind, Utf8.decodeLossy_encode]
      rfl

end Control

/-! ### A value behind a marker -/

namespace Hotspot

/-- What stands between the first occurrence of a marker and the next space. -/
def valueAfterBytes (marker : String) (line : List UInt8) : Except Fault (Option (List UInt8)) := do
  match ← Offset.behind? marker.toList line with
  | none => return none
  | some rest => return some (← Offset.sliceTo rest ((Offset.find? [' '] rest).getD rest.length))

theorem valueAfterBytes_encode (marker : String) (line : List Char) :
    valueAfterBytes marker (encode line) = .ok ((valueAfter? marker line).map encode) := by
  rw [valueAfterBytes, valueAfter?, Offset.behind?_encode, Offset.ok_bind]
  cases Text.find? marker.toList line with
  | none => rfl
  | some parts =>
    rw [Option.map_some]
    dsimp only
    rw [Offset.getD_find?_char, (Offset.slice_before ' ' parts.2).1]
    rfl

end Hotspot

/-! ### Any line -/

/-- No text lets a scanner read beyond its end or inside a character, count too far or go round for
ever: each answers, and as it does for the characters. The texts are a written network name, the
payload of a state change, the report of a connection, a line with a marker, the start of an item,
and a line of items. -/
theorem scanners_at_places (s : List Char) :
    Ssid.decodeBytes (encode s) = .ok (Ssid.decode s)
      ∧ Control.writtenSsidBytes (encode s) = .ok ((Control.writtenSsid? s).map encode)
      ∧ Control.connectedBytes (encode s) = .ok (Control.connectedAddress? s)
      ∧ (∀ marker, Hotspot.valueAfterBytes marker (encode s)
          = .ok ((Hotspot.valueAfter? marker s).map encode))
      ∧ Fields.roundBytes (encode s)
          = .ok ((Fields.item s).1.map Fields.encodeField, encode (Fields.item s).2)
      ∧ Fields.ofBytes (encode s) = .ok ((Fields.ofLine s).items.map Fields.encodeField) :=
  ⟨Ssid.decodeBytes_encode s, Control.writtenSsidBytes_encode s, Control.connectedBytes_encode s,
    fun marker => Hotspot.valueAfterBytes_encode marker s, Fields.roundBytes_encode s,
    Fields.ofBytes_encode s⟩

end SupplicantWatch
