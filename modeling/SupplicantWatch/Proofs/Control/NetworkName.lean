import Mathlib.Tactic.Common
import SupplicantWatch.Proofs.Classifier.Judgement
import SupplicantWatch.Proofs.Ssid.Escape
import SupplicantWatch.Proofs.Text.Decimal
import SupplicantWatch.Proofs.Text.Decoding
import SupplicantWatch.Proofs.Text.Split

/-!
# What a network name does to an event

A network name is chosen by whoever runs the access point, and its spaces are written as spaces. In
a name that has none of the keys of a state change behind a space, nothing is taken for a field. A
name that has one is cut there. Main statement: `verdict_of_name`.
-/

namespace SupplicantWatch.Control

variable {key : String} {name : List UInt8} {payload word s : List Char}

/-! ### Keys in a name -/

/-- A key of a field behind a space. -/
def spacedKey (key : String) : List Char :=
  ' ' :: (key.toList ++ ['='])

/-- A network name has a key behind a space. -/
def Mentions (key : String) (name : List UInt8) : Prop :=
  Utf8.encode (spacedKey key) <:+: name

instance (key : String) (name : List UInt8) : Decidable (Mentions key name) :=
  inferInstanceAs (Decidable (_ <:+: _))

/-- The keys of the fields of a state change. -/
def stateKeys : List String :=
  ["SSID", "BSSID", "id", "state"]

lemma mentions_iff (h : key ∈ stateKeys) :
    Mentions key name ↔ spacedKey key <:+: Ssid.escape name := by
  have hall : ∀ key ∈ stateKeys,
      Ssid.escape (Utf8.encode (spacedKey key)) = spacedKey key ∧ '\\' ∉ key.toList ++ ['='] := by
    decide +kernel
  exact (Ssid.infix_escape_iff (hall key h).1 (hall key h).2).symm

/-! ### The values of a key -/

/-- A text that has a key neither at its start nor behind a space gives it no value. -/
lemma valuesOf_eq_nil (hstart : ¬key.toList ++ ['='] <+: payload)
    (hinner : ¬spacedKey key <:+: payload) : valuesOf key payload = [] := by
  refine Text.filterMap_splitOn_eq_nil ?_ hstart hinner
  intro word value hword
  split at hword
  · next key' value' hsplit =>
    split_ifs at hword with hkey
    have hwhole : ['='].intercalate (word.splitOn '=') = word := List.intercalate_splitOn '='
    rw [hsplit, hkey, List.intercalate_cons_cons, List.intercalate_singleton] at hwhole
    exact ⟨value', hwhole⟩
  · cases hword

lemma valuesOf_append (h : ' ' ∉ word) (key : String) (payload : List Char) :
    valuesOf key (word ++ ' ' :: payload) = valuesOf key word ++ valuesOf key payload := by
  rw [valuesOf, valuesOf, valuesOf, List.splitOn_append_cons_self_of_not_mem h,
    List.splitOn_eq_singleton h, ← List.filterMap_append]
  rfl

/-- A word that assigns a value to a key gives that key that value, and no other key any. -/
lemma valuesOf_assignment {key' value : List Char} (hk : ' ' ∉ key' ∧ '=' ∉ key')
    (hv : ' ' ∉ value ∧ '=' ∉ value) :
    valuesOf key (key' ++ '=' :: value) = if key' = key.toList then [value] else [] := by
  have hspace : ' ' ∉ key' ++ '=' :: value := by
    simp [hk.1, hv.1]
  have hword : List.splitOn '=' (key' ++ '=' :: value) = [key', value] := by
    rw [List.splitOn_append_cons_self_of_not_mem hk.2, List.splitOn_eq_singleton hv.2]
  rw [valuesOf, List.splitOn_eq_singleton hspace]
  simp only [List.filterMap_cons, List.filterMap_nil, hword]
  split_ifs <;> rfl

/-! ### A state change -/

/-- The payload of a state change as the supplicant writes it. -/
def statePayload (n k : Nat) (bssid : MacAddress) (name : List UInt8) : List Char :=
  ("id=" ++ toString n ++ " state=" ++ toString k ++ " BSSID=" ++ bssid.render ++ " SSID=").toList
    ++ Ssid.escape name

variable {n k : Nat} {bssid : MacAddress}

lemma int?_networkId (hn : n ≤ 2147483647) : Text.int? 32 (toString n).toList = some (n : Int) := by
  apply Text.int?_toString
  exact Nat.lt_of_le_of_lt hn (by decide)

lemma notMem_render (bssid : MacAddress) :
    ' ' ∉ bssid.render.toList ∧ '=' ∉ bssid.render.toList := by
  have hbyte : ∀ b : UInt8, ' ' ∉ Text.hexByte b ∧ '=' ∉ Text.hexByte b := by
    apply Ssid.forall_byte
    decide +kernel
  rw [MacAddress.render, String.toList_ofList, MacAddress.toChars, MacAddress.octets]
  simp [List.intercalate, hbyte]

/-- The values of a key are those in the fields before the name and those in the name. -/
lemma valuesOf_statePayload (key : String) :
    valuesOf key (statePayload n k bssid name)
      = (if "id".toList = key.toList then [(toString n).toList] else [])
        ++ ((if "state".toList = key.toList then [(toString k).toList] else [])
        ++ ((if "BSSID".toList = key.toList then [bssid.render.toList] else [])
        ++ valuesOf key ("SSID=".toList ++ Ssid.escape name))) := by
  have hdigits (n : Nat) : ' ' ∉ (toString n).toList ∧ '=' ∉ (toString n).toList :=
    ⟨Text.notMem_toString (by decide), Text.notMem_toString (by decide)⟩
  have hpayload : statePayload n k bssid name
      = ("id".toList ++ '=' :: (toString n).toList) ++ ' ' ::
        (("state".toList ++ '=' :: (toString k).toList) ++ ' ' ::
        (("BSSID".toList ++ '=' :: bssid.render.toList) ++ ' ' ::
        ("SSID=".toList ++ Ssid.escape name))) := by
    simp [statePayload]
  have hspace {key' : String} {value : List Char} (hk : ' ' ∉ key'.toList) (hv : ' ' ∉ value) :
      ' ' ∉ key'.toList ++ '=' :: value := by
    simp [hk, hv]
  rw [hpayload, valuesOf_append (hspace (by decide) (hdigits n).1),
    valuesOf_append (hspace (by decide) (hdigits k).1),
    valuesOf_append (hspace (by decide) (notMem_render bssid).1),
    valuesOf_assignment (by decide) (hdigits n), valuesOf_assignment (by decide) (hdigits k),
    valuesOf_assignment (by decide) (notMem_render bssid)]

/-- A name without a key gives that key no value. -/
lemma valuesOf_name (hkey : key ∈ ["BSSID", "id", "state"]) (h : ¬Mentions key name) :
    valuesOf key ("SSID=".toList ++ Ssid.escape name) = [] := by
  have hstart : ∀ key ∈ ["BSSID", "id", "state"], ∀ s,
      ¬key.toList ++ ['='] <+: "SSID=".toList ++ s := by
    simp
  have hmem : key ∈ stateKeys := List.mem_cons_of_mem "SSID" hkey
  apply valuesOf_eq_nil (hstart key hkey _)
  intro hinner
  apply h
  rw [mentions_iff hmem]
  exact Text.infix_of_infix_append (by decide) hinner

/-! ### The name in a state change -/

lemma beforeAny_cases (ws : List (List Char)) (s : List Char) :
    (beforeAny ws s = s ∧ ∀ w ∈ ws, w ≠ [] → ¬w <:+: s)
      ∨ ∃ tail, s = beforeAny ws s ++ tail ∧ ∃ w ∈ ws, w <+: tail := by
  induction s with
  | nil =>
    left
    refine ⟨rfl, ?_⟩
    intro w hw hne hinfix
    exact hne (List.infix_nil.1 hinfix)
  | cons c s ih =>
    rw [beforeAny]
    split_ifs with hany
    · right
      obtain ⟨w, hw, hprefix⟩ := List.any_eq_true.1 hany
      exact ⟨c :: s, rfl, w, hw, List.isPrefixOf_iff_prefix.1 hprefix⟩
    · rcases ih with ⟨hs, hnone⟩ | ⟨tail, hs, hw⟩
      · left
        refine ⟨by rw [hs], ?_⟩
        intro w hw hne hinfix
        rcases List.infix_cons_iff.1 hinfix with hprefix | hinfix
        · exact hany (List.any_eq_true.2 ⟨w, hw, List.isPrefixOf_iff_prefix.2 hprefix⟩)
        · exact hnone w hw hne hinfix
      · right
        exact ⟨tail, by rw [List.cons_append, ← hs], hw⟩

/-- The number of characters of the text of a name. -/
def textLength (name : List UInt8) : Nat :=
  (Utf8.decodeLossy name).length

/-- A part of a name behind an ASCII byte has a shorter text than the name. -/
lemma textLength_lt_append_cons {a : UInt8} (ha : a.toNat < 0x80) (name₁ name₂ : List UInt8) :
    textLength name₂ < textLength (name₁ ++ a :: name₂) := by
  rw [textLength, textLength, Utf8.decodeLossy_append_cons ha, List.length_append, List.length_cons]
  omega

/-- A part of a name in front of an ASCII byte has a shorter text than the name. -/
lemma textLength_lt_append_cons' {a : UInt8} (ha : a.toNat < 0x80) (name₁ name₂ : List UInt8) :
    textLength name₁ < textLength (name₁ ++ a :: name₂) := by
  rw [textLength, textLength, Utf8.decodeLossy_append_cons ha]
  simp

lemma append_assignment (key : String) (s : List Char) :
    spacedKey key ++ s = ' ' :: (key.toList ++ '=' :: s) := by
  simp [spacedKey]

/-- What a written name has behind a key is itself the writing of a part of the name. -/
lemma exists_of_escape_eq_append_key {before rest : List Char}
    (h : Ssid.escape name = before ++ spacedKey "SSID" ++ rest) :
    ∃ behind, rest = Ssid.escape behind ∧ textLength behind < textLength name := by
  rw [List.append_assoc, append_assignment] at h
  obtain ⟨name₁, name₂, rfl, -, h₂⟩ := Ssid.exists_of_escape_eq_append_space h
  rw [← List.singleton_append, ← List.append_assoc] at h₂
  obtain ⟨behind, rfl, rfl⟩ := Ssid.exists_of_escape_eq_append (by decide) h₂
  have hbytes : Utf8.encode ("SSID".toList ++ ['=']) = Utf8.encode "SSID".toList ++ [0x3d] := by
    decide
  have hparts : name₁ ++ 0x20 :: (Utf8.encode ("SSID".toList ++ ['=']) ++ behind)
      = (name₁ ++ 0x20 :: Utf8.encode "SSID".toList) ++ 0x3d :: behind := by
    rw [hbytes]
    simp only [List.append_assoc, List.cons_append, List.nil_append]
  refine ⟨behind, rfl, ?_⟩
  rw [hparts]
  exact textLength_lt_append_cons (by decide) _ behind

/-- What the last `SSID=` of a state change begins is the written name, or what the name has behind
a last `SSID=` of its own. -/
lemma searchLast_statePayload (n k : Nat) (bssid : MacAddress) (name : List UInt8) :
    ∃ rest, Text.searchLast (List.isPrefixOf? (spacedKey "SSID"))
        (' ' :: statePayload n k bssid name) = some (Ssid.escape rest)
      ∧ (rest = name ∧ ¬Mentions "SSID" name
        ∨ Mentions "SSID" name ∧ textLength rest < textLength name) := by
  have hmentions : Mentions "SSID" name ↔ spacedKey "SSID" <:+: Ssid.escape name :=
    mentions_iff List.mem_cons_self
  obtain ⟨front, hfront⟩ : ∃ front, ' ' :: statePayload n k bssid name
      = front ++ spacedKey "SSID" ++ Ssid.escape name :=
    ⟨(" id=" ++ toString n ++ " state=" ++ toString k ++ " BSSID=" ++ bssid.render).toList,
      by simp [statePayload, spacedKey]⟩
  rw [hfront]
  cases hsearch : Text.searchLast (List.isPrefixOf? (spacedKey "SSID"))
      (front ++ spacedKey "SSID" ++ Ssid.escape name) with
  | none =>
    exact absurd rfl (Text.searchLast_isPrefixOf?_eq_none_iff.1 hsearch front (Ssid.escape name))
  | some rest =>
    obtain ⟨front', heq, hlast⟩ := Text.searchLast_isPrefixOf?_eq_some_iff.1 hsearch
    have hle := hlast front (Ssid.escape name) rfl
    rw [List.append_assoc, List.append_assoc] at heq
    -- The last key is at the one before the name or behind it.
    obtain ⟨tail, rfl⟩ : ∃ tail, front' = front ++ tail := by
      rcases List.append_eq_append_iff.1 heq with ⟨tail, h, -⟩ | ⟨tail, h, -⟩
      · exact ⟨tail, h⟩
      · rw [h, List.length_append] at hle
        have htail : tail = [] := List.length_eq_zero_iff.1 (by omega)
        exact ⟨[], by rw [h, htail, List.append_nil, List.append_nil]⟩
    rw [List.append_assoc, List.append_cancel_left_eq] at heq
    cases tail with
    | nil =>
      -- The last key is the one before the name, so the name has none.
      rw [List.nil_append, List.append_cancel_left_eq] at heq
      refine ⟨name, by rw [heq], .inl ⟨rfl, ?_⟩⟩
      rw [hmentions]
      rintro ⟨before, after, hname⟩
      have hlen := hlast (front ++ spacedKey "SSID" ++ before) after (by simp [← hname])
      simp only [spacedKey, List.length_append, List.length_cons] at hlen
      omega
    | cons c tail =>
      -- The last key is in the name, behind a space of it.
      rw [List.cons_append, append_assignment, append_assignment] at heq
      obtain ⟨rfl, htail⟩ := List.cons.inj heq
      have hcons : ("SSID".toList ++ ['=']) ++ Ssid.escape name
          = tail ++ ' ' :: ("SSID".toList ++ '=' :: rest) := by
        rw [← htail, List.append_assoc, List.singleton_append]
      obtain ⟨before, -, hname⟩ := Text.exists_of_append_eq_append_cons (by decide) hcons
      rw [← append_assignment, ← List.append_assoc] at hname
      obtain ⟨behind, rfl, hlt⟩ := exists_of_escape_eq_append_key hname
      refine ⟨behind, rfl, .inr ⟨?_, hlt⟩⟩
      rw [hmentions, hname]
      exact List.infix_append before _ (Ssid.escape behind)

/-- Of a written name what stands before the first of some keys is written with the name, or with
what the name has before a space. -/
lemma beforeAny_escape (name : List UInt8) :
    ∃ shown, beforeAny (["BSSID", "id", "state"].map spacedKey) (Ssid.escape name)
        = Ssid.escape shown
      ∧ (shown = name ∧ (∀ key ∈ ["BSSID", "id", "state"], ¬Mentions key name)
        ∨ (∃ key ∈ ["BSSID", "id", "state"], Mentions key name)
          ∧ textLength shown < textLength name) := by
  have hmem {key : String} (h : key ∈ ["BSSID", "id", "state"]) : key ∈ stateKeys :=
    List.mem_cons_of_mem "SSID" h
  rcases beforeAny_cases (["BSSID", "id", "state"].map spacedKey) (Ssid.escape name) with
    ⟨hall, hnone⟩ | ⟨tail, htail, w, hw, hprefix⟩
  · refine ⟨name, hall, .inl ⟨rfl, ?_⟩⟩
    intro key hkey
    rw [mentions_iff (hmem hkey)]
    exact hnone _ (List.mem_map_of_mem hkey) (List.cons_ne_nil _ _)
  · obtain ⟨key, hkey, rfl⟩ := List.mem_map.1 hw
    obtain ⟨rest, rfl⟩ := hprefix
    have hmention : Mentions key name := by
      rw [mentions_iff (hmem hkey), htail, ← List.append_assoc]
      exact List.infix_append _ _ rest
    rw [append_assignment] at htail
    obtain ⟨name₁, name₂, rfl, h₁, -⟩ := Ssid.exists_of_escape_eq_append_space htail
    exact ⟨name₁, h₁.symm, .inr ⟨⟨key, hkey, hmention⟩,
      textLength_lt_append_cons' (by decide) name₁ name₂⟩⟩

/-- The name that is shown is the name exactly if that has no key. -/
lemma decode_writtenSsid? (n k : Nat) (bssid : MacAddress) (name : List UInt8) :
    (writtenSsid? (statePayload n k bssid name)).map Ssid.decode
        = some (String.ofList (Utf8.decodeLossy name))
      ↔ ∀ key ∈ stateKeys, ¬Mentions key name := by
  obtain ⟨rest, hrest, hname⟩ := searchLast_statePayload n k bssid name
  obtain ⟨shown, hshown, hpart⟩ := beforeAny_escape rest
  have hwritten : writtenSsid? (statePayload n k bssid name) = some (Ssid.escape shown) := by
    have hkeys : [" BSSID=".toList, " id=".toList, " state=".toList]
        = ["BSSID", "id", "state"].map spacedKey := by
      decide
    have hkey : " SSID=".toList = spacedKey "SSID" := by
      decide
    rw [writtenSsid?, hkeys, hkey, hrest, Option.map_some, hshown]
  rw [hwritten, Option.map_some, Ssid.decode_escape, Option.some.injEq, String.ofList_inj]
  rw [stateKeys, List.forall_mem_cons]
  -- A name with a key is cut to a shorter text, so what is shown is not the name.
  rcases hname with ⟨rfl, hssid⟩ | ⟨hssid, hlt⟩
  · rcases hpart with ⟨rfl, hnone⟩ | ⟨⟨key, hkey, hmention⟩, hlt⟩
    · exact iff_of_true rfl ⟨hssid, hnone⟩
    · refine iff_of_false ?_ ?_
      · intro h
        exact Nat.ne_of_lt hlt (congrArg List.length h)
      · rintro ⟨-, hnone⟩
        exact hnone key hkey hmention
  · refine iff_of_false ?_ ?_
    · intro h
      have hle : textLength shown ≤ textLength rest := by
        rcases hpart with ⟨rfl, -⟩ | ⟨-, hlt'⟩
        · exact Nat.le_refl _
        · exact Nat.le_of_lt hlt'
      exact Nat.ne_of_lt (Nat.lt_of_le_of_lt hle hlt) (congrArg List.length h)
    · rintro ⟨hnone, -⟩
      exact hnone hssid

/-- A state change is read from its payload, with those fields as they were written whose keys are
not in the name, and with the name if that has no key at all. -/
lemma stateChange?_statePayload (hn : n ≤ 2147483647) (hk : k ≤ 12) (bssid : MacAddress)
    (name : List UInt8) :
    ∃ change, stateChange? (statePayload n k bssid name) = some change
      ∧ (¬Mentions "id" name → change.networkId = n)
      ∧ (¬Mentions "state" name → change.state = .ofIndex k)
      ∧ (¬Mentions "BSSID" name → change.bssid = some bssid.render)
      ∧ (change.ssid = some (String.ofList (Utf8.decodeLossy name))
        ↔ ∀ key ∈ stateKeys, ¬Mentions key name) := by
  have hstate : Text.int? 64 (toString k).toList = some (k : Int) := by
    apply Text.int?_toString
    exact Nat.lt_of_le_of_lt hk (by decide)
  -- A state in the name overrides the one that was written, so it is kept apart from that.
  obtain ⟨inName, hinName⟩ : ∃ values,
      valuesOf "state" ("SSID=".toList ++ Ssid.escape name) = values := ⟨_, rfl⟩
  have hstates : (valuesOf "state" (statePayload n k bssid name)).filterMap (Text.int? 64)
      = (k : Int) :: inName.filterMap (Text.int? 64) := by
    rw [valuesOf_statePayload, if_neg (by decide), if_pos rfl, if_neg (by decide), hinName,
      List.nil_append, List.nil_append, List.singleton_append, List.filterMap_cons, hstate]
  refine ⟨{
      networkId := ((valuesOf "id" (statePayload n k bssid name)).filterMap
        (Text.int? 32)).getLast?.getD (-1)
      ssid := (writtenSsid? (statePayload n k bssid name)).map Ssid.decode
      bssid := (valuesOf "BSSID" (statePayload n k bssid name)).getLast?.map String.ofList
      state := .ofIndex ((inName.filterMap (Text.int? 64)).getLast?.getD k) }, ?_, ?_, ?_, ?_, ?_⟩
  · rw [stateChange?, hstates, List.getLast?_cons]
    rfl
  · intro h
    dsimp only
    rw [valuesOf_statePayload, if_pos rfl, if_neg (by decide), if_neg (by decide),
      valuesOf_name (by decide) h, List.append_nil, List.append_nil, List.append_nil,
      List.filterMap_cons, int?_networkId hn]
    rfl
  · intro h
    rw [← hinName, valuesOf_name (by decide) h]
    rfl
  · intro h
    dsimp only
    rw [valuesOf_statePayload, if_neg (by decide), if_neg (by decide), if_pos rfl,
      valuesOf_name (by decide) h, List.append_nil, List.nil_append, List.nil_append,
      List.getLast?_singleton, Option.map_some, String.ofList_toList]
  · dsimp only
    exact decode_writtenSsid? n k bssid name

/-! ### A disabled network -/

/-- The details of a disabled network as the supplicant writes them. -/
def disabledDetail (n : Nat) (name : List UInt8) : List Char :=
  ("id=" ++ toString n ++ " ssid=\x22").toList
    ++ (Ssid.escape name ++ "\x22 auth_failures=1".toList)

/-- The identifier of a disabled network is that which was written, unless the name has one. -/
lemma detailId_disabledDetail (hn : n ≤ 2147483647) (h : ¬Mentions "id" name) :
    detailId (disabledDetail n name) = n := by
  have hdetail : disabledDetail n name
      = ("id=".toList ++ (toString n).toList) ++ ' ' ::
        ("ssid=\x22".toList ++ (Ssid.escape name ++ '\x22' :: " auth_failures=1".toList)) := by
    simp [disabledDetail]
  have hspace : ' ' ∉ "id=".toList ++ (toString n).toList := by
    rw [List.mem_append, not_or]
    exact ⟨by decide, Text.notMem_toString (by decide)⟩
  -- The quoted name gives no second identifier: the quotes and the count of failures have none.
  have hnone : (List.splitOn ' ' ("ssid=\x22".toList
      ++ (Ssid.escape name ++ '\x22' :: " auth_failures=1".toList))).filterMap
        (List.isPrefixOf? "id=".toList) = [] := by
    apply Text.filterMap_splitOn_eq_nil (w := "id=".toList)
    · intro piece rest hpiece
      exact ⟨rest, List.append_eq_of_isPrefixOf?_eq_some hpiece⟩
    · simp
    · intro hinner
      have hname := Text.infix_of_infix_append (by decide) hinner
      rcases Text.infix_of_infix_append_cons (by decide) (List.cons_ne_nil _ _) hname with hin | hin
      · apply h
        rw [mentions_iff (by decide)]
        exact hin
      · simp [List.infix_cons_iff] at hin
  rw [detailId, hdetail, List.splitOn_append_cons_self_of_not_mem hspace, List.filterMap_cons,
    Text.isPrefixOf?_append, hnone]
  simp only [List.getLast?_singleton]
  rw [Text.takeWhile_isDigit_toString, int?_networkId hn]
  rfl

/-! ### Lines -/

/-- A control event as the supplicant writes it. -/
def eventText (event : String) (payload : List Char) : List Char :=
  mark ++ event.toList ++ ' ' :: payload

variable {event : String} {kind : Kind}

lemma space_notMem_of_mem_table (h : (event, kind) ∈ Kind.table) : ' ' ∉ mark ++ event.toList := by
  have hall : ∀ row ∈ Kind.table, ' ' ∉ mark ++ row.1.toList := by
    decide
  exact hall (event, kind) h

lemma cut?_eventText (h : (event, kind) ∈ Kind.table) (payload : List Char) :
    Text.cut? ' ' (eventText event payload) = some (mark ++ event.toList, payload) :=
  Text.cut?_eq_some_iff.2 ⟨rfl, space_notMem_of_mem_table h⟩

lemma kind?_eventText (h : (event, kind) ∈ Kind.table) (payload : List Char) :
    kind? (eventText event payload) = some kind := by
  have hspace := space_notMem_of_mem_table h
  rw [List.mem_append, not_or] at hspace
  rw [kind?_eq_some_iff h, nameOf, eventText, List.append_assoc, List.drop_left, Text.before,
    List.takeWhile_append_of_pos]
  · simp
  · intro c hc
    rw [bne_iff_ne]
    rintro rfl
    exact hspace.2 hc

/-- A control event is read by its kind, without any question. -/
lemma verdict_eventText (c : Classifier) (i : String) (h : (event, kind) ∈ Kind.table)
    (payload : List Char) :
    c.verdict i (eventText event payload) = .done (kind.verdict (eventText event payload)) := by
  have hfamily : Family.of? (eventText event payload) = some .control := by
    rw [Family.of?_eq_control_iff, eventText, List.append_assoc]
    exact List.prefix_append mark _
  have hverdict : verdict (eventText event payload) = kind.verdict (eventText event payload) := by
    rw [verdict, kind?_eventText h]
  rw [← hverdict, Classifier.verdict, hfamily]
  rfl

/-- Whatever its name is, a state change of a network is an event. Each field is what was written
unless the name has its key behind a space, and the name is shown as it is exactly if it has none of
the keys. The identifier of a network that is disabled or enabled again is what was written unless
the name has an `id=` behind a space. -/
theorem verdict_of_name (c : Classifier) (i : String) {n k : Nat} (hn : n ≤ 2147483647)
    (hk : k ≤ 12) (bssid : MacAddress) (name : List UInt8) :
    (∃ change, c.verdict i (eventText "STATE-CHANGE" (statePayload n k bssid name))
        = .done (.event (.supplicantStateChange change))
      ∧ (¬Mentions "id" name → change.networkId = n)
      ∧ (¬Mentions "state" name → change.state = .ofIndex k)
      ∧ (¬Mentions "BSSID" name → change.bssid = some bssid.render)
      ∧ (change.ssid = some (String.ofList (Utf8.decodeLossy name))
        ↔ ∀ key ∈ stateKeys, ¬Mentions key name))
    ∧ ∃ id id' detail, detail = some (String.ofList (disabledDetail n name))
      ∧ c.verdict i (eventText "SSID-TEMP-DISABLED" (disabledDetail n name))
        = .done (.event (.ssidTempDisabled id detail))
      ∧ c.verdict i (eventText "SSID-REENABLED" (disabledDetail n name))
        = .done (.event (.ssidReenabled id' detail))
      ∧ (¬Mentions "id" name → id = n ∧ id' = n) := by
  constructor
  · have hmem : ("STATE-CHANGE", Kind.stateChange) ∈ Kind.table := by decide
    obtain ⟨change, hchange, hfields⟩ := stateChange?_statePayload hn hk bssid name
    refine ⟨change, ?_, hfields⟩
    rw [verdict_eventText c i hmem, Kind.verdict, afterSpace, cut?_eventText hmem,
      Option.map_some, Option.getD_some, hchange]
  · have hmem : ("SSID-TEMP-DISABLED", Kind.tempDisabled) ∈ Kind.table := by decide
    have hmem' : ("SSID-REENABLED", Kind.reenabled) ∈ Kind.table := by decide
    refine ⟨detailId (disabledDetail n name), detailId (disabledDetail n name), _, rfl, ?_, ?_, ?_⟩
    · rw [verdict_eventText c i hmem, Kind.verdict, disabledEvent, cut?_eventText hmem]
    · rw [verdict_eventText c i hmem', Kind.verdict, disabledEvent, cut?_eventText hmem']
    · intro h
      exact ⟨detailId_disabledDetail hn h, detailId_disabledDetail hn h⟩

/-- Spaces, equals signs and a byte that is no UTF-8 in a name change nothing else. -/
theorem verdict_of_name_notUtf8 :
    ∃ bssid name change id id' detail, bssid = ⟨0x00, 0x1e, 0x58, 0xec, 0xd5, 0x6d⟩
      ∧ name = Utf8.encode "a state id =7 x=y".toList ++ [0xff]
      ∧ 2147483647 ≤ 2147483647 ∧ 9 ≤ 12
      ∧ (Classifier.new {}).verdict "wlan0"
          (eventText "STATE-CHANGE" (statePayload 2147483647 9 bssid name))
        = .done (.event (.supplicantStateChange change))
      ∧ change.networkId = 2147483647 ∧ change.state = .completed
      ∧ change.bssid = some bssid.render ∧ change.ssid = some "a state id =7 x=y\ufffd"
      ∧ (Classifier.new {}).verdict "wlan0"
          (eventText "SSID-TEMP-DISABLED" (disabledDetail 2147483647 name))
        = .done (.event (.ssidTempDisabled id detail))
      ∧ (Classifier.new {}).verdict "wlan0"
          (eventText "SSID-REENABLED" (disabledDetail 2147483647 name))
        = .done (.event (.ssidReenabled id' detail))
      ∧ id = 2147483647 ∧ id' = 2147483647 := by
  have hnone : ∀ key ∈ stateKeys,
      ¬Mentions key (Utf8.encode "a state id =7 x=y".toList ++ [0xff]) := by
    decide +kernel
  have hid := hnone "id" (by decide)
  have hname : Utf8.decodeLossy (Utf8.encode "a state id =7 x=y".toList ++ [0xff])
      = "a state id =7 x=y\ufffd".toList := by
    decide +kernel
  obtain ⟨⟨change, hverdict, hnetwork, hstate, hbssid, hssid⟩, id, id', detail, -, hdisabled,
      hreenabled, hboth⟩ :=
    verdict_of_name (.new {}) "wlan0" (Nat.le_refl 2147483647) (by decide : 9 ≤ 12)
      ⟨0x00, 0x1e, 0x58, 0xec, 0xd5, 0x6d⟩ (Utf8.encode "a state id =7 x=y".toList ++ [0xff])
  have hshown := hssid.2 hnone
  rw [hname, String.ofList_toList] at hshown
  exact ⟨_, _, change, id, id', detail, rfl, rfl, Nat.le_refl _, by decide, hverdict, hnetwork hid,
    hstate (hnone "state" (by decide)), hbssid (hnone "BSSID" (by decide)), hshown, hdisabled,
    hreenabled, (hboth hid).1, (hboth hid).2⟩

/-- A key behind a space in the name overrides what was written, and the name is cut there. -/
theorem verdict_of_name_withKey :
    ∃ bssid name, bssid = ⟨0x00, 0x1e, 0x58, 0xec, 0xd5, 0x6d⟩
      ∧ name = Utf8.encode "x id=7".toList
      ∧ verdict (eventText "STATE-CHANGE" (statePayload 1 9 bssid name))
        = .event (.supplicantStateChange ⟨7, some "x", some "00:1e:58:ec:d5:6d", .completed⟩)
      ∧ verdict (eventText "STATE-CHANGE" (statePayload 1 9 bssid name))
        ≠ .event (.supplicantStateChange ⟨1, some (String.ofList (Utf8.decodeLossy name)),
          some bssid.render, .ofIndex 9⟩)
      ∧ detailId (disabledDetail 1 name) = 7 := by
  refine ⟨_, _, rfl, rfl, ?_, ?_, ?_⟩
  · decide +kernel
  · decide +kernel
  · decide +kernel

end SupplicantWatch.Control
