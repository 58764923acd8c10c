import Mathlib.Tactic.Common
import SupplicantWatch.Proofs.Control.NetworkName

/-!
# The order of the items of a state change

A state change says four things, each as a key with a value, and in any order: where the name has
none of the keys behind a space, the words of the name are no fields, and the name ends where the
next item begins. Main statement: `stateChange?_of_perm`.
-/

namespace SupplicantWatch.Control

open Text (assignment)

variable {key : String} {n k : Int} {bssid ssid item value : List Char}
  {items after : List (List Char)}

/-! ### Items -/

/-- What a state change says, item by item. -/
def stateItems (n k : Int) (bssid ssid : List Char) : List (List Char) :=
  [assignment "id" (toString n).toList, assignment "state" (toString k).toList,
    assignment "BSSID" bssid, assignment "SSID" ssid]

/-- An item of a state change other than the name. -/
structure IsField (item : List Char) : Prop where
  space_notMem : ' ' ∉ item
  starts : ∃ key ∈ ["BSSID", "id", "state"], key.toList ++ ['='] <+: item

lemma isField_assignment (hkey : key ∈ ["BSSID", "id", "state"]) (hvalue : ' ' ∉ value) :
    IsField (assignment key value) where
  space_notMem := by
    have hspace : ∀ key ∈ ["BSSID", "id", "state"], ' ' ∉ key.toList := by decide
    simp [assignment, hspace key hkey, hvalue]
  starts := ⟨key, hkey, value, by rw [assignment, List.append_assoc, List.singleton_append]⟩

lemma notMem_number (n : Int) : ' ' ∉ (toString n).toList ∧ '=' ∉ (toString n).toList :=
  ⟨Text.notMem_toString_int (by decide) (by decide) n,
    Text.notMem_toString_int (by decide) (by decide) n⟩

/-- The items around the name are fields. -/
lemma isField_of_perm {before : List (List Char)} (hbssid : ' ' ∉ bssid)
    (h : (before ++ assignment "SSID" ssid :: after).Perm (stateItems n k bssid ssid))
    (hitem : item ∈ before ++ after) : IsField item := by
  have hlast : (stateItems n k bssid ssid).Perm (assignment "SSID" ssid ::
      [assignment "id" (toString n).toList, assignment "state" (toString k).toList,
        assignment "BSSID" bssid]) :=
    List.perm_append_singleton (assignment "SSID" ssid) [_, _, _]
  -- With the name taken out on both sides, the other items are the other three in some order.
  have hothers := (List.perm_middle.symm.trans (h.trans hlast)).cons_inv
  have hmem := hothers.mem_iff.1 hitem
  simp only [List.mem_cons, List.not_mem_nil, or_false] at hmem
  rcases hmem with rfl | rfl | rfl
  · exact isField_assignment (by decide) (notMem_number n).1
  · exact isField_assignment (by decide) (notMem_number k).1
  · exact isField_assignment (by decide) hbssid

/-! ### The values of the keys -/

lemma valuesOf_intercalate (key : String) (items : List (List Char)) :
    valuesOf key ([' '].intercalate items) = items.flatMap (valuesOf key) := by
  cases items with
  | nil => rfl
  | cons item items =>
    rw [valuesOf, Text.splitOn_intercalate_eq_flatMap (List.cons_ne_nil item items),
      List.filterMap_flatMap]
    rfl

/-- The values of a key other than that of the name are those that the other three items give. -/
lemma flatMap_valuesOf_stateItems (n k : Int) (hkey : key ∈ ["BSSID", "id", "state"])
    (hbssid : ' ' ∉ bssid ∧ '=' ∉ bssid) (hssid : ¬spacedKey key <:+: ssid) :
    (stateItems n k bssid ssid).flatMap (valuesOf key)
      = (if "id".toList = key.toList then [(toString n).toList] else [])
        ++ ((if "state".toList = key.toList then [(toString k).toList] else [])
        ++ (if "BSSID".toList = key.toList then [bssid] else [])) := by
  have hstart : ∀ key ∈ ["BSSID", "id", "state"], ∀ s,
      ¬key.toList ++ ['='] <+: assignment "SSID" s := by
    simp [assignment]
  have hname : valuesOf key (assignment "SSID" ssid) = [] := by
    apply valuesOf_eq_nil (hstart key hkey ssid)
    intro hinner
    have hparts : assignment "SSID" ssid = "SSID=".toList ++ ssid := rfl
    rw [hparts] at hinner
    exact hssid (Text.infix_of_infix_append (by decide) hinner)
  simp only [stateItems, List.flatMap_cons, List.flatMap_nil, List.append_nil, hname]
  rw [assignment, assignment, assignment, valuesOf_assignment (by decide) (notMem_number n),
    valuesOf_assignment (by decide) (notMem_number k), valuesOf_assignment (by decide) hbssid]

/-- A key that has one value has it in any order of the items. -/
lemma valuesOf_of_perm (h : items.Perm (stateItems n k bssid ssid))
    (hvalue : (stateItems n k bssid ssid).flatMap (valuesOf key) = [value]) :
    valuesOf key ([' '].intercalate items) = [value] := by
  have hperm := h.flatMap_right (valuesOf key)
  rw [hvalue] at hperm
  rw [valuesOf_intercalate]
  exact List.perm_singleton.1 hperm

/-! ### The name -/

/-- The name is not taken for a second key, and neither are the fields behind it. -/
lemma not_infix_name (hssid : ¬spacedKey "SSID" <:+: ssid) (hafter : ∀ item ∈ after, IsField item) :
    ¬spacedKey "SSID" <:+: "SSID".toList ++ ['='] ++ (ssid ++ after.flatMap (' ' :: ·)) := by
  intro hinner
  rcases Text.infix_append_flatMap (by decide) (fun item hitem => (hafter item hitem).space_notMem)
    (Text.infix_of_infix_append (by decide) hinner) with hin | ⟨item, hitem, hprefix⟩
  · exact hssid hin
  · obtain ⟨key, hkey, hprefix'⟩ := (hafter item hitem).starts
    have hkeys : ∀ key ∈ ["BSSID", "id", "state"], ¬"SSID".toList ++ ['='] <+: key.toList ++ ['=']
        ∧ ¬key.toList ++ ['='] <+: "SSID".toList ++ ['='] := by
      decide
    rcases List.prefix_or_prefix_of_prefix hprefix hprefix' with hp | hp
    · exact (hkeys key hkey).1 hp
    · exact (hkeys key hkey).2 hp

/-- A text is cut where a word begins, if none begins before. -/
lemma beforeAny_append {ws : List (List Char)} {s rest : List Char}
    (hs : ∀ w ∈ ws, ∀ front tail, s = front ++ tail → tail ≠ [] → ¬w <+: tail ++ rest)
    (hrest : rest = [] ∨ ∃ w ∈ ws, w <+: rest) : beforeAny ws (s ++ rest) = s := by
  induction s with
  | nil =>
    cases rest with
    | nil => rfl
    | cons c rest =>
      obtain ⟨w, hw, hprefix⟩ := hrest.resolve_left (List.cons_ne_nil c rest)
      have hany : ws.any (·.isPrefixOf (c :: rest)) = true :=
        List.any_eq_true.2 ⟨w, hw, List.isPrefixOf_iff_prefix.2 hprefix⟩
      rw [List.nil_append, beforeAny, if_pos hany]
  | cons c s ih =>
    have hany : ¬ws.any (·.isPrefixOf (c :: (s ++ rest))) = true := by
      rw [List.any_eq_true]
      rintro ⟨w, hw, hprefix⟩
      exact hs w hw [] (c :: s) rfl (List.cons_ne_nil c s) (List.isPrefixOf_iff_prefix.1 hprefix)
    rw [List.cons_append, beforeAny, if_neg hany, ih]
    intro w hw front tail heq hne
    exact hs w hw (c :: front) tail (by rw [heq, List.cons_append]) hne

/-- The name ends where the next field begins. -/
lemma beforeAny_name (hssid : ∀ key ∈ ["BSSID", "id", "state"], ¬spacedKey key <:+: ssid)
    (hafter : ∀ item ∈ after, IsField item) :
    beforeAny (["BSSID", "id", "state"].map spacedKey) (ssid ++ after.flatMap (' ' :: ·))
      = ssid := by
  apply beforeAny_append
  · intro w hw front tail heq hne hprefix
    obtain ⟨key, hkey, rfl⟩ := List.mem_map.1 hw
    obtain ⟨c, tail, rfl⟩ := List.exists_cons_of_ne_nil hne
    obtain ⟨rfl, hkeyed⟩ := List.cons_prefix_cons.1 hprefix
    have hspace : ∀ key ∈ ["BSSID", "id", "state"], ' ' ∉ key.toList ++ ['='] := by decide
    -- A key without a space that begins in the name ends in it, as the fields behind begin with
    -- spaces.
    have htail : key.toList ++ ['='] <+: tail :=
      Text.prefix_of_prefix_append (hspace key hkey) (Text.flatMap_cons_cases ' ' after) hkeyed
    apply hssid key hkey
    rw [heq]
    exact (List.cons_prefix_cons.2 ⟨rfl, htail⟩).isInfix.trans (List.suffix_append front _).isInfix
  · cases after with
    | nil => exact .inl rfl
    | cons item after =>
      obtain ⟨key, hkey, hprefix⟩ := (hafter item List.mem_cons_self).starts
      refine .inr ⟨spacedKey key, List.mem_map_of_mem hkey, ?_⟩
      rw [List.flatMap_cons]
      exact List.cons_prefix_cons.2 ⟨rfl, hprefix.trans (List.prefix_append item _)⟩

/-- Wherever the name stands among the items, all of it is found and nothing else. -/
lemma writtenSsid?_of_perm (h : items.Perm (stateItems n k bssid ssid)) (hbssid : ' ' ∉ bssid)
    (hssid : ∀ key ∈ stateKeys, ¬spacedKey key <:+: ssid) :
    writtenSsid? ([' '].intercalate items) = some ssid := by
  have hmem : assignment "SSID" ssid ∈ items := h.mem_iff.2 (by simp [stateItems])
  obtain ⟨before, after, rfl⟩ := List.append_of_mem hmem
  have hafter : ∀ item ∈ after, IsField item := fun item hitem =>
    isField_of_perm hbssid h (List.mem_append_right before hitem)
  have hpayload : ' ' :: [' '].intercalate (before ++ assignment "SSID" ssid :: after)
      = before.flatMap (' ' :: ·)
        ++ ' ' :: ("SSID".toList ++ ['='] ++ (ssid ++ after.flatMap (' ' :: ·))) := by
    rw [Text.cons_intercalate (by simp), List.flatMap_append, List.flatMap_cons, assignment]
    simp only [List.append_assoc, List.cons_append, List.nil_append]
  have hsearch := Text.searchLast_append_cons (before.flatMap (' ' :: ·))
    (not_infix_name (hssid "SSID" (by decide)) hafter)
  have hname := beforeAny_name (fun key hkey => hssid key (List.mem_cons_of_mem "SSID" hkey)) hafter
  have hkeys : [" BSSID=".toList, " id=".toList, " state=".toList]
      = ["BSSID", "id", "state"].map spacedKey := by
    decide
  have hkey : " SSID=".toList = ' ' :: ("SSID".toList ++ ['=']) := by
    decide
  rw [writtenSsid?, hkeys, hkey, hpayload, hsearch, Option.map_some, hname]

/-! ### The state change -/

/-- In whatever order its items stand, a state change is read as what they say, with a name in which
there may be spaces, equals signs and words that look like fields, but none of the keys of a state
change behind a space. -/
theorem stateChange?_of_perm {n k : Int} {bssid ssid : List Char} {items : List (List Char)}
    (hn : -2147483648 ≤ n ∧ n ≤ 2147483647)
    (hk : -9223372036854775808 ≤ k ∧ k ≤ 9223372036854775807)
    (hbssid : ' ' ∉ bssid ∧ '=' ∉ bssid) (hssid : ∀ key ∈ stateKeys, ¬spacedKey key <:+: ssid)
    (h : items.Perm (stateItems n k bssid ssid)) :
    stateChange? ([' '].intercalate items) = some {
      networkId := n
      ssid := some (Ssid.decode ssid)
      bssid := some (String.ofList bssid)
      state := .ofIndex k } := by
  have hothers (key : String) (hkey : key ∈ ["BSSID", "id", "state"]) :=
    flatMap_valuesOf_stateItems n k hkey hbssid (hssid key (List.mem_cons_of_mem "SSID" hkey))
  have hid : Text.int? 32 (toString n).toList = some n :=
    Text.int?_toString_int (by simpa [Text.wordCount] using hn.1)
      (by simpa [Text.wordCount] using Int.lt_add_one_of_le hn.2)
  have hstate : Text.int? 64 (toString k).toList = some k :=
    Text.int?_toString_int (by simpa [Text.wordCount] using hk.1)
      (by simpa [Text.wordCount] using Int.lt_add_one_of_le hk.2)
  rw [stateChange?, valuesOf_of_perm h (hothers "state" (by decide)),
    valuesOf_of_perm h (hothers "id" (by decide)),
    valuesOf_of_perm h (hothers "BSSID" (by decide)),
    writtenSsid?_of_perm h hbssid.1 hssid, List.filterMap_cons, List.filterMap_cons, hid, hstate]
  rfl

/-- The name in front, with spaces, an equals sign and a word that looks like a field. -/
theorem stateChange?_of_perm_nameFirst :
    ∃ bssid ssid items, bssid = "00:1e:58:ec:d5:6d".toList ∧ ssid = "my id =7 x=y ".toList
      ∧ items = [assignment "SSID" ssid, assignment "state" (toString (9 : Int)).toList,
        assignment "BSSID" bssid, assignment "id" (toString (-1 : Int)).toList]
      ∧ (-2147483648 ≤ (-1 : Int) ∧ (-1 : Int) ≤ 2147483647)
      ∧ (-9223372036854775808 ≤ (9 : Int) ∧ (9 : Int) ≤ 9223372036854775807)
      ∧ (' ' ∉ bssid ∧ '=' ∉ bssid) ∧ (∀ key ∈ stateKeys, ¬spacedKey key <:+: ssid)
      ∧ items.Perm (stateItems (-1) 9 bssid ssid)
      ∧ [' '].intercalate items = "SSID=my id =7 x=y  state=9 BSSID=00:1e:58:ec:d5:6d id=-1".toList
      ∧ stateChange? ([' '].intercalate items)
        = some ⟨-1, some "my id =7 x=y ", some "00:1e:58:ec:d5:6d", .completed⟩ := by
  have hkeys : ∀ key ∈ stateKeys, ¬spacedKey key <:+: "my id =7 x=y ".toList := by
    decide +kernel
  have hperm : [assignment "SSID" "my id =7 x=y ".toList,
      assignment "state" (toString (9 : Int)).toList, assignment "BSSID" "00:1e:58:ec:d5:6d".toList,
      assignment "id" (toString (-1 : Int)).toList].Perm
        (stateItems (-1) 9 "00:1e:58:ec:d5:6d".toList "my id =7 x=y ".toList) := by
    decide +kernel
  have hread := stateChange?_of_perm (by decide) (by decide) (by decide) hkeys hperm
  have hname : Ssid.decode "my id =7 x=y ".toList = "my id =7 x=y " := by
    decide +kernel
  rw [hname, String.ofList_toList] at hread
  exact ⟨_, _, _, rfl, rfl, rfl, by decide, by decide, by decide, hkeys, hperm, by decide +kernel,
    hread⟩

end SupplicantWatch.Control
