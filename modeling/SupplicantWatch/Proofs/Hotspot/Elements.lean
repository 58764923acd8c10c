import Mathlib.Data.List.Induction
import Mathlib.Tactic.Common
import SupplicantWatch.Proofs.Hotspot.Commands
import SupplicantWatch.Proofs.Text.Split

/-!
# The elements of a query

After a query of an access point that has ended well the daemon describes that access point, and
each element has the value of the last line of the description for it. The elements are missing if
nothing is asked or nothing is replied. A reply that says that the command has failed is read as a
description without elements. Main statement: `run_anqpEvent`.
-/

namespace SupplicantWatch

/-! ### Tables -/

namespace Table

variable {α : Type} {entries : List (String × α)} {key : String} {value : α}

lemma ofList_append_singleton (entries : List (String × α)) (entry : String × α) :
    ofList (entries ++ [entry]) = (ofList entries).insert entry.1 entry.2 := by
  rw [ofList, List.foldl_append]
  rfl

lemma get?_ofList (entries : List (String × α)) (key : String) :
    (ofList entries).get? key = (entries.filter (·.1 = key)).getLast?.map (·.2) := by
  induction entries using List.reverseRecOn with
  | nil => rfl
  | append_singleton entries entry ih =>
    rw [ofList_append_singleton, get?_insert, List.filter_append, ih]
    by_cases hkey : key = entry.1
    · simp [hkey]
    · simp [hkey, Ne.symm hkey]

/-- In a table of some entries a key has the value of the last entry for it. -/
lemma get?_ofList_eq_some_iff :
    (ofList entries).get? key = some value
      ↔ ∃ earlier later, entries = earlier ++ (key, value) :: later
        ∧ ∀ entry ∈ later, entry.1 ≠ key := by
  rw [get?_ofList, Option.map_eq_some_iff]
  constructor
  · -- The last of the entries for the key is one entry of all, and those behind it are for other
    -- keys.
    rintro ⟨entry, hlast, rfl⟩
    obtain ⟨front, hfront⟩ := List.getLast?_eq_some_iff.1 hlast
    obtain ⟨earlier, rest, rfl, -, hrest⟩ := List.filter_eq_append_iff.1 hfront
    obtain ⟨skipped, later, rfl, -, hkey, hlater⟩ := List.filter_eq_cons_iff.1 hrest
    rw [List.filter_eq_nil_iff] at hlater
    obtain rfl := of_decide_eq_true hkey
    exact ⟨earlier ++ skipped, later, by rw [List.append_assoc],
      fun entry hmem heq => hlater entry hmem (decide_eq_true heq)⟩
  · rintro ⟨earlier, later, rfl, hlater⟩
    have hnil : later.filter (·.1 = key) = [] :=
      List.filter_eq_nil_iff.2 fun entry hmem heq => hlater entry hmem (of_decide_eq_true heq)
    refine ⟨(key, value), ?_, rfl⟩
    rw [List.filter_append, List.filter_cons_of_pos (by simp), hnil, List.getLast?_concat]

end Table

namespace Hotspot

variable {description key value : String} {line : List Char} {bssid : MacAddress}

/-! ### Elements -/

/-- A key and a value stand in the last line of a description for that key, which is one of an
element. The first equals sign of the line ends the key. -/
structure IsLastElement (description key value : String) : Prop where
  isElement : "anqp_".toList <+: key.toList ∨ "hs20_".toList <+: key.toList
  equals_notMem : '=' ∉ key.toList
  last : ∃ earlier later,
    Text.lines description.toList = earlier ++ (key.toList ++ '=' :: value.toList) :: later
    ∧ ∀ line ∈ later, ¬key.toList ++ ['='] <+: line

/-- The key and the value in a line for an element. -/
def element? (line : List Char) : Option (String × String) :=
  (Text.cut? '=' line).bind fun (key, value) =>
    if isElementKey key then some (String.ofList key, String.ofList value) else none

lemma elements_eq (description : String) :
    elements description = .ofList ((Text.lines description.toList).filterMap element?) := by
  rw [elements, List.filterMap_filterMap]
  rfl

lemma element?_eq_some_iff :
    element? line = some (key, value)
      ↔ ("anqp_".toList <+: key.toList ∨ "hs20_".toList <+: key.toList) ∧ '=' ∉ key.toList
        ∧ line = key.toList ++ '=' :: value.toList := by
  rw [element?, Option.bind_eq_some_iff]
  constructor
  · rintro ⟨⟨front, rest⟩, hcut, helement⟩
    obtain ⟨rfl, hfront⟩ := Text.cut?_eq_some_iff.1 hcut
    dsimp only at helement
    split_ifs at helement with hkey
    cases helement
    rw [isElementKey, Bool.or_eq_true, List.isPrefixOf_iff_prefix, List.isPrefixOf_iff_prefix]
      at hkey
    simp only [String.toList_ofList]
    exact ⟨hkey, hfront, trivial⟩
  · rintro ⟨hkey, hequals, rfl⟩
    refine ⟨_, Text.cut?_eq_some_iff.2 ⟨rfl, hequals⟩, ?_⟩
    have helement : isElementKey key.toList = true := by
      rw [isElementKey, Bool.or_eq_true, List.isPrefixOf_iff_prefix, List.isPrefixOf_iff_prefix]
      exact hkey
    dsimp only
    rw [if_pos helement, String.ofList_toList, String.ofList_toList]

/-- Each element of a description has the value in the last line for it. -/
theorem get?_elements_eq_some_iff :
    (elements description).get? key = some value ↔ IsLastElement description key value := by
  rw [elements_eq, Table.get?_ofList_eq_some_iff]
  constructor
  · rintro ⟨_, _, hentries, hlater⟩
    obtain ⟨earlier, rest, hlines, rfl, hrest⟩ := List.filterMap_eq_append_iff.1 hentries
    obtain ⟨skipped, line, later, rfl, -, hline, rfl⟩ := List.filterMap_eq_cons_iff.1 hrest
    obtain ⟨hkey, hequals, rfl⟩ := element?_eq_some_iff.1 hline
    refine ⟨hkey, hequals, earlier ++ skipped, later, by rw [hlines, List.append_assoc], ?_⟩
    rintro line hmem ⟨value', rfl⟩
    have helement : element? (key.toList ++ ['='] ++ value') = some (key, String.ofList value') :=
      element?_eq_some_iff.2 ⟨hkey, hequals, by simp⟩
    exact hlater _ (List.mem_filterMap.2 ⟨_, hmem, helement⟩) rfl
  · rintro ⟨hkey, hequals, earlier, later, hlines, hlater⟩
    have helement : element? (key.toList ++ '=' :: value.toList) = some (key, value) :=
      element?_eq_some_iff.2 ⟨hkey, hequals, rfl⟩
    refine ⟨earlier.filterMap element?, later.filterMap element?, ?_, ?_⟩
    · rw [hlines, List.filterMap_append, List.filterMap_cons, helement]
    · rintro ⟨key', value'⟩ hmem rfl
      obtain ⟨line, hline, hentry⟩ := List.mem_filterMap.1 hmem
      obtain ⟨-, -, rfl⟩ := element?_eq_some_iff.1 hentry
      exact hlater _ hline ⟨value'.toList, by simp⟩

/-! ### Failed commands -/

/-- A reply says that the command has failed. -/
def SaysFailure (reply : String) : Prop :=
  Text.trimEnd reply.toList = "FAIL".toList

instance (reply : String) : Decidable (SaysFailure reply) :=
  inferInstanceAs (Decidable (_ = _))

lemma equals_notMem_of_saysFailure (h : SaysFailure description) : '=' ∉ description.toList := by
  intro hmem
  -- The reply is the word for failure with white space behind it, and neither has an equals sign.
  have hsplit : description.toList.reverse
      = description.toList.reverse.takeWhile Text.isBlank ++ "FAIL".toList.reverse := by
    rw [← h, Text.trimEnd, List.reverse_reverse, List.takeWhile_append_dropWhile]
  rw [← List.mem_reverse, hsplit, List.mem_append] at hmem
  rcases hmem with hmem | hmem
  · exact absurd (List.all_eq_true.1 List.all_takeWhile _ hmem) (by decide)
  · exact absurd hmem (by decide)

/-- Such a reply has no elements. -/
lemma elements_of_saysFailure (h : SaysFailure description) : elements description = .empty := by
  have hnil : (Text.lines description.toList).filterMap element? = [] := by
    rw [List.filterMap_eq_nil_iff]
    intro line hline
    have hequals : '=' ∉ line := fun hmem =>
      equals_notMem_of_saysFailure h (Text.mem_of_mem_lines hline hmem)
    rw [element?, Text.cut?_eq_none_iff.2 hequals, Option.bind_none]
  rw [elements_eq, hnil]
  rfl

/-! ### Queries -/

/-- What the elements are, given the reply to the command that asks for the description. -/
structure AreElements (reply : Option String) (elements : Option (Table String)) : Prop where
  /-- They are missing exactly if there is no reply. -/
  eq_none_iff : elements = none ↔ reply = none
  /-- Each has the value in the last line for it, and there are no others. -/
  get?_eq_some_iff : ∀ description table, reply = some description → elements = some table →
    ∀ key value, table.get? key = some value ↔ IsLastElement description key value
  /-- They are there, but none of them, if the command has failed. -/
  of_saysFailure : ∀ description, reply = some description → SaysFailure description →
    elements = some .empty

lemma areElements_map (reply : Option String) : AreElements reply (reply.map elements) where
  eq_none_iff := Option.map_eq_none_iff
  get?_eq_some_iff := by
    rintro description table rfl ⟨⟩ key value
    exact get?_elements_eq_some_iff
  of_saysFailure := by
    rintro description rfl h
    rw [Option.map_some, elements_of_saysFailure h]

/-- After a query that has not ended well nothing is asked. -/
lemma anqpEvent_of_not_endsWell {address result : List Char}
    (haddress : StandsAfter "addr=" line address) (hresult : StandsAfter "result=" line result)
    (h : ∀ bssid, ¬EndsWell line bssid) :
    anqpEvent line
      = pure (.ok (.anqpDone ⟨(MacAddress.ofChars? address).getD .zero, none⟩)) := by
  rw [anqpEvent, valueAfter?_eq_some_iff.2 haddress, valueAfter?_eq_some_iff.2 hresult]
  dsimp only
  cases hbssid : MacAddress.ofChars? address with
  | none => rfl
  | some bssid =>
    -- What would let the access point be described would make this a query that has ended well.
    have hask : ¬(!bssid.isZero && equalsIgnoringCase result "success".toList) = true := by
      rw [Bool.and_eq_true, Bool.not_eq_true', MacAddress.isZero, decide_eq_false_iff_not,
        equalsIgnoringCase, decide_eq_true_iff]
      rintro ⟨hzero, hsuccess⟩
      exact h bssid ⟨⟨address, haddress, hbssid⟩, hzero, result, hresult, hsuccess⟩
    dsimp only
    rw [if_neg hask]
    rfl

lemma exists_standsAfter {marker : String} (h : marker.toList <:+: line) :
    ∃ value, StandsAfter marker line value := by
  obtain ⟨⟨front, rest⟩, hfind⟩ := Option.isSome_iff_exists.1 (Text.occurs_iff.2 h)
  refine ⟨Text.before ' ' rest, valueAfter?_eq_some_iff.1 ?_⟩
  rw [valueAfter?, hfind]
  rfl

variable {σ : Type}

/-- A dialogue of one question about an interface. -/
lemma run_onInterface_query {α : Type} (command : String) (f : Option String → α) (i : String)
    (daemon : Daemon σ) (state : σ) :
    (Dialogue.onInterface i (Dialogue.query command >>= fun reply => pure (f reply))).run daemon
        state
      = (f (daemon state (markInterface i command)).1,
        [⟨markInterface i command, (daemon state (markInterface i command)).1⟩],
        (daemon state (markInterface i command)).2) := rfl

/-- The end of a query is an event for every line that has an address and a result, whatever the
daemon replies. The access point is described exactly if the query has ended well, and without a
description the elements are missing. Otherwise they are what the last lines of the description say,
also if it is no description but says that the command has failed. -/
theorem run_anqpEvent (haddress : "addr=".toList <:+: line) (hresult : "result=".toList <:+: line)
    (i : String) (daemon : Daemon σ) (state : σ) :
    ∃ address elements exchanges state', StandsAfter "addr=" line address
      ∧ ((anqpEvent line).onInterface i).run daemon state
        = (.ok (.anqpDone ⟨(MacAddress.ofChars? address).getD .zero, elements⟩), exchanges, state')
      ∧ ((∀ bssid, ¬EndsWell line bssid) → exchanges = [] ∧ elements = none)
      ∧ ∀ bssid, EndsWell line bssid → ∃ reply,
          reply = (daemon state (markInterface i (describeCommand bssid))).1
          ∧ exchanges = [⟨markInterface i (describeCommand bssid), reply⟩]
          ∧ AreElements reply elements := by
  by_cases hwell : ∃ bssid, EndsWell line bssid
  · obtain ⟨bssid, hwell⟩ := hwell
    obtain ⟨address, haddress, hbssid⟩ := hwell.address
    obtain ⟨reply, hreply⟩ : ∃ reply,
        (daemon state (markInterface i (describeCommand bssid))).1 = reply := ⟨_, rfl⟩
    have hrun : ((anqpEvent line).onInterface i).run daemon state
        = (.ok (.anqpDone ⟨(MacAddress.ofChars? address).getD .zero, reply.map elements⟩),
          [⟨markInterface i (describeCommand bssid), reply⟩],
          (daemon state (markInterface i (describeCommand bssid))).2) := by
      rw [anqpEvent_of_endsWell hwell, run_onInterface_query, hreply, hbssid]
      rfl
    refine ⟨address, _, _, _, haddress, hrun, fun h => absurd hwell (h bssid), ?_⟩
    intro bssid' hwell'
    obtain rfl := hwell.unique hwell'
    exact ⟨reply, hreply.symm, rfl, areElements_map reply⟩
  · rw [not_exists] at hwell
    obtain ⟨address, haddress⟩ := exists_standsAfter haddress
    obtain ⟨result, hresult⟩ := exists_standsAfter hresult
    rw [anqpEvent_of_not_endsWell haddress hresult hwell]
    exact ⟨address, none, [], state, haddress, rfl, fun _ => ⟨rfl, rfl⟩,
      fun bssid h => absurd h (hwell bssid)⟩

/-- An element comes again, with an equals sign in its value. -/
theorem run_anqpEvent_again :
    ∃ line bssid table, line = "ANQP-QUERY-DONE addr=18:cf:5e:26:a4:88 result=Success".toList
      ∧ (((anqpEvent line).onInterface "wlan0").run
          (fun _ _ => (some "freq=2412\nanqp_a=1\nanqp_a=2=3\nhs20_b=\n", ())) ()).1
        = .ok (.anqpDone ⟨bssid, some table⟩)
      ∧ table.get? "anqp_a" = some "2=3" ∧ table.get? "freq" = none := by
  have hwell : EndsWell "ANQP-QUERY-DONE addr=18:cf:5e:26:a4:88 result=Success".toList
      ⟨0x18, 0xcf, 0x5e, 0x26, 0xa4, 0x88⟩ :=
    ⟨⟨"18:cf:5e:26:a4:88".toList, valueAfter?_eq_some_iff.1 (by decide +kernel),
      by decide +kernel⟩, by decide,
      "Success".toList, valueAfter?_eq_some_iff.1 (by decide +kernel), by decide⟩
  have haddress : "addr=".toList
      <:+: "ANQP-QUERY-DONE addr=18:cf:5e:26:a4:88 result=Success".toList :=
    Text.occurs_iff.1 (by decide +kernel)
  obtain ⟨address, elements, exchanges, state', -, hrun, -, helements⟩ :=
    run_anqpEvent haddress (Text.occurs_iff.1 (by decide +kernel)) "wlan0"
      (fun _ _ => (some "freq=2412\nanqp_a=1\nanqp_a=2=3\nhs20_b=\n", ())) ()
  obtain ⟨reply, rfl, -, hare⟩ := helements _ hwell
  obtain ⟨table, rfl⟩ := Option.ne_none_iff_exists'.1 (hare.eq_none_iff.not.2 (by decide))
  have hget := hare.get?_eq_some_iff _ table rfl rfl
  refine ⟨_, _, table, rfl, congrArg Prod.fst hrun, (hget _ _).2 ⟨by decide, by decide, ?_⟩, ?_⟩
  · exact ⟨["freq=2412".toList, "anqp_a=1".toList], ["hs20_b=".toList], by decide +kernel,
      by decide⟩
  · rw [Option.eq_none_iff_forall_ne_some]
    intro value hvalue
    exact absurd ((hget _ _).1 hvalue).isElement (by decide)

/-- The elements of a query whose description has failed are there. -/
theorem run_anqpEvent_failed :
    ∃ line, line = "ANQP-QUERY-DONE addr=18:cf:5e:26:a4:88 result=SUCCESS".toList
      ∧ SaysFailure "FAIL\n"
      ∧ (((anqpEvent line).onInterface "wlan0").run (fun _ _ => (some "FAIL\n", ())) ()).1
        = .ok (.anqpDone ⟨⟨0x18, 0xcf, 0x5e, 0x26, 0xa4, 0x88⟩, some .empty⟩)
      ∧ (((anqpEvent line).onInterface "wlan0").run (fun _ _ => (some "FAIL\n", ())) ()).1
        ≠ .ok (.anqpDone ⟨⟨0x18, 0xcf, 0x5e, 0x26, 0xa4, 0x88⟩, none⟩) := by
  refine ⟨_, rfl, ?_, ?_, ?_⟩
  · decide +kernel
  · decide +kernel
  · decide +kernel

end Hotspot

end SupplicantWatch
