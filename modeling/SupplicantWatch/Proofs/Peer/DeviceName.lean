import Mathlib.Tactic.Common
import SupplicantWatch.Peer.Device
import SupplicantWatch.Proofs.Fields.Items
import SupplicantWatch.Proofs.Text.Decimal
import SupplicantWatch.Proofs.Text.Encoding

/-!
# What the name of a peer does to its descriptor

A peer chooses its name, which is written between apostrophes as it is. A name without an apostrophe
is read as it is and changes nothing else. One that has an apostrophe ends there for the reader, and
what the name has behind it are items of the line: they can give the name, the address or the type
anew, which stand in front of the name, but not the capabilities, which follow it. Main statement:
`ofLine?_foundLine`.
-/

namespace SupplicantWatch.Peer

open Text (assignment)

variable {type name front behind : List Char}

/-! ### The line -/

/-- A 32-bit word as capabilities are written. -/
def hexText (n : Nat) : List Char :=
  '0' :: 'x' :: Nat.toDigits 16 n

/-- What follows the name in the report of a peer. -/
def capabilities (config device group : Nat) : List Char :=
  [' '].intercalate [assignment "config_methods" (hexText config),
    assignment "dev_capab" (hexText device), assignment "group_capab" (hexText group)]

/-- The report of a peer that has been found. -/
def foundLine (source address : MacAddress) (type name : List Char) (config device group : Nat) :
    List Char :=
  [' '].intercalate ["P2P-DEVICE-FOUND".toList, source.toChars,
    assignment "p2p_dev_addr" address.toChars, assignment "pri_dev_type" type,
    assignment "name" ('\x27' :: (name ++ ['\x27'])), capabilities config device group]

/-- The fields of the report that stand in front of what a name has behind its first apostrophe. -/
def openingFields (address : MacAddress) (type front : List Char) : Fields where
  items := [("p2p_dev_addr".toList, address.toChars), ("pri_dev_type".toList, type),
    ("name".toList, front)]

/-- The fields of the report that follow the name. -/
def capabilityFields (config device group : Nat) : Fields where
  items := [("config_methods".toList, hexText config), ("dev_capab".toList, hexText device),
    ("group_capab".toList, hexText group)]

/-- A name has a key behind an apostrophe. -/
def Smuggles (key : String) (name : List Char) : Prop :=
  ∃ front behind, name = front ++ '\x27' :: behind ∧ key.toList ++ ['='] <:+: behind

/-! ### Its items -/

lemma forall_mem_hexText {p : Char → Prop} (hzero : p '0') (hx : p 'x')
    (h : ∀ k < 16, p (Nat.digitChar k)) (n : Nat) : ∀ c ∈ hexText n, p c := by
  rw [hexText, List.forall_mem_cons, List.forall_mem_cons]
  exact ⟨hzero, hx, Text.forall_mem_toDigits (by omega) h n⟩

lemma isItem_toChars (address : MacAddress) : Fields.IsItem address.toChars none := by
  have hall : ∀ c ∈ address.toChars, Text.isBlank c = false ∧ c ≠ ' ' ∧ c ≠ '=' :=
    MacAddress.forall_mem_toChars (by decide) (by decide) address
  refine .word ?_ ⟨?_, ?_⟩
  · intro c hc
    exact (hall c (List.mem_of_mem_head? hc)).1
  · intro hspace
    exact (hall ' ' hspace).2.1 rfl
  · intro hequal
    exact (hall '=' hequal).2.2 rfl

lemma ofLine_capabilities (config device group : Nat) :
    (Fields.ofLine (capabilities config device group)).items
      = (capabilityFields config device group).items := by
  have hhex (n : Nat) : ∀ c ∈ hexText n, c ≠ ' ' ∧ ¬Fields.IsQuote c :=
    forall_mem_hexText (by decide) (by decide) (by decide) n
  have hconfig := Fields.isItem_assignment "config_methods" (by decide) (by decide) (hhex config)
  have hdevice := Fields.isItem_assignment "dev_capab" (by decide) (by decide) (hhex device)
  have hgroup := Fields.isItem_assignment "group_capab" (by decide) (by decide) (hhex group)
  rw [capabilities, Fields.items_intercalate (.cons hconfig (.cons hdevice (.cons hgroup .nil)))]
  rfl

lemma quote_notMem_capabilities {quote : Char} {config device group : Nat}
    (h : Fields.IsQuote quote) :
    quote ∉ capabilities config device group := by
  have hhex (n : Nat) : quote ∉ hexText n := by
    intro hmem
    have hall : ∀ c ∈ hexText n, ¬Fields.IsQuote c :=
      forall_mem_hexText (by decide) (by decide) (by decide) n
    exact hall quote hmem h
  rcases h with rfl | rfl <;>
    simp [capabilities, List.intercalate, assignment, hhex]

/-- The items of the report: those up to the name, which ends at its first apostrophe, those of
what the name has behind that, and the capabilities. -/
lemma items_foundLine (source address : MacAddress) (config device group : Nat)
    (htype : ∀ c ∈ type, c ≠ ' ' ∧ ¬Fields.IsQuote c)
    (hname : name ++ ['\x27'] = front ++ '\x27' :: behind) (hfront : '\x27' ∉ front) :
    (Fields.ofLine (foundLine source address type name config device group)).items
      = (openingFields address type front).items ++ ((Fields.ofLine behind).items
        ++ (capabilityFields config device group).items) := by
  have hevent : Fields.IsItem "P2P-DEVICE-FOUND".toList none := .word (by decide) (by decide)
  have haddress := Fields.isItem_assignment "p2p_dev_addr" (by decide) (by decide)
    (MacAddress.forall_mem_toChars (by decide) (by decide) address)
  have htyped := Fields.isItem_assignment "pri_dev_type" (by decide) (by decide) htype
  -- The name as a field reaches to the first apostrophe only.
  have hnamed : assignment "name" ('\x27' :: (name ++ ['\x27']))
        ++ ' ' :: capabilities config device group
      = "name".toList ++ '=' :: '\x27' :: (front ++ '\x27' ::
        (behind ++ ' ' :: capabilities config device group)) := by
    rw [hname, assignment]
    simp only [List.append_assoc, List.cons_append]
  have hbehind : (Fields.ofLine (behind ++ ' ' :: capabilities config device group)).items
      = (Fields.ofLine behind).items
        ++ (Fields.ofLine (capabilities config device group)).items :=
    Fields.items_ofLine_append_cons fun _ _ _ hopens => quote_notMem_capabilities hopens.1
  rw [foundLine]
  simp only [List.intercalate_cons_cons, List.intercalate_singleton, ← List.append_cons]
  rw [hevent.items_append,
    (isItem_toChars source).items_append, haddress.items_append, htyped.items_append, hnamed,
    Fields.items_ofLine_quoted (by decide) (by decide) (.inl rfl) hfront, hbehind,
    ofLine_capabilities]
  rfl

/-- A key is looked up in the capabilities first, then in what the name has behind its first
apostrophe, and last in the items up to the name. -/
lemma get?_foundLine (source address : MacAddress) (config device group : Nat)
    (htype : ∀ c ∈ type, c ≠ ' ' ∧ ¬Fields.IsQuote c)
    (hname : name ++ ['\x27'] = front ++ '\x27' :: behind) (hfront : '\x27' ∉ front)
    (key : String) :
    (Fields.ofLine (foundLine source address type name config device group)).get? key
      = (((capabilityFields config device group).get? key).or ((Fields.ofLine behind).get? key)).or
        ((openingFields address type front).get? key) := by
  have hitems : Fields.ofLine (foundLine source address type name config device group)
      = ⟨(openingFields address type front).items ++ ((Fields.ofLine behind).items
        ++ (capabilityFields config device group).items)⟩ :=
    congrArg Fields.mk (items_foundLine source address config device group htype hname hfront)
  rw [hitems, Fields.get?_append, Fields.get?_append]

/-- What is written up to the name counts unless the key comes again in the name. -/
lemma get?_foundLine_opening (source address : MacAddress) (config device group : Nat)
    (htype : ∀ c ∈ type, c ≠ ' ' ∧ ¬Fields.IsQuote c)
    (hname : name ++ ['\x27'] = front ++ '\x27' :: behind) (hfront : '\x27' ∉ front)
    (key val : String) (hopening : (openingFields address type front).get? key = some val)
    (hcapability : (capabilityFields config device group).get? key = none) :
    (Fields.ofLine (foundLine source address type name config device group)).get? key
      = some (((Fields.ofLine behind).get? key).getD val) := by
  rw [get?_foundLine source address config device group htype hname hfront, hopening, hcapability]
  cases (Fields.ofLine behind).get? key <;> rfl

/-- A name with the apostrophe that closes it, cut at the first one: the name has none, or it has
what stands behind the first one up to the closing one. -/
lemma name_cases (hname : name ++ ['\x27'] = front ++ '\x27' :: behind) :
    (name = front ∧ behind = []) ∨
      ∃ rest, name = front ++ '\x27' :: rest ∧ behind = rest ++ ['\x27'] := by
  rcases List.eq_nil_or_concat behind with rfl | ⟨rest, c, rfl⟩
  · exact .inl ⟨(List.append_inj' hname rfl).1, rfl⟩
  · rw [List.concat_eq_append, ← List.cons_append, ← List.append_assoc] at hname
    obtain ⟨rfl, hc⟩ := List.append_inj' hname rfl
    obtain rfl : '\x27' = c := (List.cons.inj hc).1
    exact .inr ⟨rest, rfl, List.concat_eq_append⟩

/-- A key that the name does not have behind an apostrophe is no field of that part. -/
lemma get?_behind_eq_none {key : String} (h : ¬Smuggles key name)
    (hname : name ++ ['\x27'] = front ++ '\x27' :: behind) (hkey : '\x27' ∉ key.toList) :
    (Fields.ofLine behind).get? key = none := by
  have hne : key.toList ++ ['='] ≠ [] := List.append_ne_nil_of_right_ne_nil _ (by simp)
  have hnot : '\x27' ∉ key.toList ++ ['='] := by simpa using hkey
  rw [Option.eq_none_iff_forall_ne_some]
  intro val hget
  obtain ⟨hinner, -⟩ := Fields.of_mem_items (Fields.exists_mem_of_get?_eq_some hget)
  -- A field would have its key behind the apostrophe, and the closing one is no part of a key.
  rcases name_cases hname with ⟨-, rfl⟩ | ⟨rest, rfl, rfl⟩
  · exact hne (List.infix_nil.1 hinner)
  · rcases Text.infix_of_infix_append_cons hnot hne hinner with hinner | hnil
    · exact h ⟨front, rest, rfl, hinner⟩
    · exact hne (List.infix_nil.1 hnil)

/-- What is read as a name that has an apostrophe is shorter than the name. -/
lemma length_readName_lt (front rest : List Char) :
    (((Fields.ofLine (rest ++ ['\x27'])).get? "name").getD (String.ofList front)).toList.length
      < (front ++ '\x27' :: rest).length := by
  rw [List.length_append, List.length_cons]
  cases hval : (Fields.ofLine (rest ++ ['\x27'])).get? "name" with
  | none =>
    rw [Option.getD_none, String.toList_ofList]
    omega
  | some val =>
    have hlt := (Fields.of_mem_items (Fields.exists_mem_of_get?_eq_some hval)).2
    rw [List.length_append, List.length_singleton] at hlt
    rw [Option.getD_some]
    omega

lemma dropHexMarks_toDigits (n : Nat) :
    Fields.dropHexMarks (Nat.toDigits 16 n) = Nat.toDigits 16 n := by
  have hx : 'x' ∉ Nat.toDigits 16 n := by
    intro hmem
    exact Text.forall_mem_toDigits (p := (· ≠ 'x')) (by omega) (by decide) n 'x' hmem rfl
  unfold Fields.dropHexMarks
  split
  · next heq => exact absurd (by rw [heq]; simp) hx
  · rfl

/-- A capability is read back. -/
lemma hexWord_of_get? {fields : Fields} {key : String} {n : Nat} (hn : n < Text.wordCount 32)
    (h : fields.get? key = some (String.ofList (hexText n))) : fields.hexWord key = n := by
  have hmarks : Fields.dropHexMarks (hexText n) = Nat.toDigits 16 n := dropHexMarks_toDigits n
  rw [Fields.hexWord, h, Option.bind_some, String.toList_ofList, hmarks,
    Text.word?_toDigits (by omega) (by omega) hn, Option.getD_some]

/-- A peer that is found is reported with its capabilities, whatever it is called. Its name is
reported as it is exactly if it has no apostrophe, and else ends in front of the first one, unless
it has the key of a name behind that; its address and its type are reported as they are unless its
name has their key behind an apostrophe. -/
theorem ofLine?_foundLine (source address : MacAddress) (type name : List Char)
    (config device group : Nat) (htype : ∀ c ∈ type, c ≠ ' ' ∧ ¬Fields.IsQuote c)
    (hconfig : config < Text.wordCount 32) (hdevice : device < Text.wordCount 32)
    (hgroup : group < Text.wordCount 32) :
    ∃ d, Device.ofLine? (foundLine source address type name config device group) = some d ∧
      d.configMethods = config ∧ d.deviceCapability = device ∧ d.groupCapability = group ∧
      (d.deviceName = some (String.ofList name) ↔ '\x27' ∉ name) ∧
      (¬Smuggles "name" name →
        d.deviceName = some (String.ofList (Text.before '\x27' name))) ∧
      (¬Smuggles "p2p_dev_addr" name → d.deviceAddress = address.render) ∧
      (¬Smuggles "pri_dev_type" name → d.primaryDeviceType = some (String.ofList type)) := by
  obtain ⟨front, behind, hname, hfront⟩ :=
    List.eq_append_cons_of_mem (show '\x27' ∈ name ++ ['\x27'] by simp)
  have hget := get?_foundLine source address config device group htype hname hfront
  -- What stands in front of the name gives way to what is behind its first apostrophe, and what
  -- follows the name does not.
  have hopening := get?_foundLine_opening source address config device group htype hname hfront
  have haddress := hopening "p2p_dev_addr" address.render rfl rfl
  have htyped := hopening "pri_dev_type" (String.ofList type) rfl rfl
  have hnamed := hopening "name" (String.ofList front) rfl rfl
  have hbefore : Text.before '\x27' name = front := by
    rw [Text.before_eq_iff]
    rcases name_cases hname with ⟨rfl, -⟩ | ⟨rest, rfl, -⟩
    · exact ⟨hfront, [], (List.append_nil name).symm, .inl rfl⟩
    · exact ⟨hfront, '\x27' :: rest, rfl, .inr ⟨rest, rfl⟩⟩
  refine ⟨_, by rw [Device.ofLine?, haddress]; rfl, hexWord_of_get? hconfig (hget _),
    hexWord_of_get? hdevice (hget _), hexWord_of_get? hgroup (hget _), ?_, ?_, ?_, ?_⟩
  · rw [hnamed, Option.some_inj]
    rcases name_cases hname with ⟨rfl, rfl⟩ | ⟨rest, rfl, rfl⟩
    · refine iff_of_true ?_ hfront
      rw [Fields.ofLine_nil, Fields.get?_nil, Option.getD_none]
    · refine iff_of_false (fun heq => ?_) (by simp)
      have hlt := length_readName_lt front rest
      rw [heq, String.toList_ofList] at hlt
      exact Nat.lt_irrefl _ hlt
  · intro h
    rw [hnamed, get?_behind_eq_none h hname (by decide), hbefore, Option.getD_none]
  · intro h
    rw [get?_behind_eq_none h hname (by decide), Option.getD_none]
  · intro h
    rw [htyped, get?_behind_eq_none h hname (by decide), Option.getD_none]

/-- A name with an apostrophe and the key of no name or address behind it. -/
theorem ofLine?_foundLine_possessive :
    (∃ front behind, "Bob's \"TV\" x=1".toList = front ++ '\x27' :: behind) ∧
      ∃ d, Device.ofLine? (foundLine ⟨2, 0, 0, 0, 0, 1⟩ ⟨2, 0, 0, 0, 0, 1⟩ "1-0050F204-1".toList
          "Bob's \"TV\" x=1".toList 0x188 0x27 0) = some d ∧
        d.configMethods = 0x188 ∧ d.deviceCapability = 0x27 ∧ d.groupCapability = 0 ∧
        d.deviceName = some "Bob" ∧ d.deviceAddress = "02:00:00:00:00:01" ∧
        d.primaryDeviceType = some "1-0050F204-1" := by
  have hnot (key : String) (h : ¬key.toList ++ ['='] <:+: "Bob's \"TV\" x=1".toList) :
      ¬Smuggles key "Bob's \"TV\" x=1".toList := by
    rintro ⟨front, behind, heq, hinner⟩
    exact h (hinner.trans ⟨front ++ ['\x27'], [], by rw [heq]; simp⟩)
  obtain ⟨d, hd, hconfig, hdevice, hgroup, -, hname, haddress, htype⟩ :=
    ofLine?_foundLine ⟨2, 0, 0, 0, 0, 1⟩ ⟨2, 0, 0, 0, 0, 1⟩ "1-0050F204-1".toList
      "Bob's \"TV\" x=1".toList 0x188 0x27 0 (by decide) (by decide) (by decide) (by decide)
  refine ⟨⟨"Bob".toList, "s \"TV\" x=1".toList, by decide⟩, d, hd, hconfig, hdevice, hgroup, ?_, ?_,
    ?_⟩
  · rw [hname (hnot "name" (by decide))]
    decide +kernel
  · rw [haddress (hnot "p2p_dev_addr" (by decide))]
    decide +kernel
  · rw [htype (hnot "pri_dev_type" (by decide))]
    decide +kernel

/-- A name that gives the address and the type anew, and cuts itself off. -/
theorem ofLine?_foundLine_smuggled :
    ∃ address name d, address = (⟨2, 0, 0, 0, 0, 1⟩ : MacAddress) ∧
      name = "x' p2p_dev_addr=02:00:00:00:00:02 pri_dev_type=y".toList ∧
      Device.ofLine? (foundLine address address "1-0050F204-1".toList name 0x188 0x27 0) = some d ∧
      d = ⟨"02:00:00:00:00:02", some "y'", some "x", 0x188, 0x27, 0⟩ ∧
      d.deviceAddress ≠ address.render ∧ d.deviceName ≠ some (String.ofList name) := by
  refine ⟨_, _, _, rfl, rfl, ?_, rfl, ?_, ?_⟩
  · decide +kernel
  · decide +kernel
  · decide +kernel

end SupplicantWatch.Peer
