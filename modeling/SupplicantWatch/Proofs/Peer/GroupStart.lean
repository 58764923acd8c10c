import Mathlib.Data.List.Forall2
import Mathlib.Tactic.Common
import SupplicantWatch.Peer.Group
import SupplicantWatch.Proofs.Fields.Items
import SupplicantWatch.Proofs.Text.Decimal
import SupplicantWatch.Proofs.Text.Encoding
import SupplicantWatch.Proofs.Text.Words

/-!
# What is read of a group that starts

The name and the passphrase of a group stand between quotes, and the fields of the report are read
as they are, whatever stands there. The persistent mark is searched among the words of the report
instead, which do not know of quotes: a name, a passphrase or an interface can have it too. Main
statement: `ofLine?_line`.
-/

namespace SupplicantWatch.Peer

open Text (assignment)

/-- What the report of a group that starts says. -/
structure GroupStart where
  interface : List Char
  isOwner : Bool
  networkName : List Char
  frequency : Nat
  passphrase : List Char
  owner : MacAddress
  isPersistent : Bool

namespace GroupStart

/-- The mark of a persistent group. -/
def persistentMark : List Char :=
  "[PERSISTENT]".toList

/-- The role of this device in the group. -/
def role (start : GroupStart) : List Char :=
  if start.isOwner then "GO".toList else "client".toList

/-- A text between quotes, as the value of a key. -/
def quotedText (key : String) (value : List Char) : List Char :=
  assignment key ('\x22' :: (value ++ ['\x22']))

/-- The report, part by part. -/
def parts (start : GroupStart) : List (List Char) :=
  ["P2P-GROUP-STARTED".toList, start.interface, start.role, quotedText "ssid" start.networkName,
    assignment "freq" (toString start.frequency).toList,
    quotedText "passphrase" start.passphrase, assignment "go_dev_addr" start.owner.toChars]
      ++ if start.isPersistent then [persistentMark] else []

/-- The report of the start. -/
def line (start : GroupStart) : List Char :=
  [' '].intercalate start.parts

/-- The interface is a word in which no quote stands behind an equals sign, neither text has a
quote, and the frequency is a word of 32 bits. -/
structure IsWellFormed (start : GroupStart) : Prop where
  interface_ne : start.interface ≠ []
  interface_word : ∀ c ∈ start.interface, Text.isBlank c = false
  interface_plain : ∀ quote, Fields.IsQuote quote → ¬['=', quote] <:+: start.interface
  networkName_plain : '\x22' ∉ start.networkName
  passphrase_plain : '\x22' ∉ start.passphrase
  frequency_lt : start.frequency < Text.wordCount 32

/-- The persistent mark is the interface, or stands between blanks of the name or the passphrase. -/
def HasStrayMark (start : GroupStart) : Prop :=
  start.interface = persistentMark ∨ Text.IsInnerWord persistentMark start.networkName
    ∨ Text.IsInnerWord persistentMark start.passphrase

variable {start : GroupStart}

/-! ### Its words -/

lemma words_role (start : GroupStart) : Text.words start.role = [start.role] := by
  unfold role
  split_ifs <;> exact Text.words_eq_singleton (by decide) (by decide)

lemma isBlank_of_mem_frequency (n : Nat) :
    ∀ c ∈ assignment "freq" (toString n).toList, Text.isBlank c = false := by
  rw [Text.toList_toString]
  exact Text.forall_mem_assignment (by decide) (by decide)
    (Text.forall_mem_toDigits (by omega) (by decide) n)

lemma isBlank_of_mem_owner (owner : MacAddress) :
    ∀ c ∈ assignment "go_dev_addr" owner.toChars, Text.isBlank c = false :=
  Text.forall_mem_assignment (by decide) (by decide)
    (MacAddress.forall_mem_toChars (by decide) (by decide) owner)

/-- The words of the report: a quoted text brings as many as it has. -/
lemma words_line (h : start.IsWellFormed) :
    Text.words start.line = "P2P-GROUP-STARTED".toList :: start.interface :: start.role ::
      (Text.words (quotedText "ssid" start.networkName)
        ++ assignment "freq" (toString start.frequency).toList ::
        (Text.words (quotedText "passphrase" start.passphrase)
          ++ assignment "go_dev_addr" start.owner.toChars ::
          if start.isPersistent then [persistentMark] else [])) := by
  have hevent := Text.words_eq_singleton (s := "P2P-GROUP-STARTED".toList) (by decide) (by decide)
  have hinterface := Text.words_eq_singleton h.interface_ne h.interface_word
  have hfrequency := Text.words_eq_singleton (by simp [assignment])
    (isBlank_of_mem_frequency start.frequency)
  have howner := Text.words_eq_singleton (by simp [assignment]) (isBlank_of_mem_owner start.owner)
  have hmark : (if start.isPersistent then [persistentMark] else []).flatMap Text.words
      = if start.isPersistent then [persistentMark] else [] := by
    split_ifs
    · exact Text.words_eq_singleton (s := persistentMark) (by decide) (by decide)
    · rfl
  rw [line, Text.words_intercalate, parts, List.flatMap_append, hmark]
  simp only [List.flatMap_cons, List.flatMap_nil, hevent, hinterface, words_role, hfrequency,
    howner, List.append_assoc, List.cons_append, List.nil_append]

lemma mark_mem_quotedText_iff (key : String) (value : List Char)
    (hkey : ∀ c ∈ key.toList, Text.isBlank c = false) :
    persistentMark ∈ Text.words (quotedText key value) ↔ Text.IsInnerWord persistentMark value := by
  have hmark : ∀ c ∈ key.toList ++ ['='], Text.isBlank c = false := by
    rw [List.forall_mem_append]
    exact ⟨hkey, by decide⟩
  rw [← Text.mem_words_quoted_iff (s := value) (by decide) (by decide) hmark
    (show Text.isBlank '\x22' = false by decide), quotedText, assignment, List.append_assoc]
  rfl

lemma mark_ne_assignment (key : String) (value : List Char) :
    persistentMark ≠ assignment key value := by
  intro heq
  have hmem : '=' ∈ persistentMark := by
    rw [heq, assignment]
    exact List.mem_append_right _ List.mem_cons_self
  revert hmem
  decide

lemma mark_ne_role (start : GroupStart) : persistentMark ≠ start.role := by
  unfold role
  split_ifs <;> decide

/-- The mark is a word of the report exactly if it was written there, or strays into it. -/
lemma mark_mem_words_iff (h : start.IsWellFormed) :
    persistentMark ∈ Text.words start.line ↔ start.isPersistent = true ∨ start.HasStrayMark := by
  have hevent : persistentMark ≠ "P2P-GROUP-STARTED".toList := by decide
  have hwritten : persistentMark ∈ (if start.isPersistent then [persistentMark] else [])
      ↔ start.isPersistent = true := by
    split_ifs with hp <;> simp [hp]
  have hname := mark_mem_quotedText_iff "ssid" start.networkName (by decide)
  have hpassphrase := mark_mem_quotedText_iff "passphrase" start.passphrase (by decide)
  rw [words_line h]
  simp only [List.mem_cons, List.mem_append, hevent, mark_ne_role, mark_ne_assignment, hwritten,
    hname, hpassphrase, false_or]
  constructor
  · rintro (hinterface | hname | hpassphrase | hwritten)
    · exact .inr (.inl hinterface.symm)
    · exact .inr (.inr (.inl hname))
    · exact .inr (.inr (.inr hpassphrase))
    · exact .inl hwritten
  · rintro (hwritten | hinterface | hname | hpassphrase)
    · exact .inr (.inr (.inr hwritten))
    · exact .inl hinterface.symm
    · exact .inr (.inl hname)
    · exact .inr (.inr (.inl hpassphrase))

/-! ### Its fields -/

lemma isItem_quotedText (key : String) {value : List Char}
    (hkey : ' ' ∉ key.toList ∧ '=' ∉ key.toList)
    (hstart : ∀ c ∈ (key.toList ++ ['=']).head?, Text.isBlank c = false) (h : '\x22' ∉ value) :
    Fields.IsItem (quotedText key value) (some (key.toList, value)) :=
  .quoted hstart hkey (.inr rfl) h

lemma isItem_role (start : GroupStart) : Fields.IsItem start.role none := by
  unfold role
  split_ifs <;> exact .word (by decide) (by decide)

/-- The fields of the report: one that the interface may be, and those that follow. -/
lemma exists_items_line (h : start.IsWellFormed) :
    ∃ field : Option (List Char × List Char), (Fields.ofLine start.line).items
      = field.toList ++ [("ssid".toList, start.networkName),
        ("freq".toList, (toString start.frequency).toList),
        ("passphrase".toList, start.passphrase),
        ("go_dev_addr".toList, start.owner.toChars)] := by
  have hevent : Fields.IsItem "P2P-GROUP-STARTED".toList none := .word (by decide) (by decide)
  have hspace : ' ' ∉ start.interface := by
    intro hmem
    have hblank := h.interface_word ' ' hmem
    revert hblank
    decide
  -- The name of an interface may look like a field, but it opens no quote.
  obtain ⟨field, hinterface⟩ := Fields.IsItem.exists_field
    (fun c hc => h.interface_word c (List.mem_of_mem_head? hc)) hspace h.interface_plain
  have hname := isItem_quotedText "ssid" (by decide) (by decide) h.networkName_plain
  have hfrequency : Fields.IsItem (assignment "freq" (toString start.frequency).toList)
      (some ("freq".toList, (toString start.frequency).toList)) := by
    rw [Text.toList_toString]
    exact Fields.isItem_assignment "freq" (by decide) (by decide)
      (Text.forall_mem_toDigits (by omega) (by decide) start.frequency)
  have hpassphrase := isItem_quotedText "passphrase" (by decide) (by decide) h.passphrase_plain
  have howner := Fields.isItem_assignment "go_dev_addr" (by decide) (by decide)
    (MacAddress.forall_mem_toChars (by decide) (by decide) start.owner)
  have hmark : List.Forall₂ Fields.IsItem (if start.isPersistent then [persistentMark] else [])
      (if start.isPersistent then [none] else []) := by
    split_ifs
    · exact .cons (.word (by decide) (by decide)) .nil
    · exact .nil
  -- Every part is one item, so the items of the line are those of the parts.
  have hparts : List.Forall₂ Fields.IsItem start.parts _ :=
    List.rel_append (.cons hevent (.cons hinterface (.cons (isItem_role start) (.cons hname
      (.cons hfrequency (.cons hpassphrase (.cons howner .nil))))))) hmark
  refine ⟨field, ?_⟩
  rw [line, Fields.items_intercalate hparts, List.flatMap_append]
  split_ifs <;> simp

/-- A key that follows the interface is looked up behind it. -/
lemma get?_line (h : start.IsWellFormed) {key value : String}
    (hget : Fields.get? ⟨[("ssid".toList, start.networkName),
        ("freq".toList, (toString start.frequency).toList),
        ("passphrase".toList, start.passphrase),
        ("go_dev_addr".toList, start.owner.toChars)]⟩ key = some value) :
    (Fields.ofLine start.line).get? key = some value := by
  obtain ⟨field, hitems⟩ := exists_items_line h
  have hline : Fields.ofLine start.line = ⟨_⟩ := congrArg Fields.mk hitems
  rw [hline, Fields.get?_append, hget, Option.some_or]

/-- A group that starts is read as it was reported, but for the mark: it is persistent if it was
marked so, and also if the mark strays into the report. -/
theorem ofLine?_line (start : GroupStart) (h : start.IsWellFormed) :
    ∃ group, Group.ofLine? start.line = some group ∧
      group.interface = some (String.ofList start.interface) ∧
      group.isOwner = start.isOwner ∧
      group.networkName = some (String.ofList start.networkName) ∧
      group.frequency = some start.frequency ∧
      group.passphrase = some (String.ofList start.passphrase) ∧
      group.ownerAddress = some start.owner.render ∧
      (group.persistent = true ↔ start.isPersistent = true ∨ start.HasStrayMark) := by
  have hgroup : Group.ofLine? start.line
      = some (Group.ofChange start.line start.interface start.role) := by
    rw [Group.ofLine?, words_line h]
    exact if_pos (by decide)
  have hrole : decide (start.role = "GO".toList) = start.isOwner := by
    unfold role
    cases start.isOwner <;> decide
  have hfrequency : Text.word? 10 32 (toString start.frequency).toList = some start.frequency := by
    rw [Text.toList_toString]
    exact Text.word?_toDigits (by omega) (by omega) h.frequency_lt
  refine ⟨_, hgroup, rfl, hrole, get?_line h rfl, ?_, get?_line h rfl, get?_line h rfl, ?_⟩
  · have hget : (Fields.ofLine start.line).get? "freq"
        = some (String.ofList (toString start.frequency).toList) := get?_line h rfl
    simp only [Group.ofChange, hget, Option.bind_some, String.toList_ofList, hfrequency]
  · rw [← mark_mem_words_iff h]
    exact List.contains_iff_mem

/-- A marked group with a name of several words. -/
theorem ofLine?_line_spacedName :
    ∃ start : GroupStart, start.IsWellFormed ∧ start.networkName = "DIRECT-W8 freq=1 'x".toList ∧
      ∃ group, Group.ofLine? start.line = some group ∧ group.frequency = some 2437 ∧
        group.networkName = some "DIRECT-W8 freq=1 'x" ∧ group.isOwner = true ∧
        group.persistent = true := by
  have hwell : IsWellFormed ⟨"p2p-wlan0-0".toList, true, "DIRECT-W8 freq=1 'x".toList, 2437,
      "fKG4jMe3".toList, ⟨0xfa, 0x7b, 0x7a, 0x42, 0x02, 0x13⟩, true⟩ := by
    refine ⟨by decide, by decide, ?_, by decide, by decide, by decide⟩
    rintro quote (rfl | rfl) <;> decide
  obtain ⟨group, hgroup, -, howner, hname, hfrequency, -, -, hpersistent⟩ := ofLine?_line _ hwell
  exact ⟨_, hwell, rfl, group, hgroup, hfrequency, hname, howner, hpersistent.2 (.inl rfl)⟩

/-- A name with the mark between two of its spaces makes an unmarked group persistent, and an
interface that opens a quote takes the name of the group with it. -/
theorem ofLine?_line_astray :
    (∃ start : GroupStart, start.networkName = "a [PERSISTENT] b".toList ∧
      start.isPersistent = false ∧
      (Group.ofLine? start.line).map Group.networkName = some (some "a [PERSISTENT] b") ∧
      (Group.ofLine? start.line).map Group.persistent = some true) ∧
    ∃ start : GroupStart, start.interface = "a=\"".toList ∧ start.networkName = "DIRECT".toList ∧
      (Group.ofLine? start.line).map Group.networkName = some none := by
  refine ⟨⟨⟨"p2p-wlan0-0".toList, true, "a [PERSISTENT] b".toList, 2437, "fKG4jMe3".toList,
      ⟨0xfa, 0x7b, 0x7a, 0x42, 0x02, 0x13⟩, false⟩, rfl, rfl, ?_, ?_⟩,
    ⟨"a=\"".toList, true, "DIRECT".toList, 2437, "fKG4jMe3".toList,
      ⟨0xfa, 0x7b, 0x7a, 0x42, 0x02, 0x13⟩, false⟩, rfl, rfl, ?_⟩
  · decide +kernel
  · decide +kernel
  · decide +kernel

end GroupStart

end SupplicantWatch.Peer
