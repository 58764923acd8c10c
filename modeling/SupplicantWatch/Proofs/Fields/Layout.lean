import Mathlib.Tactic.Common
import SupplicantWatch.Proofs.Fields.Bytes

/-!
# The fields of a line that is laid out in items

An item is a word, or a key with a value that runs to the next space or stands between quotes. The
main statement is `lastValue?_and_progress`: of items with spaces between them the last with a key
has the value that is found for it, and whatever a line is, each round takes something off it.
-/

namespace SupplicantWatch.Fields

open Utf8 (encode)

/-- An item as it stands in a line. -/
inductive Item where
  | word (text : List Char)
  | plain (key val : List Char)
  | quoted (quote : Char) (key val : List Char)
deriving DecidableEq, Repr

namespace Item

/-- The characters of an item. -/
def text : Item → List Char
  | word text => text
  | plain key val => key ++ '=' :: val
  | quoted quote key val => key ++ '=' :: quote :: (val ++ [quote])

/-- The field that an item is. -/
def field? : Item → Option (List Char × List Char)
  | word _ => none
  | plain key val | quoted _ key val => some (key, val)

/-- A text can be a word, or the key of a field. -/
structure IsName (s : List Char) : Prop where
  ne_nil : s ≠ []
  notMem : ' ' ∉ s ∧ '=' ∉ s
  starts : ∀ c ∈ s.head?, Text.isBlank c = false

/-- The parts of an item do not run into each other, nor does the item run into the next. -/
def WellFormed : Item → Prop
  | word text => IsName text
  | plain key val => IsName key ∧ ' ' ∉ val ∧ ∀ c ∈ val.head?, ¬IsQuote c
  | quoted quote key val => IsName key ∧ IsQuote quote ∧ quote ∉ val

/-- The value of the last item with a key. -/
def lastValue? (key : List Char) : List Item → Option (List Char)
  | [] => none
  | item :: items =>
    (lastValue? key items).or ((item.field?.filter (·.1 = key)).map (·.2))

end Item

/-- A line is some items in a row, with one space or more between each two of them. -/
inductive LaidOut : List Item → List Char → Prop
  | nil : LaidOut [] []
  | single (item : Item) : LaidOut [item] item.text
  | cons (item : Item) (more : Nat) {next : Item} {items : List Item} {line : List Char}
      (behind : LaidOut (next :: items) line) :
      LaidOut (item :: next :: items) (item.text ++ ' ' :: (List.replicate more ' ' ++ line))

variable {item : Item} {items : List Item} {line key s : List Char}

/-! ### Items in a row -/

lemma Item.IsName.starts_append (h : Item.IsName key) :
    ∀ c ∈ (key ++ ['=']).head?, Text.isBlank c = false := by
  rw [List.head?_append_of_ne_nil _ h.ne_nil]
  exact h.starts

/-- A well-formed item is read as the field that it is. -/
lemma Item.WellFormed.isItem (h : item.WellFormed) : IsItem item.text item.field? := by
  cases item with
  | word text => exact .word h.starts h.notMem
  | plain key val =>
    obtain ⟨hkey, hspace, hval⟩ := h
    exact .plain hkey.starts_append hkey.notMem hval hspace
  | quoted quote key val =>
    obtain ⟨hkey, hquote, hval⟩ := h
    exact .quoted hkey.starts_append hkey.notMem hquote hval

lemma ofLine_replicate_append (n : Nat) (line : List Char) :
    ofLine (List.replicate n ' ' ++ line) = ofLine line := by
  induction n with
  | zero => rfl
  | succ n ih =>
    rw [List.replicate_succ, List.cons_append, ← ih, ← ofLine_trimStart (' ' :: _)]
    exact ofLine_trimStart _

/-- The fields of a line that is laid out are those of its items, in their order. -/
theorem LaidOut.items_ofLine (h : LaidOut items line) (hitems : ∀ item ∈ items, item.WellFormed) :
    (ofLine line).items = items.flatMap (·.field?.toList) := by
  induction h with
  | nil =>
    rw [ofLine_nil]
    rfl
  | single item =>
    rw [(hitems item List.mem_cons_self).isItem.items_eq, List.flatMap_singleton]
  | cons item more behind ih =>
    rw [List.forall_mem_cons] at hitems
    rw [hitems.1.isItem.items_append, ofLine_replicate_append, ih hitems.2]
    rfl

lemma get?_flatMap_field? (key : String) (items : List Item) :
    get? ⟨items.flatMap (·.field?.toList)⟩ key
      = (Item.lastValue? key.toList items).map String.ofList := by
  induction items with
  | nil => rfl
  | cons item items ih =>
    have hone : get? ⟨item.field?.toList⟩ key
        = ((item.field?.filter (·.1 = key.toList)).map (·.2)).map String.ofList := by
      cases item.field? with
      | none => rfl
      | some field =>
        rw [get?, Option.toList_some, List.reverse_singleton, List.find?_singleton,
          Option.filter_some, Option.map_map]
        rfl
    rw [List.flatMap_cons, get?_append, ih, hone, Item.lastValue?, Option.map_or]

/-! ### Lines of any kind -/

/-- A round leaves the end of a text, and less of it. -/
lemma exists_roundBytes (hne : s ≠ []) :
    ∃ field rest, roundBytes (encode s) = .ok (field, encode rest) ∧ rest <:+ s
      ∧ (encode rest).length < (encode s).length := by
  obtain ⟨c, s, rfl⟩ := List.exists_cons_of_ne_nil hne
  refine ⟨_, _, roundBytes_encode _, item_snd_suffix _, ?_⟩
  obtain ⟨front, hfront⟩ := item_snd_suffix (c :: s)
  have hitem := length_item_le c s
  have hlength := congrArg List.length hfront
  rw [List.length_append, List.length_cons] at hlength
  have hle := Utf8.length_le_length_encode front
  have hbytes := Utf8.length_encode_append front (item (c :: s)).2
  rw [hfront] at hbytes
  omega

/-- Of items in a row the last one with a key has the value that is found for the key, and without
such an item none is. Whatever a line is, each round takes a byte or more off it, and the rounds
come to an end. -/
theorem lastValue?_and_progress :
    (∀ items line, LaidOut items line → (∀ item ∈ items, item.WellFormed) → ∀ key : String,
        (ofLine line).get? key = (Item.lastValue? key.toList items).map String.ofList)
      ∧ (∀ s, s ≠ [] → ∃ field rest, roundBytes (encode s) = .ok (field, encode rest) ∧ rest <:+ s
          ∧ (encode rest).length < (encode s).length)
      ∧ ∀ line, ofBytes (encode line) = .ok ((ofLine line).items.map encodeField) := by
  refine ⟨?_, fun s => exists_roundBytes, ofBytes_encode⟩
  intro items line h hitems key
  rw [← get?_flatMap_field?, ← h.items_ofLine hitems]

/-- The second name counts, and what stands in its quotes is no field. -/
theorem lastValue?_repeated :
    (ofLine "found name=a  id='x y=z' name=\"b id='q' \"".toList).get? "name" = some "b id='q' "
      ∧ (ofLine "found name=a  id='x y=z' name=\"b id='q' \"".toList).get? "id" = some "x y=z"
      ∧ ∃ field rest, roundBytes (encode ['=']) = .ok (field, encode rest) ∧ rest <:+ ['=']
          ∧ (encode rest).length < (encode ['=']).length := by
  have hname (s : String) (h : s = "found" ∨ s = "name" ∨ s = "id") : Item.IsName s.toList := by
    rcases h with rfl | rfl | rfl <;>
      exact ⟨by decide, by decide, by decide⟩
  have hline : LaidOut
      [.word "found".toList, .plain "name".toList "a".toList,
        .quoted '\x27' "id".toList "x y=z".toList, .quoted '\x22' "name".toList "b id='q' ".toList]
      "found name=a  id='x y=z' name=\"b id='q' \"".toList :=
    .cons _ 0 (.cons _ 1 (.cons _ 0 (.single _)))
  have hitems : ∀ item ∈ [Item.word "found".toList, .plain "name".toList "a".toList,
      .quoted '\x27' "id".toList "x y=z".toList, .quoted '\x22' "name".toList "b id='q' ".toList],
      item.WellFormed := by
    rw [List.forall_mem_cons, List.forall_mem_cons, List.forall_mem_cons, List.forall_mem_singleton]
    exact ⟨hname _ (.inl rfl), ⟨hname _ (.inr (.inl rfl)), by decide, by decide⟩,
      ⟨hname _ (.inr (.inr rfl)), by decide, by decide⟩,
      ⟨hname _ (.inr (.inl rfl)), by decide, by decide⟩⟩
  exact ⟨(lastValue?_and_progress.1 _ _ hline hitems "name").trans rfl,
    (lastValue?_and_progress.1 _ _ hline hitems "id").trans rfl,
    lastValue?_and_progress.2.1 ['='] (List.cons_ne_nil _ _)⟩

end SupplicantWatch.Fields
