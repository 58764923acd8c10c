import SupplicantWatch.Setting.Basic

/-!
# The tables of a document

The tables of a TOML document while it is read. A table remembers how it came to be, because that
decides what may still be added to it; a value, an inline table among them, is closed. Main
statements: `lookup_upsert`, what a change under one key does to every key, and `addValue_eq_none`,
a key never gets a second value.
-/

namespace SupplicantWatch.Toml

/-- How a table came to be. -/
inductive Origin where
  /-- As a part of the path of another table's header. -/
  | implied
  /-- By a header of its own. -/
  | header
  /-- As a part of a dotted key. -/
  | dotted
deriving DecidableEq, Repr

/-- What stands under a key. -/
inductive Node where
  | value (s : Setting)
  | table (origin : Origin) (entries : List (String × Node))
  /-- The tables under headers in double brackets: the closed ones, the latest first, and the one
  that is still open. -/
  | tables (closed : List Setting) (last : List (String × Node))

abbrev Entries : Type :=
  List (String × Node)

mutual

/-- The value that a node has in the end. -/
def Node.toSetting : Node → Setting
  | .value s => s
  | .table _ entries => .table (settings entries)
  | .tables closed last => .list (.table (settings last) :: closed).reverse

def settings : List (String × Node) → List (String × Setting)
  | [] => []
  | (key, node) :: rest => (key, node.toSetting) :: settings rest

end

/-- Some entries with what stands under a key changed or added. `f` is told what is there, and may
refuse. -/
def upsert (key : String) (f : Option Node → Option Node) : Entries → Option Entries
  | [] => (f none).map fun node => [(key, node)]
  | (k, node) :: rest =>
    if k = key then (f (some node)).map fun node => (k, node) :: rest
    else (upsert key f rest).map ((k, node) :: ·)

/-- A new value, where nothing is. -/
def newValue (s : Setting) : Option Node → Option Node
  | none => some (.value s)
  | some _ => none

/-- Adds a value under a dotted key. The tables on the way must be new or not have a header of their
own. -/
def addValue (s : Setting) : (path : List String) → Entries → Option Entries
  | [], _ => none
  | [key], entries => upsert key (newValue s) entries
  | key :: path, entries =>
    upsert key (fun
      | none => (addValue s path []).map (.table .dotted)
      | some (.table .header _) => none
      | some (.table origin entries) => (addValue s path entries).map (.table origin)
      | some _ => none) entries

/-- Changes what stands at the end of the path of a header, where `f` may refuse. In a list of
tables the path goes through the last one. -/
def descend (f : Option Node → Option Node) : (path : List String) → Entries → Option Entries
  | [], _ => none
  | [key], entries => upsert key f entries
  | key :: path, entries =>
    upsert key (fun
      | none => (descend f path []).map (.table .implied)
      | some (.table origin entries) => (descend f path entries).map (.table origin)
      | some (.tables closed last) => (descend f path last).map (.tables closed)
      | some (.value _) => none) entries

/-- The table of a header, which has none yet. -/
def openTable : Option Node → Option Node
  | none => some (.table .header [])
  | some (.table .implied entries) => some (.table .header entries)
  | some _ => none

/-- One more table of a header in double brackets. -/
def openElement : Option Node → Option Node
  | none => some (.tables [] [])
  | some (.tables closed last) => some (.tables (.table (settings last) :: closed) [])
  | some _ => none

/-- Adds a value under a dotted key to the table of the latest header, whose path may be empty. -/
def addUnder (header path : List String) (s : Setting) (entries : Entries) : Option Entries :=
  if header.isEmpty then addValue s path entries
  else
    descend (fun
      | some (.table origin entries) => (addValue s path entries).map (.table origin)
      | some (.tables closed last) => (addValue s path last).map (.tables closed)
      | _ => none) header entries

/-- After a change the key has what `f` made of what was there, and every other key what it had. -/
theorem lookup_upsert {key : String} {f : Option Node → Option Node} {entries entries' : Entries}
    (h : upsert key f entries = some entries') (key' : String) :
    entries'.lookup key'
      = if key' = key then f (entries.lookup key) else entries.lookup key' := by
  induction entries generalizing entries' with
  | nil =>
    obtain ⟨node, hf, rfl⟩ := Option.map_eq_some_iff.1 h
    by_cases hk : key' = key
    · simp [hk, hf]
    · simp [List.lookup_cons, hk, beq_eq_false_iff_ne.2 hk]
  | cons entry entries ih =>
    obtain ⟨k, node⟩ := entry
    simp only [upsert] at h
    split at h
    · next hk =>
      subst hk
      obtain ⟨node', hf, rfl⟩ := Option.map_eq_some_iff.1 h
      by_cases hk' : key' = k
      · simp [hk', hf]
      · simp [List.lookup_cons, hk', beq_eq_false_iff_ne.2 hk']
    · next hk =>
      obtain ⟨rest, hr, rfl⟩ := Option.map_eq_some_iff.1 h
      have hk' : (key == k) = false := beq_eq_false_iff_ne.2 (Ne.symm hk)
      by_cases he : key' = k
      · subst he
        simp [hk]
      · simp [List.lookup_cons, beq_eq_false_iff_ne.2 he, hk', ih hr]

/-- A change is refused exactly when `f` refuses what is there. -/
theorem upsert_eq_none_iff {key : String} {f : Option Node → Option Node} {entries : Entries} :
    upsert key f entries = none ↔ f (entries.lookup key) = none := by
  induction entries with
  | nil => simp [upsert]
  | cons entry entries ih =>
    obtain ⟨k, node⟩ := entry
    by_cases hk : k = key
    · simp [upsert, hk]
    · simp [upsert, List.lookup_cons, hk, beq_eq_false_iff_ne.2 (Ne.symm hk), ih]

/-- A key never gets a second value. -/
theorem addValue_eq_none {s : Setting} {key : String} {entries : Entries} {node : Node}
    (h : entries.lookup key = some node) : addValue s [key] entries = none := by
  simp [addValue, upsert_eq_none_iff, h, newValue]

end SupplicantWatch.Toml
