/-!
# Tables ordered by key

A finite map from strings, kept as a list in increasing order of its keys. The order is that of
the code points, which is also that of the UTF-8 bytes. Main statements: what `insert` does to a
look-up, and that a look-up finds exactly the entries of the list.
-/

namespace SupplicantWatch

/-- A finite map from strings whose entries stand in strictly increasing order of their keys. -/
structure Table (α : Type) where
  toList : List (String × α)
  sorted : toList.Pairwise fun a b => a.1 < b.1
deriving DecidableEq

namespace Table

variable {α : Type}

def empty : Table α :=
  ⟨[], .nil⟩

instance : Inhabited (Table α) := ⟨empty⟩

/-- Puts an entry in its place among entries in order, where it replaces one of the same key. -/
def insertEntry (key : String) (value : α) : List (String × α) → List (String × α)
  | [] => [(key, value)]
  | entry :: entries =>
    if key < entry.1 then (key, value) :: entry :: entries
    else if key = entry.1 then (key, value) :: entries
    else entry :: insertEntry key value entries

theorem of_mem_insertEntry {key : String} {value : α} {entries : List (String × α)}
    {entry : String × α} (h : entry ∈ insertEntry key value entries) :
    entry = (key, value) ∨ entry ∈ entries := by
  induction entries with
  | nil => simpa [insertEntry] using h
  | cons e entries ih =>
    unfold insertEntry at h
    split at h
    · simpa using h
    · split at h
      · rcases List.mem_cons.1 h with h | h
        · exact .inl h
        · exact .inr (List.mem_cons_of_mem _ h)
      · rcases List.mem_cons.1 h with h | h
        · exact .inr (by simp [h])
        · exact (ih h).imp_right (List.mem_cons_of_mem _)

theorem sorted_insertEntry (key : String) (value : α) {entries : List (String × α)}
    (h : entries.Pairwise fun a b => a.1 < b.1) :
    (insertEntry key value entries).Pairwise fun a b => a.1 < b.1 := by
  induction entries with
  | nil => simp [insertEntry]
  | cons e entries ih =>
    obtain ⟨he, hs⟩ := List.pairwise_cons.1 h
    unfold insertEntry
    split
    · next hlt =>
      refine List.pairwise_cons.2 ⟨fun b hb => ?_, h⟩
      rcases List.mem_cons.1 hb with rfl | hb
      · exact hlt
      · exact String.lt_trans hlt (he b hb)
    · next hlt =>
      split
      · next heq => exact List.pairwise_cons.2 ⟨fun b hb => heq ▸ he b hb, hs⟩
      · next hne =>
        refine List.pairwise_cons.2 ⟨fun b hb => ?_, ih hs⟩
        rcases of_mem_insertEntry hb with rfl | hb
        · exact Std.lt_of_le_of_ne (String.not_lt.1 hlt) (Ne.symm hne)
        · exact he b hb

/-- The table with the value under the key, in place of one that was there. -/
def insert (t : Table α) (key : String) (value : α) : Table α :=
  ⟨insertEntry key value t.toList, sorted_insertEntry key value t.sorted⟩

def get? (t : Table α) (key : String) : Option α :=
  t.toList.lookup key

/-- The table in which a later entry of the list replaces an earlier one of the same key. -/
def ofList (entries : List (String × α)) : Table α :=
  entries.foldl (fun t entry => t.insert entry.1 entry.2) empty

def mapValues (t : Table α) (f : α → α) : Table α :=
  ⟨t.toList.map fun entry => (entry.1, f entry.2), by
    refine List.pairwise_map.2 (t.sorted.imp ?_)
    intro a b h
    exact h⟩

@[simp] theorem get?_empty (key : String) : (empty : Table α).get? key = none := rfl

/-- A look-up tries the entries in their order. -/
theorem lookup_cons_ite {κ : Type} [BEq κ] [LawfulBEq κ] [DecidableEq κ] (key : κ) (entry : κ × α)
    (entries : List (κ × α)) :
    (entry :: entries).lookup key = if key = entry.1 then some entry.2 else entries.lookup key := by
  obtain ⟨k, v⟩ := entry
  by_cases h : key = k
  · simp [h]
  · simp [List.lookup_cons, h, beq_eq_false_iff_ne.2 h]

private theorem lookup_insertEntry (key key' : String) (value : α) (entries : List (String × α)) :
    (insertEntry key value entries).lookup key'
      = if key' = key then some value else entries.lookup key' := by
  induction entries with
  | nil => simp [insertEntry, lookup_cons_ite]
  | cons e entries ih =>
    unfold insertEntry
    split
    · rw [lookup_cons_ite]
    · split
      · next heq =>
        rw [lookup_cons_ite, lookup_cons_ite, ← heq]
        split <;> simp [*]
      · next hne =>
        rw [lookup_cons_ite, lookup_cons_ite, ih]
        by_cases h : key' = key
        · simp [h, hne]
        · simp [h]

private theorem lookup_eq_some_iff {key : String} {value : α} {entries : List (String × α)}
    (h : entries.Pairwise fun a b => a.1 < b.1) :
    entries.lookup key = some value ↔ (key, value) ∈ entries := by
  induction entries with
  | nil => simp
  | cons e entries ih =>
    obtain ⟨k, v⟩ := e
    obtain ⟨he, hs⟩ := List.pairwise_cons.1 h
    rw [lookup_cons_ite, List.mem_cons]
    by_cases hk : key = k
    · subst hk
      have hn : (key, value) ∉ entries := fun hm =>
        String.lt_irrefl key (he (key, value) hm)
      simp [hn, eq_comm]
    · simp [hk, ih hs]

/-- A look-up finds the entries of the table and nothing else. -/
theorem get?_eq_some_iff {t : Table α} {key : String} {value : α} :
    t.get? key = some value ↔ (key, value) ∈ t.toList :=
  lookup_eq_some_iff t.sorted

/-- After an insertion the key has the new value and every other key what it had before. -/
theorem get?_insert (t : Table α) (key key' : String) (value : α) :
    (t.insert key value).get? key' = if key' = key then some value else t.get? key' :=
  lookup_insertEntry key key' value t.toList

private theorem lookup_map (f : α → α) (key : String) (entries : List (String × α)) :
    (entries.map fun entry => (entry.1, f entry.2)).lookup key = (entries.lookup key).map f := by
  induction entries with
  | nil => rfl
  | cons e entries ih =>
    rw [List.map_cons, lookup_cons_ite, lookup_cons_ite, ih]
    split <;> simp

theorem get?_mapValues (t : Table α) (f : α → α) (key : String) :
    (t.mapValues f).get? key = (t.get? key).map f :=
  lookup_map f key t.toList

end Table

end SupplicantWatch
