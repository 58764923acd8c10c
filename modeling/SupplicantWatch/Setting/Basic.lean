import SupplicantWatch.Binary64

/-!
# Values of settings

What a source of settings says, before anybody knows which type is wanted. A later value is laid
over an earlier one: tables are merged, and anything else replaces what was there. Main statements:
`get?_update` and `getElem?_items_updateAt`, what a change in one place does to every place.
-/

namespace SupplicantWatch

/-- A value of a source of settings. The keys of a table are distinct. -/
inductive Setting where
  /-- Nothing has been said. -/
  | unset
  | string (s : String)
  | int (n : Int)
  | float (x : Binary64)
  | bool (b : Bool)
  | list (items : List Setting)
  | table (entries : List (String × Setting))

namespace Setting

/-! ### Tables -/

/-- The entries of a table; other values have none. -/
def entries : Setting → List (String × Setting)
  | table entries => entries
  | _ => []

def get? (key : String) (s : Setting) : Option Setting :=
  s.entries.lookup key

/-- Some entries with the value under one key changed, where a missing one is unset. -/
def updateEntries (key : String) (f : Setting → Setting) :
    List (String × Setting) → List (String × Setting)
  | [] => [(key, f unset)]
  | (k, s) :: rest => if key = k then (k, f s) :: rest else (k, s) :: updateEntries key f rest

/-- A table with the value under one key changed. A value that was no table becomes one. -/
def update (key : String) (f : Setting → Setting) (s : Setting) : Setting :=
  table (updateEntries key f s.entries)

/-- An empty table in the place of an unset value. -/
def orTable : Setting → Setting
  | unset => table []
  | s => s

mutual

/-- The first value laid over the second. -/
def merge : Setting → Setting → Setting
  | table entries, under => mergeEntries entries under.orTable
  | s, _ => s

/-- Some entries laid over a value, one after the other. -/
def mergeEntries : List (String × Setting) → Setting → Setting
  | [], under => under
  | (key, s) :: rest, under => mergeEntries rest (under.update key (merge s))

end

private theorem lookup_updateEntries (key key' : String) (f : Setting → Setting)
    (entries : List (String × Setting)) :
    (updateEntries key f entries).lookup key'
      = if key' = key then some (f ((entries.lookup key).getD unset))
        else entries.lookup key' := by
  induction entries with
  | nil =>
    by_cases h : key' = key
    · simp [updateEntries, h]
    · simp [updateEntries, List.lookup_cons, h, beq_eq_false_iff_ne.2 h]
  | cons entry entries ih =>
    obtain ⟨k, s⟩ := entry
    by_cases hk : key = k
    · subst hk
      by_cases h : key' = key
      · simp [updateEntries, h]
      · simp [updateEntries, List.lookup_cons, h, beq_eq_false_iff_ne.2 h]
    · have hk' : (key == k) = false := beq_eq_false_iff_ne.2 hk
      by_cases h : key' = k
      · subst h
        simp [updateEntries, hk, Ne.symm hk]
      · have h' : (key' == k) = false := beq_eq_false_iff_ne.2 h
        simp [updateEntries, List.lookup_cons, hk, hk', h', ih]

/-- A change under one key shows there and under no other key. -/
theorem get?_update (key key' : String) (f : Setting → Setting) (s : Setting) :
    (s.update key f).get? key'
      = if key' = key then some (f ((s.get? key).getD unset)) else s.get? key' :=
  lookup_updateEntries key key' f s.entries

/-! ### Lists -/

/-- The items of a list; other values have none. -/
def items : Setting → List Setting
  | list items => items
  | _ => []

/-- The items of a list with unset values around them so that there is an item at the index, which
counts from the end if it is negative, and the place of that item. -/
def reach (i : Int) (items : List Setting) : List Setting × Nat :=
  if 0 ≤ i then (items ++ List.replicate (i.toNat + 1 - items.length) unset, i.toNat)
  else
    let back := (-i).toNat
    (List.replicate (back - items.length) unset ++ items, items.length - back)

/-- A list with the item at an index changed. A value that was no list becomes one. -/
def updateAt (i : Int) (f : Setting → Setting) (s : Setting) : Setting :=
  let (items, place) := reach i s.items
  list (items.modify place f)

/-- There is an item at an index that a list reaches. -/
theorem lt_length_reach (i : Int) (items : List Setting) :
    (reach i items).2 < (reach i items).1.length := by
  unfold reach
  split
  · simp only [List.length_append, List.length_replicate]
    omega
  · simp only [List.length_append, List.length_replicate]
    omega

/-- A change at one index of a list shows at the place of the index and nowhere else. -/
theorem getElem?_items_updateAt (i : Int) (f : Setting → Setting) (s : Setting) (k : Nat) :
    (s.updateAt i f).items[k]?
      = if k = (reach i s.items).2 then (reach i s.items).1[k]?.map f
        else (reach i s.items).1[k]? := by
  change ((reach i s.items).1.modify (reach i s.items).2 f)[k]? = _
  rw [List.getElem?_modify]
  by_cases h : k = (reach i s.items).2
  · simp [h]
  · simp [h, Ne.symm h]

end Setting

end SupplicantWatch
