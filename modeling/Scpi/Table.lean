set_option autoImplicit false

namespace Scpi

structure Table (κ ν : Type) where
  rows : List (κ × ν)
deriving DecidableEq, Repr

namespace Table

variable {κ ν : Type}

def empty : Table κ ν := ⟨[]⟩

instance : Inhabited (Table κ ν) := ⟨empty⟩

def size (table : Table κ ν) : Nat := table.rows.length

def keys (table : Table κ ν) : List κ := table.rows.map Prod.fst

theorem size_keys (table : Table κ ν) : table.keys.length = table.size := List.length_map ..

variable [DecidableEq κ]

def lookup (key : κ) : List (κ × ν) → Option ν
  | [] => none
  | (other, value) :: rest => if other = key then some value else lookup key rest

-- A key that is written again keeps its place.
def put (key : κ) (value : ν) : List (κ × ν) → List (κ × ν)
  | [] => [(key, value)]
  | (other, old) :: rest =>
      if other = key then (key, value) :: rest else (other, old) :: put key value rest

def find? (table : Table κ ν) (key : κ) : Option ν := lookup key table.rows

def contains (table : Table κ ν) (key : κ) : Bool := (table.find? key).isSome

def insert (table : Table κ ν) (key : κ) (value : ν) : Table κ ν := ⟨put key value table.rows⟩

def modify (table : Table κ ν) (key : κ) (change : ν → ν) : Table κ ν :=
  ⟨table.rows.map fun row => if row.1 = key then (row.1, change row.2) else row⟩

def erase (table : Table κ ν) (key : κ) : Table κ ν := ⟨table.rows.filter fun row => row.1 ≠ key⟩

theorem lookup_put (key other : κ) (value : ν) (rows : List (κ × ν)) :
    lookup other (put key value rows) = if key = other then some value else lookup other rows := by
  induction rows with
  | nil => rfl
  | cons row rest ih =>
      rcases row with ⟨head, old⟩
      by_cases same : head = key
      · subst head
        by_cases hit : key = other <;> simp [put, lookup, hit]
      · by_cases hit : head = other
        · subst head
          simp [put, lookup, same, Ne.symm same]
        · simp [put, lookup, same, hit, ih]

theorem find_insert (table : Table κ ν) (key other : κ) (value : ν) :
    (table.insert key value).find? other = if key = other then some value else table.find? other :=
  lookup_put key other value table.rows

theorem find_erase (table : Table κ ν) (key other : κ) :
    (table.erase key).find? other = if key = other then none else table.find? other := by
  rcases table with ⟨rows⟩
  simp only [erase, find?]
  induction rows with
  | nil => simp [lookup]
  | cons row rest ih =>
      by_cases same : row.1 = key
      · rw [List.filter_cons_of_neg (by simpa using same), ih]
        by_cases hit : key = other <;> simp [lookup, same, hit]
      · rw [List.filter_cons_of_pos (by simpa using same), lookup, ih]
        by_cases hit : row.1 = other
        · simp [lookup, hit, Ne.symm (hit ▸ same)]
        · simp [lookup, hit]

theorem find_modify (table : Table κ ν) (key other : κ) (change : ν → ν) :
    (table.modify key change).find? other =
      if key = other then (table.find? other).map change else table.find? other := by
  rcases table with ⟨rows⟩
  simp only [modify, find?]
  induction rows with
  | nil => simp [lookup]
  | cons row rest ih =>
      rcases row with ⟨head, value⟩
      by_cases hit : head = other
      · by_cases same : key = other <;> simp [lookup, hit, same, eq_comm]
      · by_cases same : head = key
        · subst head
          simp [lookup, hit, ih]
        · simp [lookup, same, hit, ih]

theorem lookup_none_iff (key : κ) (rows : List (κ × ν)) :
    lookup key rows = none ↔ key ∉ rows.map Prod.fst := by
  induction rows with
  | nil => simp [lookup]
  | cons row rest ih =>
      by_cases same : row.1 = key
      · simp [lookup, same]
      · simp [lookup, same, ih, Ne.symm same]

theorem lookup_member (key : κ) (rows : List (κ × ν)) (value : ν) (found : lookup key rows = some value) :
    (key, value) ∈ rows := by
  induction rows with
  | nil => cases found
  | cons head rest ih =>
      rcases head with ⟨other, old⟩
      by_cases same : other = key
      · rw [lookup, if_pos same] at found
        rw [← same, Option.some.inj found]
        exact List.mem_cons_self
      · rw [lookup, if_neg same] at found
        exact List.mem_cons_of_mem _ (ih found)

theorem lookup_of_member (key : κ) (value : ν) (rows : List (κ × ν)) (distinct : (rows.map Prod.fst).Nodup)
    (member : (key, value) ∈ rows) : lookup key rows = some value := by
  induction rows with
  | nil => cases member
  | cons row rest ih =>
      obtain ⟨fresh, others⟩ := List.nodup_cons.mp distinct
      rcases List.mem_cons.mp member with rfl | later
      · exact if_pos rfl
      · have other : row.1 ≠ key := fun same => fresh (same ▸ List.mem_map_of_mem later)
        rw [lookup, if_neg other, ih others later]

theorem contains_iff (table : Table κ ν) (key : κ) : table.contains key = true ↔ key ∈ table.keys := by
  rw [contains, Option.isSome_iff_ne_none, ne_eq, find?, lookup_none_iff, Classical.not_not, keys]

theorem keys_put (key : κ) (value : ν) (rows : List (κ × ν)) :
    (put key value rows).map Prod.fst =
      if key ∈ rows.map Prod.fst then rows.map Prod.fst else rows.map Prod.fst ++ [key] := by
  induction rows with
  | nil => rfl
  | cons row rest ih =>
      by_cases same : row.1 = key
      · simp [put, same]
      · by_cases later : key ∈ rest.map Prod.fst <;> simp_all [put, Ne.symm same]

theorem put_member (key : κ) (value : ν) (rows : List (κ × ν)) (row : κ × ν)
    (member : row ∈ put key value rows) : row ∈ rows ∨ row = (key, value) := by
  induction rows with
  | nil => exact .inr (List.mem_singleton.mp member)
  | cons head rest ih =>
      rcases head with ⟨other, old⟩
      by_cases same : other = key
      · rw [put, if_pos same] at member
        rcases List.mem_cons.mp member with written | later
        · exact .inr written
        · exact .inl (List.mem_cons_of_mem _ later)
      · rw [put, if_neg same] at member
        rcases List.mem_cons.mp member with first | later
        · exact .inl (first ▸ List.mem_cons_self)
        · exact (ih later).imp_left (List.mem_cons_of_mem _)

theorem put_absent (key : κ) (value : ν) (rows : List (κ × ν)) (absent : key ∉ rows.map Prod.fst) :
    put key value rows = rows ++ [(key, value)] := by
  induction rows with
  | nil => rfl
  | cons row rest ih =>
      have other : row.1 ≠ key := fun same => absent (by simp [same])
      rw [put, if_neg other, ih fun later => absent (List.mem_cons_of_mem row.1 later), List.cons_append]

theorem put_present (key : κ) (value : ν) (rows : List (κ × ν)) (present : key ∈ rows.map Prod.fst)
    (distinct : (rows.map Prod.fst).Nodup) :
    put key value rows = rows.map fun row => if row.1 = key then (key, value) else row := by
  induction rows with
  | nil => cases present
  | cons row rest ih =>
      obtain ⟨fresh, others⟩ := List.nodup_cons.mp distinct
      by_cases same : row.1 = key
      · have kept : (rest.map fun row => if row.1 = key then (key, value) else row) = rest := by
          refine (List.map_congr_left ?_).trans (List.map_id rest)
          intro other member
          have different : other.1 ≠ key := fun again =>
            fresh (same.trans again.symm ▸ List.mem_map_of_mem member)
          exact if_neg different
        rw [put, if_pos same, List.map_cons, if_pos same, kept]
      · have later : key ∈ rest.map Prod.fst := by
          rcases List.mem_cons.mp present with here | later
          · exact absurd here.symm same
          · exact later
        rw [put, if_neg same, List.map_cons, if_neg same, ih later others]

theorem keys_insert (table : Table κ ν) (key : κ) (value : ν) :
    (table.insert key value).keys = if key ∈ table.keys then table.keys else table.keys ++ [key] :=
  keys_put key value table.rows

theorem insert_distinct (table : Table κ ν) (key : κ) (value : ν) (distinct : table.keys.Nodup) :
    (table.insert key value).keys.Nodup := by
  rw [keys_insert]
  split
  · exact distinct
  · rename_i absent
    refine List.nodup_append.mpr ⟨distinct, List.nodup_cons.mpr ⟨List.not_mem_nil, List.nodup_nil⟩, ?_⟩
    intro other member last added same
    exact absent (List.mem_singleton.mp added ▸ same ▸ member)

theorem insert_size (table : Table κ ν) (key : κ) (value : ν) :
    (table.insert key value).size = if key ∈ table.keys then table.size else table.size + 1 := by
  rw [← size_keys, keys_insert]
  split
  · exact size_keys table
  · rw [List.length_append, size_keys]
    rfl

theorem keys_erase (table : Table κ ν) (key : κ) :
    (table.erase key).keys = table.keys.filter (· ≠ key) := by
  simp [erase, keys, List.filter_map, Function.comp_def]

theorem filter_other (key : κ) (rows : List (κ × ν)) (absent : key ∉ rows.map Prod.fst) :
    rows.filter (fun row => row.1 ≠ key) = rows := by
  apply List.filter_eq_self.mpr
  intro row member
  have other : row.1 ≠ key := fun same => absent (same ▸ List.mem_map_of_mem member)
  exact decide_eq_true other

theorem keys_modify (table : Table κ ν) (key : κ) (change : ν → ν) :
    (table.modify key change).keys = table.keys := by
  simp only [modify, keys, List.map_map]
  apply List.map_congr_left
  intro row _
  by_cases same : row.1 = key <;> simp [same]

end Table

end Scpi
