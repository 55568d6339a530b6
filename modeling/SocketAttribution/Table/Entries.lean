/-!
# Entries

The contents of a table: rows of a key and a value, no key twice.

## Main definitions

* `Entries`: rows with distinct keys.
* `Entries.get?`, `Entries.put`, `Entries.erase`: reading, writing and removing.

## Design notes

The rows have an order, which a walk through the table shows. Where a new key goes is decided by
`before`, a relation that says which keys stay in front of it: with `fun _ _ => true` a new key goes
to the end, with a strict order on sorted rows it goes to its place. A key that is there keeps its
place.
-/

namespace SocketAttribution

namespace Rows

variable {K V : Type}

/-- The rows with a new row behind those that stay in front of it. -/
def insert (before : K → K → Bool) (key : K) (value : V) : List (K × V) → List (K × V)
  | [] => [(key, value)]
  | row :: rest =>
    if before row.1 key then row :: insert before key value rest else (key, value) :: row :: rest

/-- **A new row is added, and all others stay.** -/
theorem map_fst_insert_perm (before : K → K → Bool) (key : K) (value : V) (rows : List (K × V)) :
    ((insert before key value rows).map Prod.fst).Perm (key :: rows.map Prod.fst) := by
  induction rows with
  | nil => exact .refl _
  | cons row rest ih =>
    rw [insert]
    split
    · exact (ih.cons _).trans (.swap ..)
    · exact .refl _

variable [DecidableEq K]

/-- The value in the row of a key. -/
def find? (key : K) : List (K × V) → Option V
  | [] => none
  | row :: rest => if row.1 = key then some row.2 else find? key rest

/-- The rows with another value in the row of a key. -/
def replace (key : K) (value : V) : List (K × V) → List (K × V)
  | [] => []
  | row :: rest => if row.1 = key then (key, value) :: rest else row :: replace key value rest

/-- The rows without the row of a key. -/
def erase (key : K) : List (K × V) → List (K × V)
  | [] => []
  | row :: rest => if row.1 = key then rest else row :: erase key rest

theorem map_fst_replace (key : K) (value : V) (rows : List (K × V)) :
    (replace key value rows).map Prod.fst = rows.map Prod.fst := by
  induction rows with
  | nil => rfl
  | cons row rest ih =>
    rw [replace]
    split
    · next h => simp [h]
    · simp [ih]

theorem map_fst_erase (key : K) (rows : List (K × V)) :
    (erase key rows).map Prod.fst = (rows.map Prod.fst).erase key := by
  induction rows with
  | nil => rfl
  | cons row rest ih =>
    rw [erase, List.map_cons, List.erase_cons]
    split
    · next h => simp [h]
    · next h => simp [h, ih]

theorem find?_isSome_iff {key : K} {rows : List (K × V)} :
    (find? key rows).isSome ↔ key ∈ rows.map Prod.fst := by
  induction rows with
  | nil => simp [find?]
  | cons row rest ih =>
    rw [find?]
    split
    · next h => simp [h]
    · next h => simp [ih, Ne.symm h]

theorem find?_eq_none_iff {key : K} {rows : List (K × V)} :
    find? key rows = none ↔ key ∉ rows.map Prod.fst := by
  rw [← find?_isSome_iff, Bool.not_eq_true, Option.isSome_eq_false_iff, Option.isNone_iff_eq_none]

/-- **A new row is found, and hides no other.** -/
theorem find?_insert (before : K → K → Bool) {key : K} {value : V} {rows : List (K × V)}
    (absent : key ∉ rows.map Prod.fst) (k : K) :
    find? k (insert before key value rows) = if key = k then some value else find? k rows := by
  induction rows with
  | nil => rfl
  | cons row rest ih =>
    rw [List.map_cons, List.mem_cons, not_or] at absent
    rw [insert]
    split
    · rw [find?, find?, ih absent.2]
      by_cases same : key = k
      · have other : row.1 ≠ k := fun h => absent.1 (same.trans h.symm)
        simp only [if_pos same, if_neg other]
      · simp only [if_neg same]
    · rw [find?]

/-- **A replaced row is found with its new value, and no other changes.** -/
theorem find?_replace {key : K} {value : V} {rows : List (K × V)}
    (present : key ∈ rows.map Prod.fst) (k : K) :
    find? k (replace key value rows) = if key = k then some value else find? k rows := by
  induction rows with
  | nil => simp at present
  | cons row rest ih =>
    rw [replace]
    split
    · next found =>
      rw [find?, find?, found]
      split <;> rfl
    · next other =>
      have later : key ∈ rest.map Prod.fst := by
        simpa [Ne.symm other] using present
      rw [find?, find?, ih later]
      by_cases same : key = k
      · simp only [if_pos same, if_neg (same ▸ other)]
      · simp only [if_neg same]

/-- **An erased row is not found, and no other changes.** -/
theorem find?_erase {key : K} {rows : List (K × V)} (nodup : (rows.map Prod.fst).Nodup) (k : K) :
    find? k (erase key rows) = if key = k then none else find? k rows := by
  induction rows with
  | nil => simp [erase, find?]
  | cons row rest ih =>
    rw [List.map_cons, List.nodup_cons] at nodup
    rw [erase]
    split
    · next found =>
      rw [find?, found]
      split
      · next same => rw [find?_eq_none_iff, ← same, ← found]; exact nodup.1
      · rfl
    · next other =>
      rw [find?, find?, ih nodup.2]
      by_cases same : key = k
      · simp only [if_pos same, if_neg (same ▸ other)]
      · simp only [if_neg same]

/-- **A row is found by its key, and what is found is a row.** -/
theorem find?_eq_some_iff {key : K} {value : V} {rows : List (K × V)}
    (nodup : (rows.map Prod.fst).Nodup) : find? key rows = some value ↔ (key, value) ∈ rows := by
  induction rows with
  | nil => simp [find?]
  | cons row rest ih =>
    rw [List.map_cons, List.nodup_cons] at nodup
    rw [find?, List.mem_cons]
    split
    · next found =>
      have later : (key, value) ∉ rest := fun mem =>
        nodup.1 (found ▸ List.mem_map.2 ⟨_, mem, rfl⟩)
      simp [Prod.ext_iff, found, later, eq_comm]
    · next other =>
      rw [ih nodup.2]
      simp [Prod.ext_iff, Ne.symm other]

end Rows

/-- Rows of a key and a value, no key twice. -/
structure Entries (K V : Type) where
  rows : List (K × V)
  nodup : (rows.map Prod.fst).Nodup

namespace Entries

variable {K V : Type}

/-- No rows. -/
def empty : Entries K V := ⟨[], List.nodup_nil⟩

/-- The keys in order. -/
def keys (e : Entries K V) : List K := e.rows.map Prod.fst

/-- How many rows there are. -/
def size (e : Entries K V) : Nat := e.rows.length

@[simp] theorem keys_empty : (empty : Entries K V).keys = [] := rfl

@[simp] theorem size_empty : (empty : Entries K V).size = 0 := rfl

theorem length_keys (e : Entries K V) : e.keys.length = e.size := List.length_map ..

/-- The rows that pass a test. -/
def filter (test : K × V → Bool) (e : Entries K V) : Entries K V :=
  ⟨e.rows.filter test, (List.filter_sublist.map Prod.fst).nodup e.nodup⟩

variable [DecidableEq K]

/-- The value at a key. -/
def get? (e : Entries K V) (key : K) : Option V := Rows.find? key e.rows

/-- Whether a key is there. -/
def contains (e : Entries K V) (key : K) : Bool := (e.get? key).isSome

/-- The entries without a key. -/
def erase (e : Entries K V) (key : K) : Entries K V :=
  ⟨Rows.erase key e.rows, by rw [Rows.map_fst_erase]; exact e.nodup.erase key⟩

/-- The entries with a value at a key; a new key goes behind the keys that stay in front of it. -/
def put (before : K → K → Bool) (e : Entries K V) (key : K) (value : V) : Entries K V :=
  if h : e.contains key then
    ⟨Rows.replace key value e.rows, by rw [Rows.map_fst_replace]; exact e.nodup⟩
  else
    ⟨Rows.insert before key value e.rows, by
      rw [(Rows.map_fst_insert_perm before key value e.rows).nodup_iff, List.nodup_cons]
      exact ⟨fun found => h (Rows.find?_isSome_iff.2 found), e.nodup⟩⟩

theorem contains_iff {e : Entries K V} {key : K} : e.contains key = true ↔ key ∈ e.keys :=
  Rows.find?_isSome_iff

theorem get?_eq_some_iff {e : Entries K V} {key : K} {value : V} :
    e.get? key = some value ↔ (key, value) ∈ e.rows := Rows.find?_eq_some_iff e.nodup

@[simp] theorem get?_empty (key : K) : (empty : Entries K V).get? key = none := rfl

/-- **After a value was put at a key, it stands there, and all else is as before.** -/
theorem get?_put (before : K → K → Bool) (e : Entries K V) (key : K) (value : V) (k : K) :
    (e.put before key value).get? k = if key = k then some value else e.get? k := by
  rw [put]
  split
  · next present => exact Rows.find?_replace (contains_iff.1 present) k
  · next absent => exact Rows.find?_insert before (fun h => absent (contains_iff.2 h)) k

/-- A key that is there keeps its place. -/
theorem keys_put_of_contains {e : Entries K V} {key : K} (present : e.contains key = true)
    (before : K → K → Bool) (value : V) : (e.put before key value).keys = e.keys := by
  rw [put, dif_pos present]
  exact Rows.map_fst_replace key value e.rows

/-- A new key is added, and all others stay. -/
theorem keys_put_perm {e : Entries K V} {key : K} (fresh : key ∉ e.keys)
    (before : K → K → Bool) (value : V) : (e.put before key value).keys.Perm (key :: e.keys) := by
  rw [put, dif_neg fun present => fresh (contains_iff.1 present)]
  exact Rows.map_fst_insert_perm before key value e.rows

/-- Only a new key takes a place. -/
theorem size_put (before : K → K → Bool) (e : Entries K V) (key : K) (value : V) :
    (e.put before key value).size = if e.contains key then e.size else e.size + 1 := by
  rw [← length_keys, ← length_keys]
  split
  · next present => rw [keys_put_of_contains present]
  · next absent =>
    have fresh : key ∉ e.keys := fun mem => absent (contains_iff.2 mem)
    rw [(keys_put_perm fresh before value).length_eq, List.length_cons]

theorem size_erase_le (e : Entries K V) (key : K) : (e.erase key).size ≤ e.size := by
  rw [← length_keys, ← length_keys]
  have keys : (e.erase key).keys = e.keys.erase key := Rows.map_fst_erase key e.rows
  rw [keys]
  exact List.length_erase_le

/-- **After a key was erased, nothing stands there, and all else is as before.** -/
theorem get?_erase (e : Entries K V) (key k : K) :
    (e.erase key).get? k = if key = k then none else e.get? k :=
  Rows.find?_erase e.nodup k

end Entries

end SocketAttribution
