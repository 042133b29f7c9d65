/-
  ClassSkeleton.Table — tables from keys to values.

  A list of pairs in the order the keys came; putting a known key replaces its value in place.
-/

namespace ClassSkeleton

abbrev Table (κ ν : Type) := List (κ × ν)

namespace Table

variable {κ ν : Type} [DecidableEq κ]

def get? (t : Table κ ν) (k : κ) : Option ν :=
  match t with
  | [] => none
  | (k', v) :: rest => if k' = k then some v else get? rest k

def put (t : Table κ ν) (k : κ) (v : ν) : Table κ ν :=
  match t with
  | [] => [(k, v)]
  | (k', v') :: rest => if k' = k then (k, v) :: rest else (k', v') :: put rest k v

def erase (t : Table κ ν) (k : κ) : Table κ ν :=
  match t with
  | [] => []
  | (k', v) :: rest => if k' = k then erase rest k else (k', v) :: erase rest k

theorem mem_of_get? {t : Table κ ν} {k : κ} {v : ν} (h : get? t k = some v) : (k, v) ∈ t := by
  induction t with
  | nil => simp [get?] at h
  | cons e rest ih =>
    simp only [get?] at h
    split at h
    · next hk =>
      cases h
      rw [← hk]
      exact List.mem_cons_self
    · exact List.mem_cons_of_mem _ (ih h)

theorem mem_keys_of_get? {t : Table κ ν} {k : κ} {v : ν} (h : get? t k = some v) : k ∈ t.map (·.1) :=
  List.mem_map.2 ⟨(k, v), mem_of_get? h, rfl⟩

@[simp] theorem get?_put (t : Table κ ν) (k k' : κ) (v : ν) :
    get? (put t k v) k' = if k = k' then some v else get? t k' := by
  induction t with
  | nil => simp [put, get?]
  | cons e rest ih =>
    obtain ⟨k₀, v₀⟩ := e
    simp only [put]
    split <;> simp only [get?] <;> grind

@[simp] theorem get?_erase (t : Table κ ν) (k k' : κ) :
    get? (erase t k) k' = if k = k' then none else get? t k' := by
  induction t with
  | nil => simp [erase, get?]
  | cons e rest ih =>
    obtain ⟨k₀, v₀⟩ := e
    simp only [erase]
    split <;> simp only [get?] <;> grind

/-- A table made by giving every key of a list its value. -/
theorem get?_map_self (f : κ → ν) {keys : List κ} {k : κ} (hk : k ∈ keys) :
    get? (keys.map fun k => (k, f k)) k = some (f k) := by
  induction keys with
  | nil => cases hk
  | cons k' keys ih =>
    simp only [List.map_cons, get?]
    split
    · next he => rw [he]
    · next hne => exact ih ((List.mem_cons.1 hk).resolve_left (Ne.symm hne))

end Table

end ClassSkeleton
