/-!
# Association lists

Values under keys, in the order in which the keys were first set. Setting a key that is there replaces
its value in place.
-/

namespace Delimited.Assoc

variable {κ α : Type} [DecidableEq κ]

/-- The value under a key. -/
def get? (key : κ) : List (κ × α) → Option α
  | [] => none
  | entry :: rest => if entry.1 = key then some entry.2 else get? key rest

/-- Put a value under a key, in place of the one that is there. -/
def set (key : κ) (value : α) : List (κ × α) → List (κ × α)
  | [] => [(key, value)]
  | entry :: rest =>
      if entry.1 = key then (key, value) :: rest else entry :: set key value rest

/-- Take a key out. -/
def erase (key : κ) : List (κ × α) → List (κ × α)
  | [] => []
  | entry :: rest => if entry.1 = key then rest else entry :: erase key rest

/-- A value that was put under a key is found there. -/
@[simp] theorem get?_set_self (key : κ) (value : α) (entries : List (κ × α)) :
    get? key (set key value entries) = some value := by
  induction entries with
  | nil => simp [set, get?]
  | cons entry rest ih =>
      simp only [set]
      split
      · simp [get?]
      · rename_i hne
        simpa [get?, hne] using ih

/-- Putting a value under a key leaves the other keys alone. -/
theorem get?_set_of_ne {key other : κ} (h : other ≠ key) (value : α)
    (entries : List (κ × α)) : get? other (set key value entries) = get? other entries := by
  induction entries with
  | nil => simp [set, get?, h.symm]
  | cons entry rest ih =>
      simp only [set]
      split
      · rename_i heq
        simp [get?, heq, h.symm]
      · simp only [get?]
        split
        · rfl
        · exact ih

/-- A key that is not there is put behind the others. -/
theorem set_of_notMem {key : κ} {entries : List (κ × α)} (h : key ∉ entries.map Prod.fst)
    (value : α) : set key value entries = entries ++ [(key, value)] := by
  induction entries with
  | nil => rfl
  | cons entry rest ih =>
      rw [List.map_cons, List.mem_cons, not_or] at h
      rw [set, if_neg (Ne.symm h.1), ih h.2, List.cons_append]

/-- Putting a value under a key brings no other entry in. -/
theorem mem_set {key : κ} {value : α} {entry : κ × α} {entries : List (κ × α)}
    (h : entry ∈ set key value entries) : entry = (key, value) ∨ entry ∈ entries := by
  induction entries with
  | nil => exact Or.inl (List.mem_singleton.mp h)
  | cons first rest ih =>
      simp only [set] at h
      split at h
      · exact (List.mem_cons.mp h).imp_right (List.mem_cons_of_mem first)
      · rcases List.mem_cons.mp h with rfl | hrest
        · exact Or.inr List.mem_cons_self
        · exact (ih hrest).imp_right (List.mem_cons_of_mem first)

/-- Keys that are there once stay there once. -/
theorem nodup_set {entries : List (κ × α)} (h : (entries.map Prod.fst).Nodup) (key : κ)
    (value : α) : ((set key value entries).map Prod.fst).Nodup := by
  induction entries with
  | nil => simp [set]
  | cons first rest ih =>
      rw [List.map_cons, List.nodup_cons] at h
      simp only [set]
      split
      · rename_i heq
        simpa [← heq] using h
      · rename_i hne
        rw [List.map_cons, List.nodup_cons]
        refine ⟨fun hmem ↦ ?_, ih h.2⟩
        obtain ⟨entry, hentry, hkey⟩ := List.mem_map.mp hmem
        rcases mem_set hentry with rfl | hrest
        · exact hne hkey.symm
        · exact h.1 (List.mem_map.mpr ⟨entry, hrest, hkey⟩)

/-- Taking a key out leaves the other keys alone. -/
theorem get?_erase_of_ne {key other : κ} (h : other ≠ key) (entries : List (κ × α)) :
    get? other (erase key entries) = get? other entries := by
  induction entries with
  | nil => rfl
  | cons entry rest ih =>
      simp only [erase]
      split
      · rename_i heq
        simp [get?, heq, h.symm]
      · simp only [get?]
        split
        · rfl
        · exact ih

end Delimited.Assoc
