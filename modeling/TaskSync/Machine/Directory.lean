/-!
# TaskSync — directories

Things under keys, each key used once. A machine has few names, so a directory
is a list; the order is of no importance.
-/

namespace TaskSync

/-- Things under keys. -/
structure Directory (κ α : Type) where
  entries : List (κ × α)

namespace Directory

variable {κ α : Type} [DecidableEq κ]

def empty : Directory κ α := ⟨[]⟩

/-- What is under a key. -/
def find? (d : Directory κ α) (key : κ) : Option α :=
  (d.entries.find? (·.1 = key)).map (·.2)

/-- The directory without a key. -/
def erase (d : Directory κ α) (key : κ) : Directory κ α :=
  ⟨d.entries.filter (·.1 ≠ key)⟩

/-- The directory with `value` under a key, whatever was there before. -/
def insert (d : Directory κ α) (key : κ) (value : α) : Directory κ α :=
  ⟨(d.erase key).entries ++ [(key, value)]⟩

@[simp] theorem find?_erase_self (d : Directory κ α) (key : κ) :
    (d.erase key).find? key = none := by
  simp [find?, erase, List.find?_filter]

theorem find?_erase_of_ne (d : Directory κ α) {key other : κ} (h : other ≠ key) :
    (d.erase key).find? other = d.find? other := by
  obtain ⟨entries⟩ := d
  simp only [find?, erase]
  congr 1
  induction entries with
  | nil => rfl
  | cons e rest ih =>
    rw [List.filter_cons]
    by_cases he : e.1 = other
    · rw [if_pos (by simpa [he] using h), List.find?_cons_of_pos (by simp [he]),
        List.find?_cons_of_pos (by simp [he])]
    · rw [List.find?_cons_of_neg (by simp [he])]
      split
      · rw [List.find?_cons_of_neg (by simp [he])]
        exact ih
      · exact ih

@[simp] theorem find?_insert_self (d : Directory κ α) (key : κ) (value : α) :
    (d.insert key value).find? key = some value := by
  have h : (d.erase key).entries.find? (fun e => decide (e.1 = key)) = none := by
    simp [erase, List.find?_filter]
  simp [find?, insert, List.find?_append, h]

theorem find?_insert_of_ne (d : Directory κ α) {key other : κ} (value : α) (h : other ≠ key) :
    (d.insert key value).find? other = d.find? other := by
  rw [← find?_erase_of_ne d h]
  simp [find?, insert, List.find?_append, Ne.symm h]

end Directory

end TaskSync
