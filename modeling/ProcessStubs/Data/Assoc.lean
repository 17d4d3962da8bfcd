/-!
# Keyed lists

A list of pairs in which the first pair of a key counts. Putting a value under a key changes no
other key, and a key that is new comes last.
-/

namespace ProcessStubs.Assoc

variable {κ α : Type} [DecidableEq κ]

/-- The value of a key. -/
def get? (key : κ) (l : List (κ × α)) : Option α := (l.find? (·.1 = key)).map (·.2)

/-- The list with the value of a key replaced or added. -/
def put (key : κ) (value : α) : List (κ × α) → List (κ × α)
  | [] => [(key, value)]
  | (k, v) :: rest => if k = key then (key, value) :: rest else (k, v) :: put key value rest

/-- A value that was put under a key is there. -/
@[simp] theorem get?_put_self (key : κ) (value : α) (l : List (κ × α)) :
    get? key (put key value l) = some value := by
  induction l with
  | nil => simp [get?, put]
  | cons x rest ih => by_cases h : x.1 = key <;> simp_all [get?, put]

/-- A value that is put under a key changes no other key. -/
theorem get?_put_of_ne {key other : κ} (h : other ≠ key) (value : α) (l : List (κ × α)) :
    get? other (put key value l) = get? other l := by
  induction l with
  | nil => simp [get?, put, Ne.symm h]
  | cons x rest ih =>
    obtain ⟨k, v⟩ := x
    simp only [get?] at ih
    by_cases hk : k = key
    · simp [get?, put, hk, Ne.symm h]
    · by_cases ho : k = other <;> simp [get?, put, hk, ho, ih, h]

end ProcessStubs.Assoc
