/-!
Lists of pairs that keep the order in which their keys first came.
-/

namespace LintBridge.Assoc

variable {κ ν : Type} [BEq κ]

/-- The list with one value for a key: in the place of the value it had, or else at the end. -/
def put (key : κ) (value : ν) : List (κ × ν) → List (κ × ν)
  | [] => [(key, value)]
  | (k, v) :: rest => if k == key then (key, value) :: rest else (k, v) :: put key value rest

/-- The list in which each key has its last value, in the place where it first came. -/
def ofList (pairs : List (κ × ν)) : List (κ × ν) :=
  pairs.foldl (fun list (key, value) => put key value list) []

theorem lookup_put_self [LawfulBEq κ] (key : κ) (value : ν) (list : List (κ × ν)) :
    List.lookup key (put key value list) = some value := by
  induction list with
  | nil => simp [put]
  | cons pair rest ih =>
    obtain ⟨k, v⟩ := pair
    simp only [put]
    split
    · simp
    · next h =>
      have hk : (key == k) = false := by
        have : k ≠ key := by simpa using h
        simpa using fun e => this e.symm
      simp [List.lookup_cons, hk, ih]

theorem lookup_put_of_ne [LawfulBEq κ] {key other : κ} (h : other ≠ key) (value : ν)
    (list : List (κ × ν)) :
    List.lookup other (put key value list) = List.lookup other list := by
  have hk : (other == key) = false := by simpa using h
  induction list with
  | nil => simp [put, h]
  | cons pair rest ih =>
    obtain ⟨k, v⟩ := pair
    simp only [put]
    split
    · next e =>
      have : k = key := by simpa using e
      subst this
      simp [List.lookup_cons, hk]
    · rw [List.lookup_cons, List.lookup_cons, ih]

end LintBridge.Assoc
