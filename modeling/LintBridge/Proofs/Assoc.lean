import LintBridge.Assoc
import Mathlib.Data.List.Basic

/-!
Lists in which each key has its last value.

Such a list answers for a key with the last of its values (`Assoc.lookup_ofList`), and which keys it
has, and in which order, does not depend on the values (`Assoc.keys_ofList`).
-/

namespace LintBridge.Assoc

variable {κ ν : Type} [BEq κ] [LawfulBEq κ]

/-! ### Values -/

theorem lookup_foldl_put (key : κ) (pairs list : List (κ × ν)) :
    List.lookup key (pairs.foldl (fun list (k, v) => put k v list) list) =
      (((pairs.filter (·.1 == key)).getLast?).map (·.2)).or (List.lookup key list) := by
  induction pairs generalizing list with
  | nil => rfl
  | cons pair rest ih =>
    obtain ⟨k, v⟩ := pair
    rw [List.foldl_cons, ih]
    by_cases hk : k = key
    · subst hk
      rw [List.filter_cons_of_pos (by simp), List.getLast?_cons, lookup_put_self]
      cases (rest.filter (·.1 == k)).getLast? <;> rfl
    · rw [List.filter_cons_of_neg (by simpa using hk), lookup_put_of_ne (Ne.symm hk)]

/-- The value of a key is the last one that comes with it. -/
theorem lookup_ofList (key : κ) (pairs : List (κ × ν)) :
    List.lookup key (ofList pairs) = ((pairs.filter (·.1 == key)).getLast?).map (·.2) := by
  rw [ofList, lookup_foldl_put]
  exact Option.or_none

/-! ### Keys -/

/-- The keys with one more, which comes last if it is new. -/
def addKey (keys : List κ) (key : κ) : List κ :=
  if keys.contains key then keys else keys ++ [key]

theorem addKey_cons_of_ne {k key : κ} (h : k ≠ key) (keys : List κ) :
    addKey (k :: keys) key = k :: addKey keys key := by
  by_cases hmem : key ∈ keys <;> simp [addKey, hmem, h.symm]

theorem keys_put (key : κ) (value : ν) (list : List (κ × ν)) :
    (put key value list).map Prod.fst = addKey (list.map Prod.fst) key := by
  induction list with
  | nil => rfl
  | cons pair rest ih =>
    obtain ⟨k, v⟩ := pair
    by_cases hk : k = key
    · simp [put, addKey, hk]
    · have hput : put key value ((k, v) :: rest) = (k, v) :: put key value rest := by
        simp [put, hk]
      rw [hput, List.map_cons, ih, List.map_cons, addKey_cons_of_ne hk]

/-- The keys come in the order in which each of them came first, whatever their values are. -/
theorem keys_ofList (pairs : List (κ × ν)) :
    (ofList pairs).map Prod.fst = (pairs.map Prod.fst).foldl addKey [] := by
  have hfold (list : List (κ × ν)) :
      (pairs.foldl (fun list (k, v) => put k v list) list).map Prod.fst =
        (pairs.map Prod.fst).foldl addKey (list.map Prod.fst) := by
    induction pairs generalizing list with
    | nil => rfl
    | cons pair rest ih =>
      rw [List.foldl_cons, ih, keys_put]
      rfl
  exact hfold []

theorem mem_addKey_iff {keys : List κ} {key other : κ} :
    other ∈ addKey keys key ↔ other ∈ keys ∨ other = key := by
  unfold addKey
  split
  · next h =>
    have hmem : key ∈ keys := List.contains_iff_mem.mp h
    constructor
    · exact .inl
    · rintro (hother | rfl)
      · exact hother
      · exact hmem
  · simp

/-- The keys of such a list are those of the pairs. -/
theorem mem_keys_ofList_iff {pairs : List (κ × ν)} {key : κ} :
    key ∈ (ofList pairs).map Prod.fst ↔ key ∈ pairs.map Prod.fst := by
  have hfold (keys seen : List κ) : key ∈ keys.foldl addKey seen ↔ key ∈ seen ∨ key ∈ keys := by
    induction keys generalizing seen with
    | nil => simp
    | cons k rest ih => rw [List.foldl_cons, ih, mem_addKey_iff, List.mem_cons, or_assoc]
  rw [keys_ofList, hfold]
  simp

end LintBridge.Assoc
