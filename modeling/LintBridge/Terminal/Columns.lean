import LintBridge.Decimal.Rounding

/-!
Sharing the width of a screen among columns.

Columns that ask for less than there is share out what is left, from left to right in proportion to
their widths. Columns that ask for more are narrowed: the widest ones give up what is too much in
equal parts, but only down to the next width, then all of that width together, and so on.
-/

namespace LintBridge.Terminal

/-- The sum of widths. -/
def totalOf (sizes : List Nat) : Nat :=
  sizes.foldr (· + ·) 0

/-- The greatest of widths. -/
def widestOf (sizes : List Nat) : Nat :=
  sizes.max?.getD 0

/-! ### Room that is left -/

/-- The quotient rounded up. -/
def divideUp (num den : Nat) : Nat :=
  (num + den - 1) / den

/-- Widths of columns with room shared out among them, the first column first. -/
def share (room : Nat) : List Nat → List Nat
  | [] => []
  | size :: rest =>
      let part := divideUp (room * size) (size + totalOf rest)
      (size + part) :: share (room - part) rest

/-! ### Room that is missing -/

/-- Widths with an excess taken from the columns of one width, in equal parts, but no more than so
much from each. -/
def takeFrom (widest most : Nat) : Nat → List Nat → List Nat
  | _, [] => []
  | excess, size :: rest =>
      if size = widest then
        let part := min most (Decimal.roundDiv excess (rest.count widest + 1))
        (size - part) :: takeFrom widest most (excess - part) rest
      else size :: takeFrom widest most excess rest

/-- Widths of which the widest have given up what is too much for some room, but have not become
narrower than the next. -/
def narrowWidest (room : Nat) (sizes : List Nat) : List Nat :=
  let excess := totalOf sizes - room
  let widest := widestOf sizes
  let next := widestOf (sizes.filter (· != widest))
  takeFrom widest (min excess (widest - next)) excess sizes

@[simp] theorem totalOf_cons (size : Nat) (rest : List Nat) :
    totalOf (size :: rest) = size + totalOf rest := rfl

theorem le_widestOf {size : Nat} {sizes : List Nat} (h : size ∈ sizes) : size ≤ widestOf sizes :=
  List.le_max?_getD_of_mem h

theorem widestOf_eq_zero_or_mem (sizes : List Nat) :
    widestOf sizes = 0 ∨ widestOf sizes ∈ sizes := by
  unfold widestOf
  cases hmax : sizes.max? with
  | none => exact .inl rfl
  | some widest => exact .inr (List.max?_mem hmax)

theorem exists_pos_of_totalOf_pos {sizes : List Nat} (h : 0 < totalOf sizes) :
    ∃ size ∈ sizes, 0 < size := by
  induction sizes with
  | nil => cases h
  | cons size rest ih =>
    by_cases hsize : 0 < size
    · exact ⟨size, List.mem_cons_self, hsize⟩
    · rw [totalOf_cons] at h
      obtain ⟨wide, hwide, hpos⟩ := ih (by omega)
      exact ⟨wide, List.mem_cons_of_mem size hwide, hpos⟩

theorem totalOf_takeFrom_le (widest most excess : Nat) (sizes : List Nat) :
    totalOf (takeFrom widest most excess sizes) ≤ totalOf sizes := by
  fun_induction takeFrom widest most excess sizes with
  | case1 => exact Nat.le_refl _
  | case2 excess rest part ih => exact Nat.add_le_add (Nat.sub_le widest part) ih
  | case3 excess size rest hne ih => exact Nat.add_le_add_left ih size

/-- Something is taken: if equal parts of the excess are none at all, the last column gives it. -/
theorem totalOf_takeFrom_lt {widest most excess : Nat} {sizes : List Nat}
    (hwidest : widest ∈ sizes) (hpos : 0 < widest) (hmost : 0 < most) (hexcess : 0 < excess) :
    totalOf (takeFrom widest most excess sizes) < totalOf sizes := by
  fun_induction takeFrom widest most excess sizes with
  | case1 => cases hwidest
  | case2 excess rest part ih =>
    rw [totalOf_cons, totalOf_cons]
    by_cases hpart : part = 0
    · have hrest : widest ∈ rest := by
        apply Classical.byContradiction
        intro hnone
        have hlast : Decimal.roundDiv excess (rest.count widest + 1) = excess := by
          rw [List.count_eq_zero.mpr hnone, Nat.zero_add, Decimal.roundDiv_one]
        omega
      have hlt := ih hrest (by omega)
      omega
    · have hle := totalOf_takeFrom_le widest most (excess - part) rest
      omega
  | case3 excess size rest hne ih =>
    have hrest : widest ∈ rest := (List.mem_cons.mp hwidest).resolve_left (Ne.symm hne)
    exact Nat.add_lt_add_left (ih hrest hexcess) size

/-- As long as the columns have no room, they can be narrowed. -/
theorem totalOf_narrowWidest_lt {room : Nat} {sizes : List Nat} (h : room < totalOf sizes) :
    totalOf (narrowWidest room sizes) < totalOf sizes := by
  obtain ⟨size, hsize, hpos⟩ := exists_pos_of_totalOf_pos (Nat.zero_lt_of_lt h)
  have hwide : 0 < widestOf sizes := Nat.lt_of_lt_of_le hpos (le_widestOf hsize)
  have hmem : widestOf sizes ∈ sizes :=
    (widestOf_eq_zero_or_mem sizes).resolve_left (Nat.ne_of_gt hwide)
  have hnext : widestOf (sizes.filter (· != widestOf sizes)) < widestOf sizes := by
    rcases widestOf_eq_zero_or_mem (sizes.filter (· != widestOf sizes)) with hzero | hother
    · rwa [hzero]
    · obtain ⟨hother, hne⟩ := List.mem_filter.mp hother
      exact Nat.lt_of_le_of_ne (le_widestOf hother) (by simpa using hne)
  refine totalOf_takeFrom_lt hmem hwide ?_ (Nat.sub_pos_of_lt h)
  exact Nat.lt_min.mpr ⟨Nat.sub_pos_of_lt h, Nat.sub_pos_of_lt hnext⟩

/-- Widths that are narrowed until they have room. -/
def narrow (room : Nat) (sizes : List Nat) : List Nat :=
  if room < totalOf sizes then narrow room (narrowWidest room sizes) else sizes
termination_by totalOf sizes
decreasing_by exact totalOf_narrowWidest_lt ‹_›

end LintBridge.Terminal
