import LintBridge.Terminal.Columns
import Mathlib.Algebra.GroupWithZero.Nat
import Mathlib.Data.List.Forall2

/-!
What columns are given.

Sharing and narrowing are exact. All room that is left is shared out (`totalOf_share`), and columns
that are narrowed take up the room that there is, to the last cell (`totalOf_narrow`).
-/

namespace LintBridge.Terminal

theorem totalOf_eq_sum (sizes : List Nat) : totalOf sizes = sizes.sum :=
  List.sum_eq_foldr.symm

theorem le_totalOf {size : Nat} {sizes : List Nat} (h : size ∈ sizes) : size ≤ totalOf sizes := by
  induction h with
  | head rest => exact Nat.le_add_right size _
  | tail other _ ih => exact Nat.le_trans ih (Nat.le_add_left _ other)

/-! ### Sharing -/

theorem le_share (room : Nat) (sizes : List Nat) :
    List.Forall₂ (· ≤ ·) sizes (share room sizes) := by
  fun_induction share room sizes with
  | case1 => exact .nil
  | case2 room size rest part ih => exact .cons (Nat.le_add_right size part) ih

theorem length_share (room : Nat) (sizes : List Nat) : (share room sizes).length = sizes.length :=
  (le_share room sizes).length_eq.symm

theorem divideUp_zero (den : Nat) : divideUp 0 den = 0 := by
  cases den with
  | zero => rfl
  | succ den => exact Nat.div_eq_of_lt (by omega)

theorem share_zero (sizes : List Nat) : share 0 sizes = sizes := by
  induction sizes with
  | nil => rfl
  | cons size rest ih => rw [share, Nat.zero_mul, divideUp_zero, Nat.add_zero, Nat.sub_zero, ih]

theorem divideUp_mul_le {room size total : Nat} (h : size ≤ total) (hpos : 0 < total) :
    divideUp (room * size) total ≤ room := by
  have hmul : room * size ≤ room * total := Nat.mul_le_mul_left room h
  rw [divideUp, ← Nat.lt_succ_iff, Nat.div_lt_iff_lt_mul hpos, Nat.succ_mul]
  omega

theorem divideUp_mul_self {size : Nat} (room : Nat) (hpos : 0 < size) :
    divideUp (room * size) size = room := by
  apply Nat.le_antisymm (divideUp_mul_le (Nat.le_refl size) hpos)
  rw [divideUp, Nat.le_div_iff_mul_le hpos]
  omega

/-- All room is shared out. -/
theorem totalOf_share {room : Nat} {sizes : List Nat} (hne : sizes ≠ [])
    (hpos : ∀ size ∈ sizes, 0 < size) : totalOf (share room sizes) = room + totalOf sizes := by
  fun_induction share room sizes with
  | case1 => exact absurd rfl hne
  | case2 room size rest part ih =>
    have hsize := hpos size List.mem_cons_self
    have hpart : part ≤ room := divideUp_mul_le (Nat.le_add_right size _) (by omega)
    cases rest with
    | nil =>
      have hall : part = room := divideUp_mul_self room hsize
      rw [hall]
      exact Nat.add_right_comm size room 0 |>.trans (Nat.add_comm _ room)
    | cons second more =>
      have hrest := ih (List.cons_ne_nil _ _) fun s hs => hpos s (List.mem_cons_of_mem size hs)
      rw [totalOf_cons, totalOf_cons, hrest]
      omega

/-! ### Narrowing -/

theorem length_takeFrom (widest most excess : Nat) (sizes : List Nat) :
    (takeFrom widest most excess sizes).length = sizes.length := by
  fun_induction takeFrom widest most excess sizes with
  | case1 => rfl
  | case2 excess rest part ih => exact congrArg Nat.succ ih
  | case3 excess size rest hne ih => exact congrArg Nat.succ ih

/-- No more is taken than the excess. -/
theorem totalOf_le_takeFrom (widest most excess : Nat) (sizes : List Nat) :
    totalOf sizes ≤ totalOf (takeFrom widest most excess sizes) + excess := by
  fun_induction takeFrom widest most excess sizes with
  | case1 => exact Nat.zero_le _
  | case2 excess rest part ih =>
    have hpart : part ≤ excess :=
      Nat.le_trans (Nat.min_le_right most _) (Decimal.roundDiv_le excess _)
    rw [totalOf_cons, totalOf_cons]
    omega
  | case3 excess size rest hne ih =>
    rw [totalOf_cons, totalOf_cons]
    omega

theorem le_totalOf_narrowWidest {room : Nat} {sizes : List Nat} (h : room ≤ totalOf sizes) :
    room ≤ totalOf (narrowWidest room sizes) := by
  have hle : totalOf sizes ≤ totalOf (narrowWidest room sizes) + (totalOf sizes - room) :=
    totalOf_le_takeFrom _ _ _ sizes
  omega

theorem narrow_of_le {room : Nat} {sizes : List Nat} (h : totalOf sizes ≤ room) :
    narrow room sizes = sizes := by
  rw [narrow, if_neg (Nat.not_lt.mpr h)]

theorem length_narrow (room : Nat) (sizes : List Nat) :
    (narrow room sizes).length = sizes.length := by
  fun_induction narrow room sizes with
  | case1 sizes hroom ih => exact ih.trans (length_takeFrom _ _ _ sizes)
  | case2 sizes hroom => rfl

/-- Columns that have no room are narrowed until they have, and no further. -/
theorem totalOf_narrow {room : Nat} {sizes : List Nat} (h : room ≤ totalOf sizes) :
    totalOf (narrow room sizes) = room := by
  fun_induction narrow room sizes with
  | case1 sizes hroom ih => exact ih (le_totalOf_narrowWidest h)
  | case2 sizes hroom => exact Nat.le_antisymm (Nat.le_of_not_lt hroom) h

end LintBridge.Terminal
