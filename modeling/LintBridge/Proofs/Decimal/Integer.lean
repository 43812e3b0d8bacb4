import LintBridge.Decimal.Integer
import LintBridge.Proofs.Decimal.Digits
import Mathlib.Data.List.Basic
import Mathlib.Data.List.TakeWhile

/-!
Whole numbers, read from the digits of any script and written in those of one.

A numeral of at most `maxDigits` digits has a value below `10 ^ maxDigits`, whatever its digits
(`natAbs_lt_of_readInteger`), and a number below that bound is read back from its written form
(`readInteger_toString`). So a number that has been read once can be written and read again.
-/

namespace LintBridge

/-! ### Digits of any script -/

namespace Text

/-- What holds of the ten digits of each script holds of all decimal digits. -/
theorem forall_decimalDigit {p : Char → Bool}
    (h : digitZeros.all (fun start => (List.range 10).all fun k => p (Char.ofNat (start + k))) = true)
    {c : Char} (hc : isDecimalDigit c = true) : p c = true := by
  obtain ⟨d, hd⟩ := Option.isSome_iff_exists.mp hc
  obtain ⟨start, hfind, -⟩ := Option.map_eq_some_iff.mp hd
  have hstart : start ≤ c.toNat ∧ c.toNat < start + 10 := by
    simpa using List.find?_some hfind
  have hk : c.toNat - start ∈ List.range 10 := List.mem_range.mpr (by omega)
  have hpc := List.all_eq_true.mp (List.all_eq_true.mp h start (List.mem_of_find?_eq_some hfind)) _ hk
  rwa [Nat.add_sub_cancel' hstart.1, Char.ofNat_toNat] at hpc

theorem digitValue?_lt {c : Char} {d : Nat} (h : digitValue? c = some d) : d < 10 := by
  obtain ⟨start, hfind, rfl⟩ := Option.map_eq_some_iff.mp h
  have hstart : start ≤ c.toNat ∧ c.toNat < start + 10 := by
    simpa using List.find?_some hfind
  omega

theorem digitValue?_of_isDigit {c : Char} (h : c.isDigit = true) :
    digitValue? c = some (c.toNat - '0'.toNat) := by
  have hc := Decimal.toNat_of_isDigit h
  have hfind : digitZeros.find? (fun start => start ≤ c.toNat && c.toNat < start + 10) =
      some 0x30 := by
    rw [digitZeros, List.find?_cons_of_pos]
    simp
    omega
  rw [digitValue?, hfind]
  rfl

theorem isDecimalDigit_of_isDigit {c : Char} (h : c.isDigit = true) : isDecimalDigit c = true := by
  rw [isDecimalDigit, digitValue?_of_isDigit h]
  rfl

theorem isBlank_of_isDecimalDigit {c : Char} (h : isDecimalDigit c = true) : isBlank c = false := by
  simpa using forall_decimalDigit (p := fun c => !isBlank c) (by decide +kernel) h

end Text

namespace Decimal

/-! ### Values -/

theorem foldl_digits_lt {ds : List Nat} (h : ∀ d ∈ ds, d < 10) (n : Nat) :
    ds.foldl (fun n d => n * 10 + d) n < (n + 1) * 10 ^ ds.length := by
  induction ds generalizing n with
  | nil => simp
  | cons d ds ih =>
    obtain ⟨hd, hds⟩ := List.forall_mem_cons.mp h
    calc (d :: ds).foldl (fun n d => n * 10 + d) n
        = ds.foldl (fun n d => n * 10 + d) (n * 10 + d) := rfl
      _ < (n * 10 + d + 1) * 10 ^ ds.length := ih hds _
      _ ≤ ((n + 1) * 10) * 10 ^ ds.length := Nat.mul_le_mul_right _ (by omega)
      _ = (n + 1) * 10 ^ (d :: ds).length := by
          rw [List.length_cons, Nat.pow_succ, Nat.mul_assoc, Nat.mul_comm 10]

/-- The value of a numeral has no more digits than the numeral. -/
theorem scriptValue_lt (cs : List Char) :
    scriptValue cs < 10 ^ (cs.filter Text.isDecimalDigit).length := by
  have hlength : (cs.filterMap Text.digitValue?).length = (cs.filter Text.isDecimalDigit).length := by
    rw [List.length_filterMap_eq_countP, List.countP_eq_length_filter]
    rfl
  have hdigits : ∀ d ∈ cs.filterMap Text.digitValue?, d < 10 := by
    intro d hd
    obtain ⟨c, -, hc⟩ := List.mem_filterMap.mp hd
    exact Text.digitValue?_lt hc
  rw [← hlength]
  simpa [scriptValue] using foldl_digits_lt hdigits 0

theorem scriptValue_digits {digits : List Char} (h : ∀ c ∈ digits, c.isDigit = true) :
    scriptValue digits = digitsValue digits := by
  have hvalues : digits.filterMap Text.digitValue? = digits.map fun c => c.toNat - '0'.toNat := by
    rw [← List.filterMap_eq_map]
    exact List.filterMap_congr fun c hc => Text.digitValue?_of_isDigit (h c hc)
  rw [scriptValue, hvalues, List.foldl_map, digitsValue]

/-! ### Reading -/

/-- What is read has no more digits than a numeral may have. -/
theorem natAbs_lt_of_readInteger {cs : List Char} {n : Int} (h : readInteger cs = .ok n) :
    n.natAbs < 10 ^ maxDigits := by
  unfold readInteger at h
  extract_lets body negative signed unsigned inNumeral numeral digits at h
  split at h
  · cases h
  · split at h
    · cases h
    · next hdigits =>
      split at h
      · cases h
      · have hsize : n.natAbs = scriptValue numeral := by
          rw [← Except.ok.inj h]
          split
          · exact Int.natAbs_neg _
          · rfl
        calc n.natAbs = scriptValue numeral := hsize
          _ < 10 ^ digits := scriptValue_lt numeral
          _ ≤ 10 ^ maxDigits := Nat.pow_le_pow_right (by decide) (Nat.le_of_not_lt hdigits)

theorem wellSeparated_of_run {run : List Char} (hne : run ≠ []) (h : ∀ c ∈ run, c ≠ '_') :
    wellSeparated run = true := by
  induction run with
  | nil => exact absurd rfl hne
  | cons c run ih =>
    obtain ⟨hc, hrun⟩ := List.forall_mem_cons.mp h
    cases run with
    | nil => simpa [wellSeparated] using hc
    | cons d run =>
      have hd := hrun d List.mem_cons_self
      rw [wellSeparated]
      · exact ih (List.cons_ne_nil d run) hrun
      · exact hc
      · exact hd

/-- A run of digits, of any script. -/
structure IsRun (run : List Char) : Prop where
  ne_nil : run ≠ []
  digits : ∀ c ∈ run, Text.isDecimalDigit c = true

/-- A run of digits is read with its value, or refused for its length; behind a minus sign it is a
negative number. -/
theorem readInteger_run {run : List Char} (h : IsRun run) (negative : Bool) :
    readInteger (if negative then '-' :: run else run) =
      if maxDigits < run.length then .error (.tooLong run.length)
      else .ok (if negative then -(scriptValue run : Int) else scriptValue run) := by
  have hclear : ∀ c ∈ run, c ≠ '_' ∧ c ≠ '-' ∧ c ≠ '+' ∧ Text.isSpace c = false := by
    intro c hc
    simpa using Text.forall_decimalDigit
      (p := fun c => c ≠ '_' ∧ c ≠ '-' ∧ c ≠ '+' ∧ Text.isSpace c = false) (by decide +kernel)
      (h.digits c hc)
  have hnumeral : ∀ c ∈ run, (Text.isDecimalDigit c || c == '_') = true := by
    intro c hc
    rw [h.digits c hc, Bool.true_or]
  have htaken : run.takeWhile (fun c => Text.isDecimalDigit c || c == '_') = run :=
    List.takeWhile_eq_self_iff.mpr hnumeral
  have hleft : run.dropWhile (fun c => Text.isDecimalDigit c || c == '_') = [] :=
    List.dropWhile_eq_nil_iff.mpr hnumeral
  have hdigits : run.filter Text.isDecimalDigit = run := List.filter_eq_self.mpr h.digits
  have hsep : wellSeparated run = true :=
    wellSeparated_of_run h.ne_nil fun c hc => (hclear c hc).1
  obtain ⟨c, rest, rfl⟩ := List.exists_cons_of_ne_nil h.ne_nil
  cases negative with
  | true =>
    have hstart : ('-' :: c :: rest).dropWhile Text.isSpace = '-' :: c :: rest :=
      List.dropWhile_cons_of_neg (by decide)
    simp [readInteger, hstart, htaken, hleft, hdigits, hsep]
  | false =>
    obtain ⟨-, hminus, hplus, hspace⟩ := hclear c List.mem_cons_self
    have hstart : (c :: rest).dropWhile Text.isSpace = c :: rest :=
      List.dropWhile_cons_of_neg (by simp [hspace])
    simp [readInteger, hstart, hminus, hplus, htaken, hleft, hdigits, hsep]

/-! ### Writing and reading again -/

/-- A number is written with its digits, and with a minus sign in front if it is negative. -/
theorem toList_toString (n : Int) :
    (toString n).toList =
      if n < 0 then '-' :: Nat.toDigits 10 n.natAbs else Nat.toDigits 10 n.natAbs := by
  cases n with
  | ofNat n =>
    have hpos : ¬ Int.ofNat n < 0 := Int.not_lt.mpr (Int.natCast_nonneg n)
    rw [if_neg hpos]
    exact Nat.toList_repr
  | negSucc n =>
    rw [if_pos (Int.negSucc_lt_zero n)]
    show ("-" ++ (n + 1).repr).toList = _
    rw [String.toList_append, Nat.toList_repr]
    rfl

theorem toString_ne_nil (n : Int) : (toString n).toList ≠ [] := by
  rw [toList_toString]
  split
  · exact List.cons_ne_nil _ _
  · exact Nat.toDigits_ne_nil

theorem mem_toString {n : Int} {c : Char} (h : c ∈ (toString n).toList) :
    c = '-' ∨ c.isDigit = true := by
  rw [toList_toString] at h
  split at h
  · exact (List.mem_cons.mp h).imp_right (isDigit_of_mem_toDigits c)
  · exact .inr (isDigit_of_mem_toDigits c h)

/-- A number is written with digits only exactly if it is not negative. -/
theorem forall_isDigit_toString_iff {n : Int} :
    (∀ c ∈ (toString n).toList, c.isDigit = true) ↔ 0 ≤ n := by
  rw [toList_toString]
  split
  · next hneg =>
    refine ⟨fun h => ?_, fun h => absurd h (Int.not_le.mpr hneg)⟩
    exact absurd (h '-' List.mem_cons_self) (by decide)
  · next hpos => exact ⟨fun _ => Int.not_lt.mp hpos, fun _ => isDigit_of_mem_toDigits⟩

/-- A number with no more digits than a numeral may have is read back from its written form. -/
theorem readInteger_toString {n : Int} (h : n.natAbs < 10 ^ maxDigits) :
    readInteger (toString n).toList = .ok n := by
  have hlen : (Nat.toDigits 10 n.natAbs).length ≤ maxDigits :=
    (Nat.length_toDigits_le_iff (by decide) (by decide)).mpr h
  have hvalue : scriptValue (Nat.toDigits 10 n.natAbs) = n.natAbs := by
    rw [scriptValue_digits isDigit_of_mem_toDigits, digitsValue_toDigits]
  have hrun : IsRun (Nat.toDigits 10 n.natAbs) :=
    ⟨Nat.toDigits_ne_nil,
      fun c hc => Text.isDecimalDigit_of_isDigit (isDigit_of_mem_toDigits c hc)⟩
  have hread := readInteger_run hrun (decide (n < 0))
  rw [if_neg (Nat.not_lt.mpr hlen), hvalue] at hread
  simp only [decide_eq_true_eq] at hread
  rw [toList_toString, hread]
  congr
  omega

end Decimal
end LintBridge
