import LintBridge.Proofs.Version
import Mathlib.Data.List.Forall2
import Mathlib.Data.Prod.Lex
import Mathlib.Order.Lattice

/-!
The order of the gate.

The gate compares releases, from which zeros at the end have been dropped. Among numbers of one
length these zeros do not count (`releaseLe_dropZeros`), so for texts that spell versions without
negative numbers the answer is that of the lexicographic order of the triples
(`isSupported_of_spells`). With it the gate is a linear order of the versions, and sorts texts as the
versions that they spell are sorted (`gate_is_order_of_triples`).
-/

namespace LintBridge.Version

/-! ### Zeros at the end -/

theorem dropZeros_cons (n : Nat) (ns : List Nat) :
    dropZeros (n :: ns) = if n = 0 ∧ dropZeros ns = [] then [] else n :: dropZeros ns := by
  simp only [dropZeros, List.reverse_cons, List.dropWhile_append, List.reverse_eq_nil_iff,
    List.isEmpty_iff]
  by_cases hns : ns.reverse.dropWhile (· = 0) = []
  · by_cases hn : n = 0 <;> simp [hns, hn]
  · simp [hns]

/-- Of numbers of the same length, the zeros at the end do not count. -/
theorem releaseLe_dropZeros {ms ns : List Nat} (h : ms.length = ns.length) :
    releaseLe (dropZeros ms) (dropZeros ns) = releaseLe ms ns := by
  induction ms generalizing ns with
  | nil =>
    cases ns with
    | nil => rfl
    | cons n ns => cases h
  | cons m ms ih =>
    cases ns with
    | nil => cases h
    | cons n ns =>
      have hrest := ih (Nat.succ.inj h)
      rw [dropZeros_cons, dropZeros_cons]
      rcases Nat.lt_trichotomy m n with hlt | rfl | hgt
      · have hn : ¬ (n = 0 ∧ dropZeros ns = []) := by omega
        rw [if_neg hn]
        split <;> simp [releaseLe, hlt]
      · -- a side that is dropped here has nothing left behind it either
        simp only [releaseLe, ← hrest]
        cases dropZeros ms <;> cases dropZeros ns <;> by_cases hm : m = 0 <;> simp [releaseLe, hm]
      · have hm : ¬ (m = 0 ∧ dropZeros ms = []) := by omega
        rw [if_neg hm]
        split <;> simp [releaseLe, Nat.lt_asymm hgt, Nat.ne_of_gt hgt, hrest]

/-! ### The order of the triples -/

/-- The numbers of a version, in the lexicographic order of whole numbers. -/
def triple (v : Version) : Lex (Int × Lex (Int × Int)) :=
  toLex (v.major, toLex (v.minor, v.patch))

theorem triple_inj {v w : Version} : v.triple = w.triple ↔ v = w := by
  constructor
  · intro h
    cases v
    cases w
    simpa [triple] using h
  · rintro rfl
    rfl

theorem le_iff_triple {v w : Version} : le v w = true ↔ v.triple ≤ w.triple := by
  simp [le, triple, Prod.Lex.toLex_le_toLex]

/-- A text that is read as a version without negative numbers. -/
structure Spells (text : String) (v : Version) : Prop where
  parsed : parse text = .ok v
  isRelease : v.IsRelease

/-- Whether an installed version passes the gate with a minimum. -/
def Passes (installed minimum : String) : Prop :=
  isSupported installed minimum = .ok true
deriving Decidable

theorem releaseLe_numbers {v w : Version} (hv : v.IsRelease) (hw : w.IsRelease) :
    releaseLe v.numbers w.numbers = le v w := by
  have hle : releaseLe v.numbers w.numbers = true ↔ le v w = true := by
    have := hv.major
    have := hv.minor
    have := hv.patch
    have := hw.major
    have := hw.minor
    have := hw.patch
    simp only [releaseLe, numbers, le, Bool.or_eq_true, Bool.and_eq_true, decide_eq_true_eq,
      beq_iff_eq, and_true]
    omega
  exact Bool.eq_iff_iff.mpr hle

/-- The answer of the gate is that of the order of the triples. -/
theorem isSupported_of_spells {installed minimum : String} {v w : Version}
    (hv : Spells installed v) (hw : Spells minimum w) :
    isSupported installed minimum = .ok (le w v) := by
  have hlength : w.numbers.length = v.numbers.length := rfl
  have hnumbers : releaseLe (dropZeros w.numbers) (dropZeros v.numbers) = le w v :=
    (releaseLe_dropZeros hlength).trans (releaseLe_numbers hw.isRelease hv.isRelease)
  rw [isSupported_of_parse hv.parsed hw.parsed,
    readRelease_text hv.isRelease (inRange_of_parse hv.parsed),
    readRelease_text hw.isRelease (inRange_of_parse hw.parsed), ← hnumbers]
  rfl

theorem passes_iff {installed minimum : String} {v w : Version}
    (hv : Spells installed v) (hw : Spells minimum w) :
    Passes installed minimum ↔ w.triple ≤ v.triple := by
  rw [Passes, isSupported_of_spells hv hw, ← le_iff_triple, Except.ok.injEq]

/-- Texts are sorted by the gate as the versions that they spell are sorted. -/
theorem spells_mergeSort {texts : List String} {versions : List Version}
    (h : List.Forall₂ Spells texts versions) :
    List.Forall₂ Spells (texts.mergeSort fun lower upper => Passes upper lower)
      (versions.mergeSort le) := by
  have hpairs : ∀ p ∈ texts.zip versions, Spells p.1 p.2 := fun p hp =>
    (List.forall₂_iff_zip.mp h).2 hp
  have htexts : ((texts.zip versions).mergeSort fun p q => le p.2 q.2).map Prod.fst =
      texts.mergeSort fun lower upper => Passes upper lower := by
    rw [List.map_mergeSort, List.map_fst_zip h.length_eq.le]
    intro p hp q hq
    have hle := (passes_iff (hpairs q hq) (hpairs p hp)).trans le_iff_triple.symm
    exact Bool.eq_iff_iff.mpr (hle.symm.trans decide_eq_true_iff.symm)
  have hversions : ((texts.zip versions).mergeSort fun p q => le p.2 q.2).map Prod.snd =
      versions.mergeSort le := by
    have hsnd := List.map_mergeSort (l := texts.zip versions) (r := fun p q => le p.2 q.2) (s := le)
      (f := Prod.snd) fun _ _ _ _ => rfl
    rw [hsnd, List.map_snd_zip h.length_eq.ge]
  rw [← htexts, ← hversions, List.forall₂_map_left_iff, List.forall₂_map_right_iff,
    List.forall₂_same]
  exact fun p hp => hpairs p (List.mem_mergeSort.mp hp)

/-- On texts that spell versions without negative numbers, the gate always answers, and answers by
the lexicographic order of the triples. So every version passes with itself, what passes with a
minimum passes with what that passes with, of two versions one passes with the other, both only if
they are equal, and texts are sorted by the gate as their versions are. -/
theorem gate_is_order_of_triples {a b c : String} {u v w : Version} (ha : Spells a u)
    (hb : Spells b v) (hc : Spells c w) :
    (∃ answer, isSupported a b = .ok answer ∧ (answer = true ↔ v.triple ≤ u.triple)) ∧
      Passes a a ∧ (Passes a b → Passes b c → Passes a c) ∧ (Passes a b ∨ Passes b a) ∧
      (Passes a b ∧ Passes b a ↔ u = v) ∧
      ∀ texts versions, List.Forall₂ Spells texts versions →
        List.Forall₂ Spells (texts.mergeSort fun lower upper => Passes upper lower)
          (versions.mergeSort le) := by
  rw [passes_iff ha ha, passes_iff ha hb, passes_iff hb hc, passes_iff ha hc, passes_iff hb ha]
  refine ⟨⟨le v u, isSupported_of_spells ha hb, le_iff_triple⟩, le_refl _, ?_, le_total _ _, ?_,
    fun _ _ => spells_mergeSort⟩
  · exact fun hab hbc => hbc.trans hab
  · rw [← triple_inj]
    exact ⟨fun h => le_antisymm h.2 h.1, fun h => ⟨h.ge, h.le⟩⟩

/-- With zeros at the end, numbers of two digits, and a zero in front of one. -/
theorem gate_is_order_of_triples_of_zeros :
    Spells "2.0.0" ⟨2, 0, 0⟩ ∧ Spells "1.10.0" ⟨1, 10, 0⟩ ∧ Spells "01.9.10" ⟨1, 9, 10⟩ ∧
      Passes "2.0.0" "1.10.0" ∧ Passes "1.10.0" "01.9.10" ∧ Passes "2.0.0" "01.9.10" ∧
      ¬ Passes "1.10.0" "2.0.0" ∧
      List.Forall₂ Spells
        (["2.0.0", "1.10.0", "01.9.10"].mergeSort fun lower upper => Passes upper lower)
        ([⟨2, 0, 0⟩, ⟨1, 10, 0⟩, ⟨1, 9, 10⟩].mergeSort le) := by
  have hupper : Spells "2.0.0" ⟨2, 0, 0⟩ := ⟨by decide +kernel, by decide, by decide, by decide⟩
  have hmiddle : Spells "1.10.0" ⟨1, 10, 0⟩ :=
    ⟨by decide +kernel, by decide, by decide, by decide⟩
  have hlower : Spells "01.9.10" ⟨1, 9, 10⟩ :=
    ⟨by decide +kernel, by decide, by decide, by decide⟩
  obtain ⟨⟨answer, hanswer, htriples⟩, -, htrans, -, hboth, hsort⟩ :=
    gate_is_order_of_triples hupper hmiddle hlower
  obtain ⟨⟨answer', hanswer', htriples'⟩, -⟩ := gate_is_order_of_triples hmiddle hlower hupper
  have hfirst : Passes "2.0.0" "1.10.0" := by
    rw [Passes, hanswer, htriples.mpr (le_iff_triple.mp (by decide))]
  have hsecond : Passes "1.10.0" "01.9.10" := by
    rw [Passes, hanswer', htriples'.mpr (le_iff_triple.mp (by decide))]
  exact ⟨hupper, hmiddle, hlower, hfirst, hsecond, htrans hfirst hsecond,
    fun hback => absurd (hboth.mp ⟨hfirst, hback⟩) (by decide),
    hsort _ _ (.cons hupper (.cons hmiddle (.cons hlower .nil)))⟩

end LintBridge.Version
