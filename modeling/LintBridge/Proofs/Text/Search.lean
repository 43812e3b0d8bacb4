import LintBridge.Text.Search

/-!
The break of a text at a mark, against the list order of Lean's own library: there is no break
exactly if the mark is no infix of the text, and the break that is found is the first one, which a
text has only one of (`breakAt?_eq_some_iff`).

The last section is about texts that are put together from a text without the mark, the mark, and
any more text. A mark whose first character does not come again in it breaks such a text where it
was put.
-/

namespace LintBridge.Text

theorem isPrefixOf?_append (mark after : List Char) :
    mark.isPrefixOf? (mark ++ after) = some after := by
  induction mark with
  | nil => rfl
  | cons m mark ih =>
    have hstep : (m :: mark).isPrefixOf? (m :: (mark ++ after)) =
        if m == m then mark.isPrefixOf? (mark ++ after) else none := rfl
    rw [List.cons_append, hstep, if_pos BEq.rfl, ih]

theorem isPrefixOf?_eq_some_iff {mark cs after : List Char} :
    mark.isPrefixOf? cs = some after ↔ cs = mark ++ after :=
  ⟨isPrefixOf?_eq_some, fun h => h ▸ isPrefixOf?_append mark after⟩

theorem isPrefixOf?_eq_none_iff {mark cs : List Char} :
    mark.isPrefixOf? cs = none ↔ ¬ mark <+: cs := by
  rw [← Option.not_isSome_iff_eq_none, Option.isSome_iff_exists]
  refine not_congr ⟨?_, ?_⟩
  · rintro ⟨after, h⟩
    exact ⟨after, (isPrefixOf?_eq_some h).symm⟩
  · rintro ⟨after, rfl⟩
    exact ⟨after, isPrefixOf?_append mark after⟩

/-! ### Where a text breaks -/

theorem breakAt?_eq_none_iff {mark cs : List Char} :
    breakAt? mark cs = none ↔ ¬ mark <:+: cs := by
  induction cs with
  | nil => simp [breakAt?]
  | cons c cs ih =>
    rw [List.infix_cons_iff, not_or, ← ih, breakAt?]
    cases h : mark.isPrefixOf? (c :: cs) with
    | none => simpa using fun _ => isPrefixOf?_eq_none_iff.mp h
    | some after =>
      have hp : mark <+: c :: cs := ⟨after, (isPrefixOf?_eq_some h).symm⟩
      simp [hp]

theorem exists_breakAt? {mark cs : List Char} (h : mark <:+: cs) :
    ∃ before after, breakAt? mark cs = some (before, after) := by
  cases hb : breakAt? mark cs with
  | none => exact absurd h (breakAt?_eq_none_iff.mp hb)
  | some found => exact ⟨found.1, found.2, rfl⟩

/-- A mark that starts a text breaks it there; otherwise the text breaks where its tail does. -/
theorem breakAt?_cons_eq_some_iff {mark cs before after : List Char} {c : Char} :
    breakAt? mark (c :: cs) = some (before, after) ↔
      before = [] ∧ c :: cs = mark ++ after ∨
        ¬ mark <+: c :: cs ∧ ∃ front, before = c :: front ∧
          breakAt? mark cs = some (front, after) := by
  rw [breakAt?]
  cases hp : mark.isPrefixOf? (c :: cs) with
  | some rest =>
    simp [isPrefixOf?_eq_some hp, eq_comm]
  | none =>
    have hstart := isPrefixOf?_eq_none_iff.mp hp
    have hne : c :: cs ≠ mark ++ after := fun hcs => hstart ⟨after, hcs.symm⟩
    simp only [hstart, hne, and_false, false_or, not_false_eq_true, true_and,
      Option.map_eq_some_iff, Prod.exists, Prod.mk.injEq]
    constructor
    · rintro ⟨front, _, hbreak, rfl, rfl⟩
      exact ⟨front, rfl, hbreak⟩
    · rintro ⟨front, rfl, hbreak⟩
      exact ⟨front, after, hbreak, rfl, rfl⟩

theorem breakAt?_self_append {mark : List Char} (hm : mark ≠ []) (after : List Char) :
    breakAt? mark (mark ++ after) = some ([], after) := by
  cases mark with
  | nil => exact absurd rfl hm
  | cons m ms =>
    have h := isPrefixOf?_append (m :: ms) after
    rw [List.cons_append] at h ⊢
    simp [breakAt?, h]

/-- More text behind a break comes behind it. -/
theorem breakAt?_append {mark cs before after : List Char} (hm : mark ≠ [])
    (h : breakAt? mark cs = some (before, after)) (more : List Char) :
    breakAt? mark (cs ++ more) = some (before, after ++ more) := by
  induction cs generalizing before with
  | nil => simp [breakAt?, hm] at h
  | cons c cs ih =>
    rcases breakAt?_cons_eq_some_iff.mp h with ⟨rfl, hcs⟩ | ⟨hstart, front, rfl, hbreak⟩
    · rw [hcs, List.append_assoc]
      exact breakAt?_self_append hm _
    · -- the mark lies behind `c`, so the text is long enough to show whether one starts at `c`
      have hlen : mark.length ≤ (c :: cs).length := by
        rw [breakAt?_eq_some hbreak]
        simp only [List.length_cons, List.length_append]
        omega
      have hmore : ¬ mark <+: c :: (cs ++ more) := fun hpre =>
        hstart (List.prefix_of_prefix_length_le hpre (List.prefix_append (c :: cs) more) hlen)
      exact breakAt?_cons_eq_some_iff.mpr (.inr ⟨hmore, front, rfl, ih hbreak⟩)

/-- A text breaks at a mark: the mark stands between the two parts, and nowhere earlier. -/
structure BreaksFirst (mark cs before after : List Char) : Prop where
  eq : cs = before ++ mark ++ after
  least : ∀ front back, cs = front ++ mark ++ back → before.length ≤ front.length

theorem breaksFirst_of_breakAt? {mark cs before after : List Char}
    (h : breakAt? mark cs = some (before, after)) : BreaksFirst mark cs before after := by
  refine ⟨breakAt?_eq_some h, ?_⟩
  induction cs generalizing before with
  | nil =>
    have hparts : before = [] ∧ mark = [] ∧ after = [] := by
      simpa using (breakAt?_eq_some h).symm
    simp [hparts.1]
  | cons c cs ih =>
    intro front back hcs
    rcases breakAt?_cons_eq_some_iff.mp h with ⟨rfl, -⟩ | ⟨hstart, lead, rfl, hbreak⟩
    · exact Nat.zero_le _
    · cases front with
      | nil => exact absurd ⟨back, hcs.symm⟩ hstart
      | cons d front =>
        have hrest : cs = front ++ mark ++ back := (List.cons.inj hcs).2
        exact Nat.succ_le_succ (ih hbreak front back hrest)

/-- The break that is found is the first one, and no other. -/
theorem breakAt?_eq_some_iff {mark cs before after : List Char} :
    breakAt? mark cs = some (before, after) ↔ BreaksFirst mark cs before after := by
  refine ⟨breaksFirst_of_breakAt?, fun h => ?_⟩
  have hmark : mark <:+: cs := ⟨before, after, h.eq.symm⟩
  obtain ⟨front, back, hbreak⟩ := exists_breakAt? hmark
  have hfirst := breaksFirst_of_breakAt? hbreak
  have hlength : before.length = front.length :=
    Nat.le_antisymm (h.least front back hfirst.eq) (hfirst.least before after h.eq)
  have hparts := h.eq.symm.trans hfirst.eq
  rw [List.append_assoc, List.append_assoc] at hparts
  obtain ⟨rfl, hbehind⟩ := List.append_inj hparts hlength
  obtain rfl := List.append_cancel_left hbehind
  exact hbreak

/-! ### A text that is put together -/

/-- A mark whose first character does not come again in it breaks a text where it was put, if the
text before it holds none. -/
theorem breakAt?_of_absent {m : Char} {ms before : List Char} (hm : m ∉ ms)
    (h : ¬ m :: ms <:+: before) (after : List Char) :
    breakAt? (m :: ms) (before ++ m :: ms ++ after) = some (before, after) := by
  induction before with
  | nil => exact breakAt?_self_append (by simp) after
  | cons c before ih =>
    rw [List.infix_cons_iff, not_or] at h
    have hstart : ¬ m :: ms <+: c :: (before ++ m :: ms ++ after) := by
      intro hpre
      rw [← List.cons_append, ← List.cons_append] at hpre
      rcases Nat.le_total (m :: ms).length (c :: before).length with hle | hle
      · refine h.1 (List.prefix_of_prefix_length_le hpre ?_ hle)
        rw [List.append_assoc]
        exact List.prefix_append _ _
      · -- a mark that starts before the one that was put and reaches into it repeats its first
        -- character
        have hpre' : c :: before <+: m :: ms := by
          refine List.prefix_of_prefix_length_le ?_ hpre hle
          rw [List.append_assoc]
          exact List.prefix_append _ _
        obtain ⟨tail, htail⟩ := hpre'
        have htl : tail <+: m :: ms ++ after := by
          rw [← htail, List.append_assoc, List.append_assoc] at hpre
          simpa [← htail] using (List.prefix_append_right_inj _).mp hpre
        cases tail with
        | nil =>
          rw [List.append_nil] at htail
          exact h.1 (htail ▸ List.prefix_refl _)
        | cons x tail =>
          have hx : x = m := (List.cons_prefix_cons.mp htl).1
          have hms : ms = before ++ x :: tail := (List.cons.inj htail).2.symm
          exact hm (by simp [hms, hx])
    exact breakAt?_cons_eq_some_iff.mpr (.inr ⟨hstart, before, rfl, ih h.2⟩)

end LintBridge.Text
