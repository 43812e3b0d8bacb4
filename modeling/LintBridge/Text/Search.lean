/-!
The first occurrence of a mark in a text, and the parts of a text between single characters.
-/

namespace LintBridge.Text

/-- The text before the first occurrence of a mark, and the text behind it. -/
def breakAt? (mark : List Char) : List Char → Option (List Char × List Char)
  | [] => if mark = [] then some ([], []) else none
  | c :: rest =>
      match mark.isPrefixOf? (c :: rest) with
      | some after => some ([], after)
      | none => (breakAt? mark rest).map fun (before, after) => (c :: before, after)

theorem isPrefixOf?_eq_some {mark cs after : List Char} (h : mark.isPrefixOf? cs = some after) :
    cs = mark ++ after := by
  induction mark generalizing cs with
  | nil =>
    cases h
    rfl
  | cons m mark ih =>
    cases cs with
    | nil => cases h
    | cons c cs =>
      have hstep : (m :: mark).isPrefixOf? (c :: cs) =
          if m == c then mark.isPrefixOf? cs else none := rfl
      rw [hstep] at h
      split at h
      · next hc => rw [ih h, eq_of_beq hc, List.cons_append]
      · cases h

/-- A break takes nothing away but the mark. -/
theorem breakAt?_eq_some {mark cs before after : List Char}
    (h : breakAt? mark cs = some (before, after)) : cs = before ++ mark ++ after := by
  induction cs generalizing before after with
  | nil =>
    simp only [breakAt?] at h
    split at h
    · next hm => cases h; simp [hm]
    · cases h
  | cons c cs ih =>
    simp only [breakAt?] at h
    split at h
    · next ha => cases h; simpa using isPrefixOf?_eq_some ha
    · simp only [Option.map_eq_some_iff, Prod.exists] at h
      obtain ⟨b, a, hb, heq⟩ := h
      cases heq
      simp [ih hb]

/-- The parts of a text between the occurrences of a character. -/
def splitAt (mark : Char) : List Char → List (List Char)
  | [] => [[]]
  | c :: rest =>
      if c = mark then [] :: splitAt mark rest
      else
        match splitAt mark rest with
        | part :: more => (c :: part) :: more
        | [] => [[c]]

theorem splitAt_eq_splitOn (mark : Char) (cs : List Char) :
    splitAt mark cs = cs.splitOn mark := by
  induction cs with
  | nil => rfl
  | cons c cs ih =>
    rw [splitAt, ih, List.splitOn_cons_eq_if_modifyHead]
    simp only [beq_iff_eq]
    split
    · rfl
    · cases h : cs.splitOn mark with
      | nil => exact absurd h (List.splitOn_ne_nil mark cs)
      | cons part more => rfl

end LintBridge.Text
