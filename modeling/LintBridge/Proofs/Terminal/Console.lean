import LintBridge.Terminal.Console
import LintBridge.Proofs.Text.Newline
import LintBridge.Proofs.Text.Search

/-!
What is left of a message when it is written.

Tabs and line ends are written in another way, and control characters are left out. All other
characters, blanks apart, are written as they are and in their order, so two messages that are
written alike hold the same of them (`ink_written`). A message that holds nothing else is written as
it is (`written_of_verbatim`).
-/

namespace LintBridge.Terminal

/-! ### Lines -/

/-- What stands in the parts of a line is the line's own, but for the spaces that tabs leave. -/
theorem mem_of_mem_tabParts {line part : List Char} {c : Char} (hpart : part ∈ tabParts line)
    (hc : c ∈ part) : c = ' ' ∨ c ∈ line := by
  have hexpand (column : Nat) (parts : List (List Char)) (hpart : part ∈ expandParts column parts) :
      c = ' ' ∨ ∃ p ∈ parts, c ∈ p := by
    fun_induction expandParts column parts with
    | case1 => cases hpart
    | case2 column last =>
      exact .inr ⟨last, List.mem_cons_self, List.mem_singleton.mp hpart ▸ hc⟩
    | case3 column first rest _ shown reached gap ih =>
      rcases List.mem_cons.mp hpart with rfl | hrest
      · rcases List.mem_append.mp hc with hshown | hspace
        · rcases List.mem_append.mp hshown with hfirst | hspace
          · exact .inr ⟨first, List.mem_cons_self, hfirst⟩
          · exact .inl (List.mem_singleton.mp hspace)
        · exact .inl (List.eq_of_mem_replicate hspace)
      · rcases ih hrest with hspace | ⟨p, hp, hmem⟩
        · exact .inl hspace
        · exact .inr ⟨p, List.mem_cons_of_mem first hp, hmem⟩
  rcases hexpand 0 _ hpart with hspace | ⟨p, hp, hmem⟩
  · exact .inl hspace
  · exact .inr (Text.mem_of_mem_splitAt hp hmem).1

theorem toList_joinLines (lines : List (List Char)) :
    (joinLines lines).toList = lines.flatMap (· ++ ['\n']) :=
  String.toList_ofList

/-- Lines without line feeds are the lines of what they are joined to, and nothing stands behind the
last one. -/
theorem lines_joinLines {lines : List (List Char)} (h : ∀ line ∈ lines, '\n' ∉ line) :
    Text.lines (joinLines lines).toList = lines ++ [[]] := by
  rw [toList_joinLines]
  induction lines with
  | nil => rfl
  | cons line rest ih =>
    have hline : '\n' ∉ line := h line List.mem_cons_self
    have hrest : ∀ line ∈ rest, '\n' ∉ line := fun l hl => h l (List.mem_cons_of_mem line hl)
    rw [List.flatMap_cons, List.append_assoc, List.singleton_append, Text.lines_append_feed hline,
      ih hrest, List.cons_append]

/-- What is written of a message is its own, but for the spaces that tabs leave, and ends no line.
-/
theorem mem_of_mem_messageLines {message : String} {parts : List (List Char)} {part : List Char}
    {c : Char} (hparts : parts ∈ messageLines message) (hpart : part ∈ parts) (hc : c ∈ part) :
    c ≠ '\n' ∧ (c = ' ' ∨ c ∈ message.toList) := by
  obtain ⟨line, hline, rfl⟩ := List.mem_map.mp hparts
  rcases mem_of_mem_tabParts hpart hc with rfl | hmem
  · exact ⟨by decide, .inl rfl⟩
  · obtain ⟨hfilter, hfeed⟩ := Text.mem_of_mem_lines hline hmem
    exact ⟨hfeed, .inr ((List.mem_filter.mp hfilter).1)⟩

/-! ### Texts that are written as they are -/

/-- A character that is written as it is, and ends no line. -/
def isVerbatim (c : Char) : Bool :=
  !(isDropped c || ['\t', '\n'].contains c)

/-- A text of characters that are written as they are, on one line. -/
def Verbatim (cs : List Char) : Prop :=
  ∀ c ∈ cs, isVerbatim c = true

instance (cs : List Char) : Decidable (Verbatim cs) :=
  List.decidableBAll _ cs

theorem isVerbatim_iff {c : Char} :
    isVerbatim c = true ↔ isDropped c = false ∧ c ≠ '\t' ∧ c ≠ '\n' := by
  simp [isVerbatim]

theorem Verbatim.not_mem_tab {cs : List Char} (h : Verbatim cs) : '\t' ∉ cs :=
  fun hmem => (isVerbatim_iff.mp (h _ hmem)).2.1 rfl

theorem Verbatim.not_mem_feed {cs : List Char} (h : Verbatim cs) : '\n' ∉ cs :=
  fun hmem => (isVerbatim_iff.mp (h _ hmem)).2.2 rfl

theorem Verbatim.filter_eq {cs : List Char} (h : Verbatim cs) : cs.filter (!isDropped ·) = cs := by
  apply List.filter_eq_self.mpr
  intro c hc
  rw [(isVerbatim_iff.mp (h c hc)).1]
  rfl

theorem Verbatim.append {cs more : List Char} (h : Verbatim cs) (h' : Verbatim more) :
    Verbatim (cs ++ more) := by
  intro c hc
  rcases List.mem_append.mp hc with hc | hc
  · exact h c hc
  · exact h' c hc

theorem Verbatim.tabParts_eq {cs : List Char} (h : Verbatim cs) : tabParts cs = [cs] := by
  rw [tabParts, Text.splitAt_of_not_mem h.not_mem_tab]
  rfl

theorem Verbatim.expandTabs_eq {cs : List Char} (h : Verbatim cs) : expandTabs cs = cs := by
  rw [expandTabs, h.tabParts_eq]
  exact List.append_nil cs

theorem verbatim_emoji (emoji : Bool) (tone : Tone) :
    Verbatim (optional emoji tone.emoji).toList := by
  cases emoji <;> cases tone <;> decide

/-- A message that holds no tab, no line feed and no control character is written as it is. -/
theorem written_of_verbatim (tone : Tone) (emoji : Bool) {message : String}
    (h : Verbatim message.toList) :
    written tone emoji false message = optional emoji tone.emoji ++ message ++ "\n" := by
  have hwhole : Verbatim (optional emoji tone.emoji ++ message).toList := by
    rw [String.toList_append]
    exact (verbatim_emoji emoji tone).append h
  rw [← String.toList_inj, written, toList_joinLines, messageLines, hwhole.filter_eq,
    Text.lines_of_not_mem hwhole.not_mem_feed, List.map_singleton, hwhole.tabParts_eq]
  simp

/-! ### Ink -/

/-- A character that is written as it is and leaves something to see. -/
def isInk (c : Char) : Bool :=
  !(isDropped c || [' ', '\t', '\n'].contains c)

theorem filter_isInk_lines (cs : List Char) :
    (Text.lines cs).flatMap (List.filter isInk) = cs.filter isInk := by
  induction cs with
  | nil => rfl
  | cons c rest ih =>
    rw [Text.lines]
    split
    · next hc =>
      subst hc
      exact ih
    · cases hlines : Text.lines rest with
      | nil => exact absurd hlines (Text.lines_ne_nil rest)
      | cons line more =>
        rw [hlines] at ih
        simp only [List.flatMap_cons, List.filter_cons] at ih ⊢
        split <;> simp [ih]

theorem filter_isInk_splitAt (cs : List Char) :
    (Text.splitAt '\t' cs).flatten.filter isInk = cs.filter isInk := by
  induction cs with
  | nil => rfl
  | cons c rest ih =>
    rw [Text.splitAt]
    split
    · next hc =>
      subst hc
      exact ih
    · cases hparts : Text.splitAt '\t' rest with
      | nil =>
        rw [Text.splitAt_eq_splitOn] at hparts
        exact absurd hparts (List.splitOn_ne_nil '\t' rest)
      | cons part more =>
        rw [hparts] at ih
        simp only [List.flatten_cons, List.cons_append, List.filter_cons] at ih ⊢
        rw [ih]

/-- Spaces leave nothing to see. -/
theorem filter_isInk_spaces (n : Nat) : (List.replicate n ' ').filter isInk = [] := by
  rw [List.filter_eq_nil_iff]
  intro c hc
  rw [List.eq_of_mem_replicate hc]
  decide

theorem filter_isInk_expandParts (column : Nat) (parts : List (List Char)) :
    (expandParts column parts).flatten.filter isInk = parts.flatten.filter isInk := by
  fun_induction expandParts column parts with
  | case1 => rfl
  | case2 => rfl
  | case3 column part rest _ shown reached gap ih =>
    have hshown : shown.filter isInk = part.filter isInk :=
      (List.filter_append part [' ']).trans (List.append_nil _)
    simp only [List.flatten_cons, List.filter_append, filter_isInk_spaces, List.append_nil, hshown,
      ih]

/-- What there is to see of a text. -/
def ink (text : String) : List Char :=
  text.toList.filter isInk

theorem ink_append (text more : String) : ink (text ++ more) = ink text ++ ink more := by
  rw [ink, String.toList_append, List.filter_append]
  rfl

/-- What there is to see of a message is there to see when it is written without colours. -/
theorem ink_written (tone : Tone) (emoji : Bool) (message : String) :
    ink (written tone emoji false message) = ink (optional emoji tone.emoji) ++ ink message := by
  have hline (line : List Char) : ((tabParts line).flatten ++ ['\n']).filter isInk =
      line.filter isInk := by
    rw [List.filter_append, tabParts, filter_isInk_expandParts, filter_isInk_splitAt]
    exact List.append_nil _
  have hdropped (cs : List Char) : (cs.filter (!isDropped ·)).filter isInk = cs.filter isInk := by
    rw [List.filter_filter]
    congr
    funext c
    cases h : isDropped c <;> simp [isInk, h]
  rw [← ink_append]
  simp only [ink, written, joinLines, messageLines, Bool.false_eq_true, if_false, List.map_map,
    String.toList_ofList, List.flatMap_map, List.filter_flatMap, Function.comp_def, hline]
  exact (filter_isInk_lines _).trans (hdropped _)

end LintBridge.Terminal
