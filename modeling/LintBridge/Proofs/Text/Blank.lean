import LintBridge.Text.Blank

/-!
Trimming, by what it takes away: blanks in front, blanks behind, and nothing else. A text that is
solid, one that neither starts nor ends with a blank, is what trimming leaves of it between blanks.
-/

namespace LintBridge.Text

/-- A text of blanks only. -/
def Blanks (cs : List Char) : Prop :=
  ∀ c ∈ cs, isBlank c = true

/-- A text that neither starts nor ends with a blank, and is not empty. -/
def Solid (cs : List Char) : Prop :=
  (∃ c rest, cs = c :: rest ∧ isBlank c = false) ∧
    ∃ front c, cs = front ++ [c] ∧ isBlank c = false

theorem Solid.ne_nil {cs : List Char} (h : Solid cs) : cs ≠ [] := by
  obtain ⟨⟨c, rest, rfl, -⟩, -⟩ := h
  exact List.cons_ne_nil c rest

theorem Solid.length_lt_append {cs : List Char} (h : Solid cs) (rest : List Char) :
    rest.length < (cs ++ rest).length := by
  have := List.length_pos_iff.mpr h.ne_nil
  rw [List.length_append]
  omega

theorem solid_singleton {c : Char} (h : isBlank c = false) : Solid [c] :=
  ⟨⟨c, [], rfl, h⟩, [], c, rfl, h⟩

/-- Whatever stands between two solid texts, the whole is solid. -/
theorem Solid.between {front back : List Char} (hf : Solid front) (mid : List Char)
    (hb : Solid back) : Solid (front ++ (mid ++ back)) := by
  obtain ⟨⟨c, rest, rfl, hc⟩, -⟩ := hf
  obtain ⟨-, init, d, rfl, hd⟩ := hb
  exact ⟨⟨c, _, List.cons_append, hc⟩, c :: rest ++ (mid ++ init), d, by simp, hd⟩

theorem solid_of_forall {cs : List Char} (hne : cs ≠ []) (h : ∀ c ∈ cs, isBlank c = false) :
    Solid cs := by
  constructor
  · obtain ⟨c, rest, rfl⟩ := List.exists_cons_of_ne_nil hne
    exact ⟨c, rest, rfl, h c List.mem_cons_self⟩
  · exact ⟨cs.dropLast, cs.getLast hne, (List.dropLast_concat_getLast hne).symm,
      h _ (List.getLast_mem hne)⟩

theorem blanks_nil : Blanks [] := by
  intro c hc
  cases hc

theorem trimStart_blanks_append {lead : List Char} (h : Blanks lead) (cs : List Char) :
    trimStart (lead ++ cs) = trimStart cs :=
  List.dropWhile_append_of_pos h

theorem trimStart_of_solid_append {body : List Char} (h : Solid body) (cs : List Char) :
    trimStart (body ++ cs) = body ++ cs := by
  obtain ⟨⟨c, rest, rfl, hc⟩, -⟩ := h
  rw [List.cons_append, trimStart, List.dropWhile_cons_of_neg (by simp [hc])]

theorem Blanks.append {lead more : List Char} (h : Blanks lead) (h' : Blanks more) :
    Blanks (lead ++ more) := by
  intro c hc
  rcases List.mem_append.mp hc with hc | hc
  · exact h c hc
  · exact h' c hc

theorem exists_trimStart (cs : List Char) : ∃ lead, Blanks lead ∧ cs = lead ++ trimStart cs :=
  ⟨cs.takeWhile isBlank, List.all_eq_true.mp List.all_takeWhile,
    List.takeWhile_append_dropWhile.symm⟩

theorem exists_dropEndWhile (cs : List Char) :
    ∃ trail, Blanks trail ∧ cs = dropEndWhile isBlank cs ++ trail := by
  refine ⟨(cs.reverse.takeWhile isBlank).reverse, ?_, ?_⟩
  · intro c hc
    rw [List.mem_reverse] at hc
    exact List.all_eq_true.mp List.all_takeWhile c hc
  · rw [dropEndWhile, ← List.reverse_append, List.takeWhile_append_dropWhile, List.reverse_reverse]

theorem dropEndWhile_append_blanks (cs : List Char) {trail : List Char} (h : Blanks trail) :
    dropEndWhile isBlank (cs ++ trail) = dropEndWhile isBlank cs := by
  have hreverse : ∀ c ∈ trail.reverse, isBlank c = true := fun c hc => h c (List.mem_reverse.mp hc)
  rw [dropEndWhile, List.reverse_append, List.dropWhile_append_of_pos hreverse, ← dropEndWhile]

theorem exists_trim (cs : List Char) : ∃ trail, Blanks trail ∧ trimStart cs = trim cs ++ trail :=
  exists_dropEndWhile (trimStart cs)

/-- What is left of a text after trimming it, and its start again, stands between blanks in it. -/
theorem exists_around (cs : List Char) :
    ∃ lead trail, Blanks lead ∧ Blanks trail ∧ cs = lead ++ (trimStart (trim cs) ++ trail) := by
  obtain ⟨lead, hlead, hcs⟩ := exists_trimStart cs
  obtain ⟨trail, htrail, htrim⟩ := exists_trim cs
  obtain ⟨more, hmore, hstart⟩ := exists_trimStart (trim cs)
  refine ⟨lead ++ more, trail, hlead.append hmore, htrail, ?_⟩
  rw [List.append_assoc, ← List.append_assoc more, ← hstart, ← htrim, ← hcs]

/-- Trimming leaves a solid text of what stands between blanks. -/
theorem trim_of_solid {lead body trail : List Char} (hl : Blanks lead) (hb : Solid body)
    (ht : Blanks trail) : trim (lead ++ body ++ trail) = body := by
  rw [trim, List.append_assoc, trimStart_blanks_append hl, trimStart_of_solid_append hb,
    dropEndWhile_append_blanks body ht]
  obtain ⟨-, front, c, rfl, hc⟩ := hb
  rw [dropEndWhile, List.reverse_append, List.reverse_singleton, List.singleton_append,
    List.dropWhile_cons_of_neg (by simp [hc]), ← List.singleton_append, List.reverse_append,
    List.reverse_reverse, List.reverse_singleton]

/-! ### What trimming leaves -/

/-- What is left of a text without the blanks around: a text that neither starts nor ends with a
blank, or nothing. -/
structure Stripped (cs body : List Char) : Prop where
  solid : body = [] ∨ Solid body
  around : ∃ lead trail, Blanks lead ∧ Blanks trail ∧ cs = lead ++ body ++ trail

/-- What is left of a text after its first blanks starts with no blank. -/
theorem isBlank_of_dropWhile {cs rest : List Char} {c : Char}
    (h : cs.dropWhile isBlank = c :: rest) : isBlank c = false := by
  have hnot := List.head_dropWhile_not isBlank (l := cs) (by simp [h])
  simpa [h] using hnot

theorem Stripped.isInfix {cs body : List Char} (h : Stripped cs body) : body <:+: cs := by
  obtain ⟨lead, trail, -, -, hcs⟩ := h.around
  exact ⟨lead, trail, hcs.symm⟩

theorem stripped_trim (cs : List Char) : Stripped cs (trim cs) := by
  obtain ⟨lead, hlead, hcs⟩ := exists_trimStart cs
  obtain ⟨trail, htrail, hstart⟩ := exists_trim cs
  refine ⟨?_, lead, trail, hlead, htrail, by rw [List.append_assoc, ← hstart, ← hcs]⟩
  by_cases hnil : trim cs = []
  · exact .inl hnil
  refine .inr ⟨?_, ?_⟩
  · obtain ⟨c, rest, hbody⟩ := List.exists_cons_of_ne_nil hnil
    rw [hbody, List.cons_append] at hstart
    exact ⟨c, rest, hbody, isBlank_of_dropWhile hstart⟩
  · have hreverse : (trimStart cs).reverse.dropWhile isBlank ≠ [] := by
      simpa [trim, dropEndWhile] using hnil
    obtain ⟨c, rest, hback⟩ := List.exists_cons_of_ne_nil hreverse
    refine ⟨rest.reverse, c, ?_, isBlank_of_dropWhile hback⟩
    rw [trim, dropEndWhile, hback, List.reverse_cons]

/-- Trimming a text gives what is left of it without the blanks around, and nothing else is that. -/
theorem trim_eq_iff {cs body : List Char} : trim cs = body ↔ Stripped cs body := by
  constructor
  · rintro rfl
    exact stripped_trim cs
  · rintro ⟨rfl | hsolid, lead, trail, hlead, htrail, rfl⟩
    · have hblank := trimStart_blanks_append (hlead.append htrail) []
      rw [List.append_nil] at hblank ⊢
      rw [trim, hblank]
      rfl
    · exact trim_of_solid hlead hsolid htrail

/-- Nothing is left of a text exactly if it is all blanks. -/
theorem trim_eq_nil_iff {cs : List Char} : trim cs = [] ↔ Blanks cs := by
  rw [trim_eq_iff]
  constructor
  · rintro ⟨-, lead, trail, hlead, htrail, rfl⟩
    rw [List.append_nil]
    exact hlead.append htrail
  · intro h
    exact ⟨.inl rfl, cs, [], h, blanks_nil, by simp⟩

end LintBridge.Text
