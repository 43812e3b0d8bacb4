import LintBridge.Text.Newline
import LintBridge.Text.Search

/-!
Lines, and texts whose line ends are joined. Nothing is taken away from these but returns, and no
line is changed but at its end.
-/

namespace LintBridge.Text

/-! ### Lines -/

theorem splitAt_of_not_mem {mark : Char} {cs : List Char} (h : mark ∉ cs) :
    splitAt mark cs = [cs] := by
  have hsplit : ([mark].intercalate [cs]).splitOn mark = [cs] :=
    List.splitOn_intercalate mark (by simpa using h) (by simp)
  rwa [List.intercalate_singleton, ← splitAt_eq_splitOn] at hsplit

theorem lines_eq_splitAt (cs : List Char) : lines cs = splitAt '\n' cs := by
  induction cs with
  | nil => rfl
  | cons c rest ih =>
    rw [splitAt, ← ih]
    rfl

theorem lines_of_not_mem {cs : List Char} (h : '\n' ∉ cs) : lines cs = [cs] := by
  rw [lines_eq_splitAt, splitAt_of_not_mem h]

theorem lines_append_feed {line : List Char} (h : '\n' ∉ line) (rest : List Char) :
    lines (line ++ '\n' :: rest) = line :: lines rest := by
  rw [lines_eq_splitAt, lines_eq_splitAt, splitAt_eq_splitOn, splitAt_eq_splitOn]
  exact List.splitOn_append_cons_self_of_not_mem h rest

/-- A part between the occurrences of a character holds what the text holds, but not the
character. -/
theorem mem_of_mem_splitAt {mark c : Char} {cs part : List Char} (hpart : part ∈ splitAt mark cs)
    (hc : c ∈ part) : c ∈ cs ∧ c ≠ mark := by
  induction cs generalizing part with
  | nil =>
    cases List.mem_singleton.mp hpart
    cases hc
  | cons d rest ih =>
    have hrest {part : List Char} (hpart : part ∈ splitAt mark rest) (hc : c ∈ part) :
        c ∈ d :: rest ∧ c ≠ mark :=
      ⟨List.mem_cons_of_mem d (ih hpart hc).1, (ih hpart hc).2⟩
    rw [splitAt] at hpart
    split at hpart
    · rcases List.mem_cons.mp hpart with rfl | hpart
      · cases hc
      · exact hrest hpart hc
    · next hd =>
      cases hparts : splitAt mark rest with
      | nil =>
        rw [splitAt_eq_splitOn] at hparts
        exact absurd hparts (List.splitOn_ne_nil mark rest)
      | cons front more =>
        rw [hparts] at hpart hrest
        rcases List.mem_cons.mp hpart with rfl | hpart
        · rcases List.mem_cons.mp hc with rfl | hc
          · exact ⟨List.mem_cons_self, hd⟩
          · exact hrest List.mem_cons_self hc
        · exact hrest (List.mem_cons_of_mem front hpart) hc

theorem mem_of_mem_lines {c : Char} {cs line : List Char} (hline : line ∈ lines cs)
    (hc : c ∈ line) : c ∈ cs ∧ c ≠ '\n' :=
  mem_of_mem_splitAt (lines_eq_splitAt cs ▸ hline) hc

/-! ### Joined line ends -/

theorem count_joinReturns {c : Char} (hc : c ≠ '\r') (cs : List Char) :
    (joinReturns cs).count c = cs.count c := by
  fun_induction joinReturns cs with
  | case1 => rfl
  | case2 rest ih => simp [List.count_cons, ih, hc.symm]
  | case3 d rest hd ih => simp [List.count_cons, ih]

theorem joinReturns_append {front : List Char} (h : '\r' ∉ front) (back : List Char) :
    joinReturns (front ++ back) = front ++ joinReturns back := by
  induction front with
  | nil => rfl
  | cons c front ih =>
    rw [List.mem_cons, not_or] at h
    rw [List.cons_append, joinReturns, ih h.2]
    · rfl
    · rintro rest rfl
      exact absurd rfl h.1

theorem prefix_of_joinReturns {line cs : List Char} (hline : '\n' ∉ line)
    (h : line <+: joinReturns cs) : line <+: cs := by
  fun_induction joinReturns cs generalizing line with
  | case1 => exact h
  | case2 rest ih =>
    cases line with
    | nil => exact List.nil_prefix
    | cons c line =>
      obtain ⟨rfl, -⟩ := List.cons_prefix_cons.mp h
      exact absurd List.mem_cons_self hline
  | case3 d rest hd ih =>
    cases line with
    | nil => exact List.nil_prefix
    | cons c line =>
      obtain ⟨rfl, htail⟩ := List.cons_prefix_cons.mp h
      have hmore : '\n' ∉ line := fun hmem => hline (List.mem_cons_of_mem c hmem)
      exact List.cons_prefix_cons.mpr ⟨rfl, ih hmore htail⟩

theorem exists_suffix_of_joinReturns {back cs : List Char} (h : back <:+ joinReturns cs) :
    ∃ rest, rest <:+ cs ∧ back = joinReturns rest := by
  fun_induction joinReturns cs with
  | case1 => exact ⟨[], List.suffix_refl [], List.suffix_nil.mp h⟩
  | case2 rest ih =>
    rcases List.suffix_cons_iff.mp h with rfl | h
    · exact ⟨'\r' :: '\n' :: rest, List.suffix_refl _, rfl⟩
    · obtain ⟨more, hmore, rfl⟩ := ih h
      exact ⟨more, hmore.trans ⟨['\r', '\n'], rfl⟩, rfl⟩
  | case3 d rest hd ih =>
    rcases List.suffix_cons_iff.mp h with rfl | h
    · exact ⟨d :: rest, List.suffix_refl _, by rw [joinReturns]; exact hd⟩
    · obtain ⟨more, hmore, rfl⟩ := ih h
      exact ⟨more, hmore.trans (List.suffix_cons d rest), rfl⟩

/-- Joining line ends puts nothing together that is within a line. -/
theorem infix_of_joinReturns {line cs : List Char} (hline : '\n' ∉ line)
    (h : line <:+: joinReturns cs) : line <:+: cs := by
  obtain ⟨back, hfront, hback⟩ := List.infix_iff_prefix_suffix.mp h
  obtain ⟨rest, hrest, rfl⟩ := exists_suffix_of_joinReturns hback
  exact (prefix_of_joinReturns hline hfront).isInfix.trans hrest.isInfix

end LintBridge.Text
