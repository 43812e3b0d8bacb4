import LintBridge.Proofs.Json.Document

/-!
Arrays and objects in a text.

The text of an array or an object ends with a bracket of its own (`Document.exists_closing`). So its
end shows without a look at what comes behind: the same document is read if more text follows
(`Document.append`), and also if the text is cut off behind that bracket (`Document.of_append`).
-/

namespace LintBridge.Json

/-- The brackets that arrays and objects end with. -/
def isClosing (c : Char) : Bool :=
  c == ']' || c == '}'

/-! ### The last bracket -/

mutual

theorem Items.exists_closing {cs rest : List Char} {values : List Json} :
    Items cs values rest → ∃ inside, cs = inside ++ ']' :: rest
  | .last hpart hend => by
    obtain ⟨text, rfl, -, -⟩ := hpart.exists_text
    obtain ⟨gap, rfl, -⟩ := exists_gap hend
    exact ⟨text ++ gap, by simp⟩
  | .more hpart hcomma hmore => by
    obtain ⟨text, rfl, -, -⟩ := hpart.exists_text
    obtain ⟨gap, rfl, -⟩ := exists_gap hcomma
    obtain ⟨inside, htail⟩ := hmore.exists_closing
    obtain ⟨gap', rfl, -⟩ := exists_gap htail
    exact ⟨text ++ gap ++ ',' :: gap' ++ inside, by simp⟩

theorem Members.exists_closing {cs rest : List Char} {members : List (String × Json)} :
    Members cs members rest → ∃ inside, cs = inside ++ '}' :: rest
  | .last hpart hend => by
    obtain ⟨text, rfl, -, -⟩ := hpart.exists_text
    obtain ⟨gap, rfl, -⟩ := exists_gap hend
    exact ⟨text ++ gap, by simp⟩
  | .more hpart hcomma hmore => by
    obtain ⟨text, rfl, -, -⟩ := hpart.exists_text
    obtain ⟨gap, rfl, -⟩ := exists_gap hcomma
    obtain ⟨inside, htail⟩ := hmore.exists_closing
    obtain ⟨gap', rfl, -⟩ := exists_gap htail
    exact ⟨text ++ gap ++ ',' :: gap' ++ inside, by simp⟩

end

/-- An array or an object ends with its closing bracket. -/
theorem Document.exists_closing {cs rest : List Char} {v : Json} (h : Document cs v rest)
    (hv : isScalar v = false) :
    ∃ inside close, isClosing close = true ∧ cs = inside ++ close :: rest := by
  cases h with
  | bare h =>
    rw [bare?_isScalar h] at hv
    cases hv
  | @string _ _ content h =>
    rw [(ofContent_isScalar content).1] at hv
    cases hv
  | emptyArray h =>
    obtain ⟨gap, rfl, -⟩ := exists_gap h
    exact ⟨'[' :: gap, ']', rfl, rfl⟩
  | array h =>
    obtain ⟨inside, hinside⟩ := h.exists_closing
    obtain ⟨gap, rfl, -⟩ := exists_gap hinside
    exact ⟨'[' :: gap ++ inside, ']', rfl, by simp⟩
  | emptyObject h =>
    obtain ⟨gap, rfl, -⟩ := exists_gap h
    exact ⟨'{' :: gap, '}', rfl, rfl⟩
  | object h =>
    obtain ⟨inside, hinside⟩ := h.exists_closing
    obtain ⟨gap, rfl, -⟩ := exists_gap hinside
    exact ⟨'{' :: gap ++ inside, '}', rfl, by simp⟩

/-! ### More text and less text -/

/-- An array or an object does not start like a number. -/
theorem Document.startsNumber_eq_false {text rest : List Char} {v : Json}
    (h : Document (text ++ rest) v rest) (hne : text ≠ []) (hv : isScalar v = false) :
    startsNumber text = false := by
  obtain ⟨c, tail, rfl⟩ := List.exists_cons_of_ne_nil hne
  rw [List.cons_append] at h
  cases h with
  | bare h =>
    rw [bare?_isScalar h] at hv
    cases hv
  | string h => rfl
  | emptyArray h => rfl
  | array h => rfl
  | emptyObject h => rfl
  | object h => rfl

/-- An array or an object is cut off its rest, and it is the same in front of any rest. -/
theorem Document.exists_closed {cs rest : List Char} {v : Json} (h : Document cs v rest)
    (hv : isScalar v = false) :
    ∃ text, cs = text ++ rest ∧ Text.Solid text ∧ ∀ rest', Document (text ++ rest') v rest' := by
  obtain ⟨text, rfl, hsolid, hagain⟩ := h.exists_text
  have hstart := h.startsNumber_eq_false hsolid.ne_nil hv
  refine ⟨text, rfl, hsolid, fun rest' => hagain rest' fun hnumber => ?_⟩
  rw [hstart] at hnumber
  cases hnumber

/-- An array or an object is not changed by more text. -/
theorem Document.append {cs rest : List Char} {v : Json} (h : Document cs v rest)
    (hv : isScalar v = false) (more : List Char) : Document (cs ++ more) v (rest ++ more) := by
  obtain ⟨text, rfl, -, hagain⟩ := h.exists_closed hv
  rw [List.append_assoc]
  exact hagain (rest ++ more)

/-- An array or an object is not changed if text is cut off that holds no closing bracket. -/
theorem Document.of_append {cs cut rest : List Char} {v : Json} (h : Document (cs ++ cut) v rest)
    (hv : isScalar v = false) (hcut : ∀ c ∈ cut, isClosing c = false) :
    ∃ left, Document cs v left := by
  obtain ⟨inside, close, hclose, hcs⟩ := h.exists_closing hv
  -- the document's own bracket is none of those that are cut off
  have hnotin : close ∉ cut := fun hmem => by
    rw [hcut close hmem] at hclose
    cases hclose
  obtain ⟨left, rfl⟩ : ∃ left, rest = left ++ cut := by
    rcases List.append_eq_append_iff.mp hcs with ⟨more, -, rfl⟩ | ⟨more, -, hmore⟩
    · exact absurd (by simp) hnotin
    · cases more with
      | nil =>
        rw [List.nil_append] at hmore
        exact absurd (hmore ▸ List.mem_cons_self) hnotin
      | cons c left => exact ⟨left, (List.cons.inj hmore).2⟩
  obtain ⟨text, htext, -, hagain⟩ := h.exists_closed hv
  rw [← List.append_assoc] at htext
  exact ⟨left, List.append_cancel_right htext ▸ hagain left⟩

end LintBridge.Json
