import LintBridge.Machine.Lookup
import Mathlib.Data.List.Chain

/-!
The text of an absolute path, and the directories above it.

An absolute path can be read back from its text (`Path.parse_text`), because none of its names holds
a slash or is left out. So it makes no difference whether an anchored path is handed on as a path or
as its text: anchored again, the text gives the same path (`Machine.anchored_text`).

The directories from a path upwards are its parents in turn. They lose a name each, so none comes
twice, and the last one has none left (`Path.goesUp_ancestors`).
-/

namespace LintBridge

theorem isPathName_iff {text : String} :
    isPathName text = true ↔ text ≠ "" ∧ text ≠ "." ∧ '/' ∉ text.toList := by
  simp [isPathName, and_assoc]

namespace Path

/-! ### Reading a text back -/

/-- The parts of names with slashes between them are the names. -/
theorem steps_intercalate {names : List String} (hne : names ≠ [])
    (h : ∀ name ∈ names, isPathName name = true) :
    steps (String.intercalate "/" names) = names := by
  have hslash : ∀ l ∈ names.map String.toList, '/' ∉ l := by
    intro l hl
    obtain ⟨n, hmem, rfl⟩ := List.mem_map.mp hl
    exact (isPathName_iff.mp (h n hmem)).2.2
  have hsplit : Text.splitAt '/' (String.intercalate "/" names).toList =
      names.map String.toList := by
    rw [Text.splitAt_eq_splitOn, String.toList_intercalate]
    exact List.splitOn_intercalate '/' hslash (by simpa using hne)
  have hid : (String.ofList ∘ String.toList) = id := funext fun _ => String.ofList_toList
  rw [steps, hsplit, List.map_map, hid, List.map_id]

/-- Read as a path, names with slashes between them leave no name out. -/
theorem filter_steps_intercalate {names : List String}
    (h : ∀ name ∈ names, isPathName name = true) :
    (steps (String.intercalate "/" names)).filter isPathName = names := by
  by_cases hne : names = []
  · rw [hne]
    rfl
  · rw [steps_intercalate hne h]
    exact List.filter_eq_self.mpr h

/-- Names with slashes between them do not start with a slash. -/
theorem head?_intercalate_ne {names : List String} (h : ∀ name ∈ names, isPathName name = true) :
    (String.intercalate "/" names).toList.head? ≠ some '/' := by
  cases names with
  | nil => simp
  | cons name rest =>
    obtain ⟨hempty, -, hslash⟩ := isPathName_iff.mp (h name List.mem_cons_self)
    have hhead : (String.intercalate "/" (name :: rest)).toList.head? = name.toList.head? := by
      cases hcs : name.toList with
      | nil => exact absurd (String.toList_eq_nil_iff.mp hcs) hempty
      | cons c cs =>
        cases rest with
        | nil => simp [hcs]
        | cons next more => simp [String.intercalate_cons_cons, hcs]
    rw [hhead]
    intro hc
    exact hslash (List.mem_of_mem_head? hc)

theorem text_of_isAbsolute {p : Path} (h : p.isAbsolute = true) :
    p.text = p.anchor.text ++ String.intercalate "/" p.names := by
  unfold text
  split
  · next ha _ => simp [isAbsolute, ha] at h
  · rfl

/-- The text of an absolute path starts with a slash. -/
theorem head?_text {p : Path} (h : p.isAbsolute = true) : p.text.toList.head? = some '/' := by
  rw [text_of_isAbsolute h, String.toList_append]
  cases ha : p.anchor with
  | here => simp [isAbsolute, ha] at h
  | root => rfl
  | doubleRoot => rfl

theorem anchor_of_text_append {anchor : Anchor} (hanchor : anchor ≠ .here) {cs : List Char}
    (h : cs.head? ≠ some '/') : Anchor.of (anchor.text.toList ++ cs) = anchor := by
  have hcs : cs.takeWhile (· == '/') = [] := by
    cases cs with
    | nil => rfl
    | cons c cs =>
      have hc : (c == '/') = false := by simpa using h
      simp [hc]
  cases anchor with
  | here => exact absurd rfl hanchor
  | root => simp [Anchor.of, Anchor.text, hcs]
  | doubleRoot => simp [Anchor.of, Anchor.text, hcs]

/-- A text names an absolute path exactly if it starts with a slash. -/
theorem isAbsolute_parse_iff {text : String} :
    (parse text).isAbsolute = true ↔ text.toList.head? = some '/' := by
  have hanchor : (parse text).isAbsolute = (Anchor.of text.toList != .here) := rfl
  rw [hanchor, bne_iff_ne, Anchor.of]
  cases text.toList with
  | nil => simp
  | cons c cs =>
    by_cases hc : c = '/'
    · have htaken : ((c :: cs).takeWhile (· == '/')).length =
          (cs.takeWhile (· == '/')).length + 1 := by
        simp [hc]
      rw [htaken]
      -- the number of slashes is not zero, so the anchor is one of the roots
      split
      · simp_all
      · simp [hc]
      · simp [hc]
    · have hslash : (c == '/') = false := by simpa using hc
      simp [hslash, hc]

/-- The slashes of an anchor are parts without a character. -/
theorem steps_anchor_append (anchor : Anchor) (text : String) :
    ∃ count, steps (anchor.text ++ text) = List.replicate count "" ++ steps text := by
  simp only [steps, String.toList_append]
  cases anchor with
  | here => exact ⟨0, rfl⟩
  | root => exact ⟨1, by simp [Anchor.text, Text.splitAt]⟩
  | doubleRoot => exact ⟨2, by simp [Anchor.text, Text.splitAt, List.replicate_succ]⟩

/-- The parts of the text of an absolute path are its names, behind those of its slashes. -/
theorem steps_text {p : Path} (h : p.isAbsolute = true) (hne : p.names ≠ []) :
    ∃ count, steps p.text = List.replicate count "" ++ p.names := by
  obtain ⟨count, hcount⟩ := steps_anchor_append p.anchor (String.intercalate "/" p.names)
  refine ⟨count, ?_⟩
  rw [text_of_isAbsolute h, hcount, steps_intercalate hne p.isPathName_of_mem]

/-- An absolute path is read back from its text. -/
theorem parse_text {p : Path} (h : p.isAbsolute = true) : parse p.text = p := by
  have hanchor : p.anchor ≠ .here := by simpa [isAbsolute] using h
  have hnames : (steps p.text).filter isPathName = p.names := by
    obtain ⟨count, hcount⟩ := steps_anchor_append p.anchor (String.intercalate "/" p.names)
    have hempty : isPathName "" = false := rfl
    rw [text_of_isAbsolute h, hcount, List.filter_append,
      List.filter_replicate_of_neg (by simp [hempty]), List.nil_append]
    exact filter_steps_intercalate p.isPathName_of_mem
  have hstart : Anchor.of p.text.toList = p.anchor := by
    rw [text_of_isAbsolute h, String.toList_append]
    exact anchor_of_text_append hanchor (head?_intercalate_ne p.isPathName_of_mem)
  obtain ⟨anchor, names, hmem⟩ := p
  unfold parse
  congr

/-! ### The directories above a path -/

/-- The root that a path starts at, or nothing at all for one without anchor. -/
def top (p : Path) : Path :=
  p.take 0

/-- Directories that go up from one of them: each is the parent of the one before, the last is the
root, and none comes twice. -/
structure GoesUp (start : Path) (directories : List Path) : Prop where
  starts : directories.head? = some start
  climbs : directories.IsChain fun d above => above = d.parent
  ends : directories.getLast? = some start.top
  nodup : directories.Nodup

theorem take_length (p : Path) : p.take p.names.length = p := by
  obtain ⟨anchor, names, hmem⟩ := p
  simp [take]

theorem ancestors_of_root {p : Path} (h : p.names = []) : p.ancestors = [p] := by
  have htake : p.take 0 = p := by
    simpa [h] using p.take_length
  simp [ancestors, h, htake]

/-- What is above a path that has a name is above its parent, or the path itself. -/
theorem ancestors_cons {p : Path} (h : p.names ≠ []) :
    p.ancestors = p :: p.parent.ancestors := by
  have hlength : p.parent.names.length + 1 = p.names.length := by
    have hpos : 0 < p.names.length := List.length_pos_iff.mpr h
    simp only [parent, take, List.length_take]
    omega
  have htake : ∀ count ∈ List.range p.names.length, p.take count = p.parent.take count := by
    intro count hcount
    have hle : count ≤ p.names.length - 1 := by
      have := List.mem_range.mp hcount
      omega
    simp [take, parent, List.take_take, Nat.min_eq_left hle]
  calc p.ancestors
      = p.take p.names.length :: (List.range p.names.length).reverse.map p.take := by
        rw [ancestors, List.range_succ, List.reverse_append, List.map_append]
        rfl
    _ = p :: (List.range p.names.length).reverse.map p.parent.take := by
        rw [take_length]
        congr 1
        exact List.map_congr_left fun count hcount => htake count (List.mem_reverse.mp hcount)
    _ = p :: p.parent.ancestors := by rw [ancestors, hlength]

theorem exists_take_of_mem_ancestors {p d : Path} (h : d ∈ p.ancestors) :
    ∃ count, d = p.take count := by
  obtain ⟨count, -, rfl⟩ := List.mem_map.mp h
  exact ⟨count, rfl⟩

theorem length_le_of_mem_ancestors {p d : Path} (h : d ∈ p.ancestors) :
    d.names.length ≤ p.names.length := by
  obtain ⟨count, rfl⟩ := exists_take_of_mem_ancestors h
  exact List.length_take_le' count p.names

theorem goesUp_ancestors (p : Path) : GoesUp p p.ancestors := by
  -- by the number of names, one of which is lost with each step up
  induction hn : p.names.length generalizing p with
  | zero =>
    have hnames : p.names = [] := List.length_eq_zero_iff.mp hn
    have htop : p.top = p := by
      simpa [top, hnames] using p.take_length
    rw [ancestors_of_root hnames]
    exact ⟨rfl, List.isChain_singleton p, by rw [htop]; rfl, by simp⟩
  | succ count ih =>
    have hnames : p.names ≠ [] := by
      intro h
      simp [h] at hn
    have hshorter : p.parent.names.length = count := by
      simp [parent, take, hn]
    have hup : GoesUp p.parent p.parent.ancestors := ih p.parent hshorter
    rw [ancestors_cons hnames]
    refine ⟨rfl, ?climbs, ?ends, ?nodup⟩
    case climbs =>
      apply List.IsChain.cons hup.climbs
      intro above habove
      rw [hup.starts] at habove
      exact (Option.some.inj habove).symm
    case ends =>
      have htop : p.parent.top = p.top := by
        simp [top, parent, take]
      rw [List.getLast?_cons, hup.ends, htop]
      rfl
    case nodup =>
      refine List.nodup_cons.mpr ⟨?_, hup.nodup⟩
      intro hmem
      have hle : p.names.length ≤ p.parent.names.length := length_le_of_mem_ancestors hmem
      omega

end Path

/-! ### Anchored paths -/

namespace Machine

theorem isAbsolute_absolute (m : Machine) (p : Path) : (m.absolute p).isAbsolute = true := by
  unfold absolute
  split
  · assumption
  · rfl

/-- An anchored path is absolute. -/
theorem isAbsolute_of_anchored {m : Machine} {text : String} {p : Path}
    (h : m.anchored text = .ok p) : p.isAbsolute = true := by
  unfold anchored at h
  cases he : m.expandHome (.parse text) with
  | error e => simp [he, bind, Except.bind] at h
  | ok q =>
    simp only [he, bind, Except.bind, pure, Except.pure, Except.ok.injEq] at h
    exact h ▸ isAbsolute_absolute m q

theorem anchored_of_isAbsolute {m : Machine} {text : String}
    (h : (Path.parse text).isAbsolute = true) : m.anchored text = .ok (.parse text) := by
  have hhome : m.expandHome (.parse text) = .ok (.parse text) := by
    unfold expandHome
    split
    · next ha _ => simp [Path.isAbsolute, ha] at h
    · rfl
  rw [anchored, hhome]
  show Except.ok (m.absolute (.parse text)) = .ok (.parse text)
  rw [absolute, if_pos h]

/-- The text of an absolute path is anchored as that path. -/
theorem anchored_text {m : Machine} {p : Path} (h : p.isAbsolute = true) :
    m.anchored p.text = .ok p := by
  have hparse : Path.parse p.text = p := Path.parse_text h
  rw [anchored_of_isAbsolute (hparse.symm ▸ h), hparse]

/-- An anchored path is anchored: its text is anchored as that path. -/
theorem anchored_text_of_anchored {m : Machine} {text : String} {p : Path}
    (h : m.anchored text = .ok p) : m.anchored p.text = .ok p :=
  anchored_text (isAbsolute_of_anchored h)

end Machine
end LintBridge
