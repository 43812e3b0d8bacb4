import LintBridge.Proofs.Json.Document

/-!
Where a text stands between quotes, and what can be said of a document that is read there.

A scan that only looks at quotes and backslashes tells the characters of a text that lie in strings
from those outside. In a document the latter are few: brackets, commas, colons, blanks, and what
words and numbers are written with (`Document.wellQuoted`).

A reader that starts inside a string takes the two for each other. What it reads as strings are then
the stretches between the strings, so the names of the objects that it finds hold the few characters
only (`Document.names_of_inside`).
-/

namespace LintBridge.Json

/-! ### The scan -/

/-- Where a character of a text stands: outside of strings, inside one, or behind a backslash. -/
inductive Place where
  | outside
  | inside
  | escaped
deriving DecidableEq, Repr

/-- The place behind a character. -/
def Place.next : Place → Char → Place
  | .outside, c => if c = '"' then .inside else .outside
  | .inside, c => if c = '"' then .outside else if c = '\\' then .escaped else .inside
  | .escaped, _ => .inside

/-- The characters that may stand outside of strings, quotes apart. -/
def isMark (c : Char) : Bool :=
  Text.isBlank c || ['[', ']', '{', '}', ',', ':'].contains c || isBare c

/-- Outside of its strings, a text that starts at `place` has marks and quotes only. -/
def WellQuoted : Place → List Char → Prop
  | _, [] => True
  | place, c :: cs =>
      (place = .outside → c = '"' ∨ isMark c = true) ∧ WellQuoted (place.next c) cs

/-- Every name in a document is made of characters of a class. -/
inductive NamesOf (p : Char → Bool) : Json → Prop where
  | scalar {v : Json} (hs : isScalar v = true) : NamesOf p v
  | arr {items : List Json} (h : ∀ v ∈ items, NamesOf p v) : NamesOf p (.arr items)
  | obj {members : List (String × Json)} (hn : ∀ m ∈ members, ∀ c ∈ m.1.toList, p c = true)
      (hv : ∀ m ∈ members, NamesOf p m.2) : NamesOf p (.obj members)

theorem isMark_of_isBare {c : Char} (h : isBare c = true) : isMark c = true := by
  rw [isMark, h, Bool.or_true]

theorem isMark_of_isBlank {c : Char} (h : Text.isBlank c = true) : isMark c = true := by
  rw [isMark, h, Bool.true_or, Bool.true_or]

theorem isMark_of_isGap {c : Char} (h : isGap c = true) : isMark c = true :=
  isMark_of_isBlank (isBlank_of_isGap h)

/-- A mark neither opens, closes nor escapes anything. -/
theorem isMark_ne {c : Char} (h : isMark c = true) : c ≠ '"' ∧ c ≠ '\\' := by
  constructor <;> rintro rfl <;> revert h <;> decide

/-- Outside and inside of strings a mark leaves the place as it is. -/
theorem Place.next_mark {place : Place} {c : Char} (hc : isMark c = true)
    (hp : place ≠ .escaped := by decide) : place.next c = place := by
  obtain ⟨hq, hb⟩ := isMark_ne hc
  cases place with
  | outside => rw [Place.next, if_neg hq]
  | inside => rw [Place.next, if_neg hq, if_neg hb]
  | escaped => exact absurd rfl hp

theorem wellQuoted_mark {place : Place} {c : Char} (hc : isMark c = true) (cs : List Char)
    (hp : place ≠ .escaped := by decide) :
    WellQuoted place (c :: cs) ↔ WellQuoted place cs := by
  rw [WellQuoted, Place.next_mark hc hp]
  exact and_iff_right fun _ => .inr hc

theorem wellQuoted_marks {place : Place} {marks : List Char}
    (hm : ∀ c ∈ marks, isMark c = true) (cs : List Char) (hp : place ≠ .escaped := by decide) :
    WellQuoted place (marks ++ cs) ↔ WellQuoted place cs := by
  induction marks with
  | nil => rfl
  | cons c marks ih =>
    obtain ⟨hc, hmarks⟩ := List.forall_mem_cons.mp hm
    rw [List.cons_append, wellQuoted_mark hc _ hp, ih hmarks]

theorem wellQuoted_skipGap {place : Place} (cs : List Char)
    (hp : place ≠ .escaped := by decide) :
    WellQuoted place (skipGap cs) ↔ WellQuoted place cs := by
  obtain ⟨gap, hcs, hgap⟩ := exists_gap (rfl : skipGap cs = skipGap cs)
  rw [← wellQuoted_marks (fun c hc => isMark_of_isGap (hgap c hc)) (skipGap cs) hp, ← hcs]

theorem WellQuoted.of_append {place : Place} {cs more : List Char}
    (h : WellQuoted place (cs ++ more)) : WellQuoted place cs := by
  induction cs generalizing place with
  | nil => trivial
  | cons c cs ih => exact ⟨h.1, ih h.2⟩

/-- Whatever place a text has come to, the rest of it is in order from there on. -/
theorem WellQuoted.exists_place {place : Place} {cs more : List Char}
    (h : WellQuoted place (cs ++ more)) : ∃ place', WellQuoted place' more := by
  induction cs generalizing place with
  | nil => exact ⟨place, h⟩
  | cons c cs ih => exact ih h.2

/-- Inside a string a text without quotes and backslashes is passed over. -/
theorem wellQuoted_inside_append {quoted : List Char} (hq : ∀ c ∈ quoted, c ≠ '"' ∧ c ≠ '\\')
    (cs : List Char) : WellQuoted .inside (quoted ++ cs) ↔ WellQuoted .inside cs := by
  induction quoted with
  | nil => rfl
  | cons c quoted ih =>
    obtain ⟨⟨hquote, hback⟩, hrest⟩ := List.forall_mem_cons.mp hq
    rw [List.cons_append, WellQuoted, Place.next, if_neg hquote, if_neg hback, ih hrest]
    exact and_iff_right nofun

/-- So is a backslash with the character behind it. -/
theorem wellQuoted_inside_escape (c : Char) (cs : List Char) :
    WellQuoted .inside ('\\' :: c :: cs) ↔ WellQuoted .inside cs := by
  simp [WellQuoted, Place.next]

/-- A character that is neither a quote nor a mark stands in a string, and so does what follows it
if it is no backslash. -/
theorem WellQuoted.inside_of_not_mark {place : Place} {c : Char} (hq : c ≠ '"') (hb : c ≠ '\\')
    (hm : isMark c = false) {cs : List Char} (h : WellQuoted place (c :: cs)) :
    WellQuoted .inside cs := by
  obtain ⟨hplace, htail⟩ := h
  cases place with
  | outside =>
    rcases hplace rfl with hc | hc
    · exact absurd hc hq
    · rw [hm] at hc
      cases hc
  | inside =>
    rw [Place.next, if_neg hq, if_neg hb] at htail
    exact htail
  | escaped => exact htail

/-! ### A document in its place -/

/-- The escape of a code unit is passed over. -/
theorem wellQuoted_inside_unit {a b c d : Char} {unit : Nat}
    (h : Text.hexValue? [a, b, c, d] = some unit) (cs : List Char) :
    WellQuoted .inside ('\\' :: 'u' :: a :: b :: c :: d :: cs) ↔ WellQuoted .inside cs := by
  have hdigits : ∀ x ∈ [a, b, c, d], x ≠ '"' ∧ x ≠ '\\' := by
    intro x hx
    have hdigit := Text.isHexDigit_of_hexValue? h x hx
    constructor <;> rintro rfl <;> revert hdigit <;> decide
  rw [wellQuoted_inside_escape]
  exact wellQuoted_inside_append hdigits cs

theorem PieceAt.wellQuoted {cs tail : List Char} {p : Piece} (h : PieceAt cs p tail) :
    WellQuoted .inside cs ↔ WellQuoted .inside tail := by
  cases h with
  | plain hq hb hc => exact wellQuoted_inside_append (List.forall_mem_singleton.mpr ⟨hq, hb⟩) tail
  | escape hu hd => exact wellQuoted_inside_escape _ tail
  | unit hx hh => exact wellQuoted_inside_unit hx tail
  | pair hx hh hx' hl => rw [wellQuoted_inside_unit hx, wellQuoted_inside_unit hx']
  | alone hx hh hl => exact wellQuoted_inside_unit hx tail

theorem Body.wellQuoted {cs rest : List Char} {content : Content} (h : Body cs content rest)
    (hr : WellQuoted .outside rest) : WellQuoted .inside cs := by
  induction h with
  | close => exact ⟨nofun, hr⟩
  | piece hp ht ih => exact hp.wellQuoted.mpr (ih hr)

theorem wellQuoted_quote {cs : List Char} :
    WellQuoted .outside ('"' :: cs) ↔ WellQuoted .inside cs :=
  and_iff_right fun _ => .inl rfl

/-- Behind marks, and the mark that was looked for, a text is in order if its rest is. -/
theorem wellQuoted_of_skipGap {place : Place} {c : Char} (hc : isMark c = true)
    {cs rest : List Char} (h : skipGap cs = c :: rest) (hp : place ≠ .escaped := by decide) :
    WellQuoted place cs ↔ WellQuoted place rest := by
  rw [← wellQuoted_skipGap cs hp, h, wellQuoted_mark hc rest hp]

mutual

/-- Outside of its strings a document has marks only. -/
theorem Document.wellQuoted {cs rest : List Char} {v : Json} :
    Document cs v rest → WellQuoted .outside rest → WellQuoted .outside cs
  | .bare h, hr => by
    obtain ⟨c, tail, rfl, hbare, -⟩ := bare?_exists_text h
    exact (wellQuoted_marks (fun x hx => isMark_of_isBare (hbare x hx)) rest).mpr hr
  | .string h, hr => wellQuoted_quote.mpr (h.wellQuoted hr)
  | .emptyArray h, hr => by
    rw [wellQuoted_mark rfl]
    exact (wellQuoted_of_skipGap rfl h).mpr hr
  | .array h, hr => by
    rw [wellQuoted_mark rfl, ← wellQuoted_skipGap]
    exact h.wellQuoted hr
  | .emptyObject h, hr => by
    rw [wellQuoted_mark rfl]
    exact (wellQuoted_of_skipGap rfl h).mpr hr
  | .object h, hr => by
    rw [wellQuoted_mark rfl, ← wellQuoted_skipGap]
    exact h.wellQuoted hr

theorem Items.wellQuoted {cs rest : List Char} {values : List Json} :
    Items cs values rest → WellQuoted .outside rest → WellQuoted .outside cs
  | .last hv hend, hr => hv.wellQuoted ((wellQuoted_of_skipGap rfl hend).mpr hr)
  | .more hv hcomma ht, hr => by
    refine hv.wellQuoted ((wellQuoted_of_skipGap rfl hcomma).mpr ?_)
    rw [← wellQuoted_skipGap]
    exact ht.wellQuoted hr

theorem Members.wellQuoted {cs rest : List Char} {members : List (String × Json)} :
    Members cs members rest → WellQuoted .outside rest → WellQuoted .outside cs
  | .last hm hend, hr => hm.wellQuoted ((wellQuoted_of_skipGap rfl hend).mpr hr)
  | .more hm hcomma ht, hr => by
    refine hm.wellQuoted ((wellQuoted_of_skipGap rfl hcomma).mpr ?_)
    rw [← wellQuoted_skipGap]
    exact ht.wellQuoted hr

theorem Member.wellQuoted {cs rest : List Char} {m : String × Json} :
    Member cs m rest → WellQuoted .outside rest → WellQuoted .outside cs
  | .intro hname hcolon hv, hr => by
    refine wellQuoted_quote.mpr (hname.wellQuoted ?_)
    refine (wellQuoted_of_skipGap rfl hcolon).mpr ?_
    rw [← wellQuoted_skipGap]
    exact hv.wellQuoted hr

end

/-! ### A document inside a string -/

/-- A piece that is read outside of strings is a mark. -/
theorem PieceAt.isMark_shown {cs tail : List Char} {p : Piece} (h : PieceAt cs p tail)
    (hw : WellQuoted .outside cs) : isMark p.shown = true ∧ WellQuoted .outside tail := by
  have hback : ∀ {more : List Char}, ¬ WellQuoted .outside ('\\' :: more) := by
    rintro more ⟨hplace, -⟩
    exact absurd (hplace rfl) (by decide)
  cases h with
  | plain hq hb hc =>
    have hmark := (hw.1 rfl).resolve_left hq
    exact ⟨hmark, (wellQuoted_mark hmark tail).mp hw⟩
  | escape hu hd => exact absurd hw hback
  | unit hx hh => exact absurd hw hback
  | pair hx hh hx' hl => exact absurd hw hback
  | alone hx hh hl => exact absurd hw hback

/-- A string that is read between two strings holds marks only, and ends where the second starts. -/
theorem Body.isMark_text {cs rest : List Char} {content : Content} (h : Body cs content rest)
    (hw : WellQuoted .outside cs) :
    (∀ p ∈ content, isMark p.shown = true) ∧ WellQuoted .inside rest := by
  induction h with
  | close => exact ⟨by simp, wellQuoted_quote.mp hw⟩
  | piece hp ht ih =>
    obtain ⟨hmark, htail⟩ := hp.isMark_shown hw
    obtain ⟨hmarks, hrest⟩ := ih htail
    exact ⟨List.forall_mem_cons.mpr ⟨hmark, hmarks⟩, hrest⟩

theorem wellQuoted_inside_quote {cs : List Char} :
    WellQuoted .inside ('"' :: cs) ↔ WellQuoted .outside cs :=
  and_iff_right nofun

mutual

/-- A document that is read inside a string has marks only for the names of its objects. -/
theorem Document.names_of_inside {cs rest : List Char} {v : Json} :
    Document cs v rest → WellQuoted .inside cs → NamesOf isMark v ∧ WellQuoted .inside rest
  | .bare h, hw => by
    obtain ⟨c, tail, rfl, hbare, -⟩ := bare?_exists_text h
    have hmarks : ∀ x ∈ c :: tail, isMark x = true := fun x hx => isMark_of_isBare (hbare x hx)
    exact ⟨.scalar (bare?_isScalar h), (wellQuoted_marks hmarks rest).mp hw⟩
  | .string h, hw => by
    obtain ⟨-, hrest⟩ := h.isMark_text (wellQuoted_inside_quote.mp hw)
    exact ⟨.scalar (ofContent_isScalar _).1, hrest⟩
  | .emptyArray h, hw => by
    rw [wellQuoted_mark rfl] at hw
    exact ⟨.arr (by simp), (wellQuoted_of_skipGap rfl h).mp hw⟩
  | .array h, hw => by
    rw [wellQuoted_mark rfl, ← wellQuoted_skipGap] at hw
    obtain ⟨hvalues, hrest⟩ := h.names_of_inside hw
    exact ⟨.arr hvalues, hrest⟩
  | .emptyObject h, hw => by
    rw [wellQuoted_mark rfl] at hw
    exact ⟨.obj (by simp) (by simp), (wellQuoted_of_skipGap rfl h).mp hw⟩
  | .object h, hw => by
    rw [wellQuoted_mark rfl, ← wellQuoted_skipGap] at hw
    obtain ⟨hmembers, hrest⟩ := h.names_of_inside hw
    exact ⟨.obj (fun m hm => (hmembers m hm).1) fun m hm => (hmembers m hm).2, hrest⟩

theorem Items.names_of_inside {cs rest : List Char} {values : List Json} :
    Items cs values rest → WellQuoted .inside cs →
      (∀ v ∈ values, NamesOf isMark v) ∧ WellQuoted .inside rest
  | .last hv hend, hw => by
    obtain ⟨hnames, hmid⟩ := hv.names_of_inside hw
    exact ⟨by simpa using hnames, (wellQuoted_of_skipGap rfl hend).mp hmid⟩
  | .more hv hcomma ht, hw => by
    obtain ⟨hnames, hmid⟩ := hv.names_of_inside hw
    have hnext := (wellQuoted_of_skipGap rfl hcomma).mp hmid
    obtain ⟨hvalues, hrest⟩ := ht.names_of_inside ((wellQuoted_skipGap _).mpr hnext)
    exact ⟨List.forall_mem_cons.mpr ⟨hnames, hvalues⟩, hrest⟩

theorem Members.names_of_inside {cs rest : List Char} {members : List (String × Json)} :
    Members cs members rest → WellQuoted .inside cs →
      (∀ m ∈ members, (∀ c ∈ m.1.toList, isMark c = true) ∧ NamesOf isMark m.2) ∧
        WellQuoted .inside rest
  | .last hm hend, hw => by
    obtain ⟨hnames, hmid⟩ := hm.names_of_inside hw
    exact ⟨List.forall_mem_singleton.mpr hnames,
      (wellQuoted_of_skipGap rfl hend).mp hmid⟩
  | .more hm hcomma ht, hw => by
    obtain ⟨hnames, hmid⟩ := hm.names_of_inside hw
    have hnext := (wellQuoted_of_skipGap rfl hcomma).mp hmid
    obtain ⟨hmembers, hrest⟩ := ht.names_of_inside ((wellQuoted_skipGap _).mpr hnext)
    exact ⟨List.forall_mem_cons.mpr ⟨hnames, hmembers⟩, hrest⟩

theorem Member.names_of_inside {cs rest : List Char} {m : String × Json} :
    Member cs m rest → WellQuoted .inside cs →
      ((∀ c ∈ m.1.toList, isMark c = true) ∧ NamesOf isMark m.2) ∧ WellQuoted .inside rest
  | .intro hname hcolon hv, hw => by
    obtain ⟨hmarks, hafter⟩ := hname.isMark_text (wellQuoted_inside_quote.mp hw)
    have hvalue := (wellQuoted_of_skipGap rfl hcolon).mp hafter
    obtain ⟨hnames, hrest⟩ := hv.names_of_inside ((wellQuoted_skipGap _).mpr hvalue)
    refine ⟨⟨?_, hnames⟩, hrest⟩
    simpa [Content.text] using hmarks

end

end LintBridge.Json
