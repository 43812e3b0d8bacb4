import LintBridge.CommandLine.Setup
import LintBridge.Proofs.Terminal.Markup
import LintBridge.Proofs.Terminal.Table

/-!
What the picture of a verification shows of it.

All texts of a picture are markup, also those that come from the user and from the linter. If none
of them holds a tag or a backslash in front of a bracket, and only then, all are taken as they are
given; on a screen that is wide enough the picture then shows them character for character and
nothing else but its frame (`picture_shows_texts`). A tag is lost, and a closing tag without an open
one is an error (`bracketed_directory_is_lost`).
-/

namespace LintBridge.CommandLine

open Terminal
open Ran (except_bind_eq_ok)
open Text (Printable)

variable {screen : Screen} {v : Verification} {path : String}

/-! ### Texts in place of markup -/

/-- The title of a picture, as it is given. -/
def titleText (v : Verification) (path : String) : String :=
  v.checker ++ " verification for " ++ path

/-- What a status is shown as. -/
def statusText (ok : Bool) : String :=
  if ok then "ok" else "missing"

/-- A column of texts. -/
def textColumn (name : String) (overflow : Overflow) (texts : List String) : Column :=
  ⟨Cell.plain name, texts.map Cell.plain, overflow⟩

/-- The columns of a picture, with the texts as they are given. -/
def textColumns (v : Verification) : List Column :=
  [textColumn "Check" .ellipsis (v.findings.map (·.label)),
    textColumn "Status" .ellipsis (v.findings.map fun f => statusText f.ok),
    textColumn "Details" .fold (v.findings.map (·.message))]

/-- The texts of a finding, in the order of the columns. -/
def rowTexts (f : Finding) : List (List Char) :=
  [f.label.toList, (statusText f.ok).toList, f.message.toList]

theorem exists_of_mem_textColumns {column : Column} (h : column ∈ textColumns v) :
    ∃ name overflow text, column = textColumn name overflow (v.findings.map text) ∧
      Printable name.toList ∧ ∀ f, (text f).toList ∈ rowTexts f := by
  simp only [textColumns, List.mem_cons, List.not_mem_nil, or_false] at h
  rcases h with rfl | rfl | rfl
  · exact ⟨_, _, _, rfl, by decide, fun f => by simp [rowTexts]⟩
  · exact ⟨_, _, _, rfl, by decide, fun f => by simp [rowTexts]⟩
  · exact ⟨_, _, _, rfl, by decide, fun f => by simp [rowTexts]⟩

theorem ofMarkup_statusMarkup (ok : Bool) :
    Cell.ofMarkup (statusMarkup ok) = .ok (Cell.plain (statusText ok)) := by
  cases ok <;> decide +kernel

theorem mapM_eq_ok_map_iff {α β ε : Type} {f : α → Except ε β} {g : α → β} {l : List α} :
    l.mapM f = .ok (l.map g) ↔ ∀ a ∈ l, f a = .ok (g a) := by
  induction l with
  | nil => simp [pure, Except.pure]
  | cons a rest ih =>
    rw [List.mapM_cons, List.map_cons, List.forall_mem_cons, ← ih]
    constructor
    · intro h
      obtain ⟨b, hb, h⟩ := except_bind_eq_ok.mp h
      obtain ⟨bs, hbs, h⟩ := except_bind_eq_ok.mp h
      obtain ⟨rfl, rfl⟩ := List.cons.inj (Except.ok.inj h)
      exact ⟨hb, hbs⟩
    · rintro ⟨ha, hrest⟩
      exact except_bind_eq_ok.mpr ⟨_, ha, except_bind_eq_ok.mpr ⟨_, hrest, rfl⟩⟩

theorem column_eq_ok_iff {α : Type} {markup text : α → String} {xs : List α} (name : String)
    (overflow : Overflow) :
    column name overflow (xs.map markup) = .ok (textColumn name overflow (xs.map text)) ↔
      ∀ x ∈ xs, Cell.ofMarkup (markup x) = .ok (Cell.plain (text x)) := by
  have hcells : (xs.map markup).mapM Cell.ofMarkup = .ok ((xs.map text).map Cell.plain) ↔
      ∀ x ∈ xs, Cell.ofMarkup (markup x) = .ok (Cell.plain (text x)) := by
    rw [List.mapM_map, List.map_map]
    exact mapM_eq_ok_map_iff
  rw [← hcells]
  constructor
  · intro h
    obtain ⟨cells, hread, hcolumn⟩ := except_bind_eq_ok.mp h
    obtain ⟨-, rfl, -⟩ := Column.mk.inj (Except.ok.inj hcolumn)
    exact hread
  · intro h
    exact except_bind_eq_ok.mpr ⟨_, h, rfl⟩

/-- All texts of a picture are taken as they are given. -/
structure ReadsTexts (v : Verification) (path : String) : Prop where
  labels : column "Check" .ellipsis (v.findings.map (·.label)) =
    .ok (textColumn "Check" .ellipsis (v.findings.map (·.label)))
  messages : column "Details" .fold (v.findings.map (·.message)) =
    .ok (textColumn "Details" .fold (v.findings.map (·.message)))
  title : Cell.ofMarkup (titleText v path) = .ok (Cell.plain (titleText v path))

/-- No text of a picture holds a tag or a backslash in front of a bracket. -/
structure Unmarked (v : Verification) (path : String) : Prop where
  labels : ∀ f ∈ v.findings, IsLiteral f.label.toList
  messages : ∀ f ∈ v.findings, IsLiteral f.message.toList
  title : IsLiteral (titleText v path).toList

theorem ofMarkup_eq_plain_iff {text : String} (h : Verbatim text.toList) :
    Cell.ofMarkup text = .ok (Cell.plain text) ↔ IsLiteral text.toList := by
  have hdropped : ∀ c ∈ text.toList, isDropped c = false := fun c hc =>
    (isVerbatim_iff.mp (h c hc)).1
  exact render_eq_plain_iff.trans (and_iff_left hdropped)

theorem readsTexts_iff (hlabels : ∀ f ∈ v.findings, Printable f.label.toList)
    (hmessages : ∀ f ∈ v.findings, Printable f.message.toList)
    (htitle : Verbatim (titleText v path).toList) : ReadsTexts v path ↔ Unmarked v path := by
  have hlabel {f : Finding} (hf : f ∈ v.findings) :=
    ofMarkup_eq_plain_iff (verbatim_of_printable (hlabels f hf))
  have hmessage {f : Finding} (hf : f ∈ v.findings) :=
    ofMarkup_eq_plain_iff (verbatim_of_printable (hmessages f hf))
  constructor
  · intro h
    exact ⟨fun f hf => (hlabel hf).mp ((column_eq_ok_iff _ _).mp h.labels f hf),
      fun f hf => (hmessage hf).mp ((column_eq_ok_iff _ _).mp h.messages f hf),
      (ofMarkup_eq_plain_iff htitle).mp h.title⟩
  · intro h
    exact ⟨(column_eq_ok_iff _ _).mpr fun f hf => (hlabel hf).mpr (h.labels f hf),
      (column_eq_ok_iff _ _).mpr fun f hf => (hmessage hf).mpr (h.messages f hf),
      (ofMarkup_eq_plain_iff htitle).mpr h.title⟩

/-- Where all texts are taken as they are given, the picture is drawn of them. -/
theorem picture_of_readsTexts (h : ReadsTexts v path) (screen : Screen) :
    picture screen v path =
      .ok (joinLines (tableLines screen (Cell.plain (titleText v path)) (textColumns v) ++
        panelLines screen.width (summary v.ok).toList)) := by
  have hstatuses : column "Status" .ellipsis (v.findings.map fun f => statusMarkup f.ok) =
      .ok (textColumn "Status" .ellipsis (v.findings.map fun f => statusText f.ok)) := by
    rw [column_eq_ok_iff]
    intro f _
    exact ofMarkup_statusMarkup f.ok
  have hstain : tableStain? screen (Cell.plain (titleText v path)) (textColumns v) = none := by
    refine tableStain?_of_unstained rfl fun column hcolumn cell hcell => ?_
    obtain ⟨name, overflow, text, rfl, -, -⟩ := exists_of_mem_textColumns hcolumn
    obtain ⟨shown, -, rfl⟩ := List.mem_map.mp hcell
    rfl
  refine except_bind_eq_ok.mpr ⟨_, h.labels, except_bind_eq_ok.mpr ⟨_, hstatuses,
    except_bind_eq_ok.mpr ⟨_, h.messages, except_bind_eq_ok.mpr ⟨_, h.title, ?_⟩⟩⟩⟩
  simp only [textColumns] at hstain
  simp only [hstain]
  rfl

/-! ### The picture -/

/-- A screen on which no text of a picture is folded. -/
structure WideEnough (screen : Screen) (v : Verification) (path : String) : Prop where
  title : TitleFits screen (titleText v path).toList
  columns : ((textColumns v).map Column.width).sum + 4 ≤ screen.width

/-- All texts of a picture. -/
def pictureTexts (v : Verification) (path : String) : List (List Char) :=
  (titleText v path).toList :: (summary v.ok).toList :: (textColumns v).map (·.header.text) ++
    v.findings.flatMap rowTexts

/-- A drawn picture shows its texts as they are given: the title on its first line, the texts of
each finding on a line of their own, in the order of the findings, and nothing else but its frame.
The lines of the table are as wide as the screen. -/
structure ShowsTexts (screen : Screen) (v : Verification) (path text : String) : Prop where
  layout : ∃ title header rows,
    Text.lines text.toList =
      [title, blankLine screen.width, header, rule screen.width] ++ rows ++
        [blankLine screen.width] ++ panelLines screen.width (summary v.ok).toList ++ [[]] ∧
    (titleText v path).toList <:+: title ∧
    List.Forall₂ (fun f row => InOrder (rowTexts f) row) v.findings rows ∧
    ∀ row ∈ header :: rows, width row = screen.width
  only : ∀ c ∈ text.toList, c = '\n' ∨ c ∈ frame ∨ ∃ shown ∈ pictureTexts v path, c ∈ shown

theorem printable_rowTexts {f : Finding} (hlabel : Printable f.label.toList)
    (hmessage : Printable f.message.toList) : ∀ text ∈ rowTexts f, Printable text := by
  have hstatus : Printable (statusText f.ok).toList := by cases f.ok <;> decide
  simp [rowTexts, hlabel, hstatus, hmessage]

theorem printable_textColumns (h : ∀ f ∈ v.findings, ∀ text ∈ rowTexts f, Printable text)
    {column : Column} (hcolumn : column ∈ textColumns v) :
    ∀ cell ∈ column.header :: column.cells, Printable cell.text := by
  obtain ⟨name, overflow, text, rfl, hname, htext⟩ := exists_of_mem_textColumns hcolumn
  intro cell hcell
  rcases List.mem_cons.mp hcell with rfl | hcell
  · exact hname
  · obtain ⟨shown, hshown, rfl⟩ := List.mem_map.mp hcell
    obtain ⟨f, hf, rfl⟩ := List.mem_map.mp hshown
    exact h f hf _ (htext f)

theorem feed_not_mem_pictureTexts (h : ∀ f ∈ v.findings, ∀ text ∈ rowTexts f, Printable text)
    (htitle : Verbatim (titleText v path).toList) : ∀ text ∈ pictureTexts v path, '\n' ∉ text := by
  have hfeed {text : List Char} (htext : Printable text) : '\n' ∉ text :=
    (verbatim_of_printable htext).not_mem_feed
  intro text htext
  simp only [pictureTexts, List.cons_append, List.mem_cons, List.mem_append, List.mem_map,
    List.mem_flatMap] at htext
  rcases htext with rfl | rfl | ⟨column, hcolumn, rfl⟩ | ⟨f, hf, htext⟩
  · exact htitle.not_mem_feed
  · cases v.ok <;> decide
  · exact hfeed (printable_textColumns h hcolumn _ List.mem_cons_self)
  · exact hfeed (h f hf text htext)

theorem hasRoom_textColumns (h : ∀ f ∈ v.findings, ∀ text ∈ rowTexts f, Printable text)
    (hwide : WideEnough screen v path) :
    HasRoom screen.width v.findings.length (textColumns v) := by
  refine ⟨List.cons_ne_nil _ _, hwide.columns, ?_, fun column hcolumn =>
    printable_textColumns h hcolumn⟩
  intro column hcolumn
  obtain ⟨name, overflow, text, rfl, -, -⟩ := exists_of_mem_textColumns hcolumn
  rw [textColumn, List.length_map, List.length_map]

/-- The rows of a table of texts, by the findings. -/
theorem map_pickedLine_eq (total : Nat) (v : Verification) :
    ((List.range v.findings.length).map fun i => pickedLine total (textColumns v) (cellAt i)) =
      v.findings.map fun f => rowLine (columnWidths total (textColumns v)) (rowTexts f) := by
  apply List.ext_getElem
  · rw [List.length_map, List.length_range, List.length_map]
  · intro i hleft hright
    have hbound : i < v.findings.length := by rwa [List.length_map] at hright
    have hget : v.findings[i]? = some v.findings[i] := List.getElem?_eq_getElem hbound
    have htexts : (textColumns v).map (fun column => (cellAt i column).text) =
        rowTexts v.findings[i] := by
      simp [textColumns, textColumn, rowTexts, cellAt, hget, Cell.plain]
    rw [List.getElem_map, List.getElem_map, List.getElem_range, pickedLine, htexts]

/-- The lines of a picture that is drawn of its texts hold nothing but these and the frame. -/
theorem mem_of_mem_drawn {title line : List Char} {width : Nat} {sizes : List Nat} {c : Char}
    (htitle : ∀ c ∈ title, c = ' ' ∨ c ∈ (titleText v path).toList)
    (hline : line ∈ [title, blankLine width, rowLine sizes ((textColumns v).map (·.header.text)),
      rule width] ++ (v.findings.map fun f => rowLine sizes (rowTexts f)) ++ [blankLine width] ++
      panelLines width (summary v.ok).toList) (hc : c ∈ line) :
    c ∈ frame ∨ ∃ text ∈ pictureTexts v path, c ∈ text := by
  have hspace : ' ' ∈ frame := List.mem_cons_self
  have hblank (hc : c ∈ blankLine width) : c ∈ frame := List.eq_of_mem_replicate hc ▸ hspace
  have hrow {texts : List (List Char)} (hc : c ∈ rowLine sizes texts)
      (htexts : ∀ text ∈ texts, text ∈ pictureTexts v path) :
      c ∈ frame ∨ ∃ text ∈ pictureTexts v path, c ∈ text := by
    rcases mem_of_mem_rowLine hc with rfl | ⟨text, htext, hmem⟩
    · exact .inl hspace
    · exact .inr ⟨text, htexts text htext, hmem⟩
  simp only [List.mem_append, List.mem_cons, List.not_mem_nil, or_false, List.mem_map] at hline
  rcases hline with (((rfl | rfl | rfl | rfl) | ⟨f, hf, rfl⟩) | rfl) | hpanel
  · rcases htitle c hc with rfl | hmem
    · exact .inl hspace
    · exact .inr ⟨_, List.mem_cons_self, hmem⟩
  · exact .inl (hblank hc)
  · refine hrow hc fun text htext => ?_
    exact List.mem_append_left _ (List.mem_cons_of_mem _ (List.mem_cons_of_mem _ htext))
  · exact .inl (mem_frame_of_mem_rule hc)
  · refine hrow hc fun text htext => ?_
    exact List.mem_append_right _ (List.mem_flatMap.mpr ⟨f, hf, htext⟩)
  · exact .inl (hblank hc)
  · rcases mem_of_mem_panelLines hpanel hc with hframe | hmem
    · exact .inl hframe
    · exact .inr ⟨_, List.mem_cons_of_mem _ List.mem_cons_self, hmem⟩

/-- A picture that is drawn of its texts shows them, on a screen that is wide enough. -/
theorem showsTexts_of_readsTexts
    (hprintable : ∀ f ∈ v.findings, ∀ text ∈ rowTexts f, Printable text)
    (hwide : WideEnough screen v path) (hreads : ReadsTexts v path) :
    ∃ text, picture screen v path = .ok text ∧ ShowsTexts screen v path text := by
  have hroom := hasRoom_textColumns hprintable hwide
  have hpicture := picture_of_readsTexts hreads screen
  have hfits : TitleFits screen (Cell.plain (titleText v path)).text := hwide.title
  obtain ⟨title, hinfix, htitle, hlines⟩ := tableLines_of_hasRoom hroom hfits
  rw [map_pickedLine_eq] at hlines
  rw [hlines] at hpicture
  refine ⟨_, hpicture, ⟨title, _, _, lines_joinLines fun line hline hfeed => ?feed, hinfix, ?rows,
    ?widths⟩, fun c hc => ?only⟩
  case feed =>
    rcases mem_of_mem_drawn htitle hline hfeed with hframe | ⟨text, htext, hmem⟩
    · exact absurd hframe (by decide)
    · exact feed_not_mem_pictureTexts hprintable hwide.title.verbatim text htext hmem
  case rows =>
    rw [List.forall₂_map_right_iff, List.forall₂_same]
    intro f _
    exact inOrder_rowLine (length_columnWidths screen.width (textColumns v))
  case widths =>
    intro row hrow
    rcases List.mem_cons.mp hrow with rfl | hrow
    · exact width_pickedLine hroom hroom.picks_header
    · rw [← map_pickedLine_eq] at hrow
      obtain ⟨i, hi, rfl⟩ := List.mem_map.mp hrow
      exact width_pickedLine hroom (hroom.picks_cellAt (List.mem_range.mp hi))
  case only =>
    rw [toList_joinLines] at hc
    obtain ⟨line, hline, hmem⟩ := List.mem_flatMap.mp hc
    rcases List.mem_append.mp hmem with hmem | hfeed
    · exact .inr (mem_of_mem_drawn htitle hline hmem)
    · exact .inl (List.mem_singleton.mp hfeed)

/-- The texts of a picture are taken as they are given exactly if none of them holds a tag or a
backslash in front of a bracket. Then the picture is drawn, and shows them. -/
theorem picture_shows_texts (hlabels : ∀ f ∈ v.findings, Printable f.label.toList)
    (hmessages : ∀ f ∈ v.findings, Printable f.message.toList) (hwide : WideEnough screen v path) :
    (ReadsTexts v path ↔ Unmarked v path) ∧
      (Unmarked v path →
        ∃ text, picture screen v path = .ok text ∧ ShowsTexts screen v path text) := by
  have hreads := readsTexts_iff hlabels hmessages hwide.title.verbatim
  have hprintable : ∀ f ∈ v.findings, ∀ text ∈ rowTexts f, Printable text := fun f hf =>
    printable_rowTexts (hlabels f hf) (hmessages f hf)
  exact ⟨hreads, fun hunmarked => showsTexts_of_readsTexts hprintable hwide (hreads.mpr hunmarked)⟩

/-- A verification whose texts have brackets that open no tag. -/
def withBrackets : Verification :=
  ⟨"b[", [⟨"a]", "[1] [A]", true⟩, ⟨"[]", "[\\", false⟩]⟩

theorem picture_shows_texts_of_bracketed :
    ∃ text, picture ⟨60, false⟩ withBrackets "/[0]" = .ok text ∧
      ShowsTexts ⟨60, false⟩ withBrackets "/[0]" text := by
  have htitle : TitleFits ⟨60, false⟩ (titleText withBrackets "/[0]").toList :=
    titleFits_of_ascii (by decide) (by decide) (by decide)
  have hwide : WideEnough ⟨60, false⟩ withBrackets "/[0]" := ⟨htitle, by decide +kernel⟩
  obtain ⟨hreads, hshows⟩ := picture_shows_texts (by decide) (by decide) hwide
  exact hshows (hreads.mp ⟨by decide +kernel, by decide +kernel, by decide +kernel⟩)

/-- The name of a directory between brackets is lost from the title, so that the picture of a file
in it is that of another path; and a message that closes a tag stops the picture. -/
theorem bracketed_directory_is_lost :
    (∃ text, picture ⟨60, false⟩ ⟨"biome", []⟩ "/app/[id]/page.tsx" = .ok text ∧
        '[' ∉ text.toList) ∧
      picture ⟨60, false⟩ ⟨"biome", [⟨"version", "[/]", false⟩]⟩ "/app" =
        .error (.nothingOpen 0) := by
  have htitle : Cell.ofMarkup (titleText ⟨"biome", []⟩ "/app/[id]/page.tsx") =
      .ok (Cell.plain (titleText ⟨"biome", []⟩ "/app//page.tsx")) := by
    decide +kernel
  have hreads : ReadsTexts ⟨"biome", []⟩ "/app//page.tsx" := ⟨rfl, rfl, by decide +kernel⟩
  have hsame : picture ⟨60, false⟩ ⟨"biome", []⟩ "/app/[id]/page.tsx" =
      picture ⟨60, false⟩ ⟨"biome", []⟩ "/app//page.tsx" := by
    have htitles := htitle.trans hreads.title.symm
    unfold titleText at htitles
    unfold picture
    rw [htitles]
  have hfits : TitleFits ⟨60, false⟩ (titleText ⟨"biome", []⟩ "/app//page.tsx").toList :=
    titleFits_of_ascii (by decide) (by decide) (by decide)
  refine ⟨?_, by decide +kernel⟩
  obtain ⟨text, htext, hshows⟩ :=
    showsTexts_of_readsTexts (by decide) ⟨hfits, by decide +kernel⟩ hreads
  refine ⟨text, hsame.trans htext, fun hmem => ?_⟩
  rcases hshows.only _ hmem with hfeed | hframe | ⟨shown, hshown, hbracket⟩
  · exact absurd hfeed (by decide)
  · exact absurd hframe (by decide)
  · revert shown
    decide

end LintBridge.CommandLine
