import LintBridge.CommandLine.Run
import LintBridge.Proofs.Decimal.Digits
import LintBridge.Proofs.Linter.Readiness
import LintBridge.Proofs.Report.Position

/-!
What the entry of a problem shows.

An entry is a line in which escape sequences for terminals are left out. No sequence reaches over a
colon or a blank (`dropSequences_append_cut`), so whatever a file's name and a message hold, the
place and the severity between them stand as they are (`entry_eq`).

The places are those of the file's text with unified line ends. Up to the first carriage return
these are the places of its bytes (`entries_tell_places`); behind one they need not be
(`returns_shift_places`).
-/

namespace LintBridge.CommandLine

open Terminal Text

/-! ### Escape sequences -/

/-- A text without its escape sequences for terminals. -/
def shown (text : String) : String :=
  String.ofList (dropSequences false text.toList)

/-- Whether a character is none that a sequence holds or goes on with. -/
def isCut (c : Char) : Bool :=
  !(c.isAlpha || c.isDigit || [';', '?', '\x1b', '['].contains c)

/-- A character that may stand between the start of a sequence and the letter that ends it. -/
def isParameter (c : Char) : Bool :=
  c.isDigit || c == ';' || c == '?'

theorem isCut_iff {c : Char} : isCut c = true ↔
    c.isAlpha = false ∧ isParameter c = false ∧ c ≠ '\x1b' ∧ c ≠ '[' := by
  simp [isCut, isParameter, and_assoc]

/-- Whether a text carries a sequence on does not depend on what stands from a cut on. -/
theorem carriesOn_append {c : Char} (hc : isCut c = true) (cs rest : List Char) :
    ((cs ++ c :: rest).dropWhile isParameter).head?.any Char.isAlpha =
      (cs.dropWhile isParameter).head?.any Char.isAlpha := by
  obtain ⟨halpha, hparameter, -, -⟩ := isCut_iff.mp hc
  rw [List.dropWhile_append]
  split
  · next hempty =>
    rw [List.isEmpty_iff.mp hempty, List.dropWhile_cons_of_neg (by simp [hparameter])]
    simp [halpha]
  · next hmore =>
    obtain ⟨d, more, hd⟩ := List.exists_cons_of_ne_nil fun h => hmore (List.isEmpty_iff.mpr h)
    rw [hd]
    rfl

theorem any_of_carriesOn {cs : List Char}
    (h : (cs.dropWhile isParameter).head?.any Char.isAlpha = true) :
    cs.any Char.isAlpha = true := by
  obtain ⟨c, hc, halpha⟩ := (Option.any_eq_true _ _).mp h
  exact List.any_eq_true.mpr ⟨c, (List.dropWhile_sublist _).mem (List.mem_of_mem_head? hc), halpha⟩

theorem dropSequences_cons {c : Char} (hc : c ≠ '\x1b') (rest : List Char) :
    dropSequences false (c :: rest) = c :: dropSequences false rest := by
  rw [dropSequences]
  rintro tail rfl
  exact absurd rfl hc

/-- No sequence reaches over a cut. -/
theorem dropSequences_append_cut {c : Char} (hc : isCut c = true) (inside : Bool)
    (cs rest : List Char) (hinside : inside = true → cs.any Char.isAlpha = true) :
    dropSequences inside (cs ++ c :: rest) =
      dropSequences inside cs ++ c :: dropSequences false rest := by
  obtain ⟨-, -, hescape, hbracket⟩ := isCut_iff.mp hc
  fun_induction dropSequences inside cs with
  | case1 inside =>
    cases inside with
    | true => simp at hinside
    | false => exact dropSequences_cons hescape rest
  | case2 d cs ih =>
    refine ih fun hd => ?_
    have hany := hinside rfl
    rw [List.any_cons, Bool.or_eq_true] at hany
    exact hany.resolve_left (by simpa using hd)
  | case3 cs hends ih =>
    have hgoes : ((cs ++ c :: rest).dropWhile isParameter).head?.any Char.isAlpha = true :=
      (carriesOn_append hc cs rest).trans hends
    rw [List.cons_append, List.cons_append, dropSequences]
    exact (if_pos hgoes).trans (ih fun _ => any_of_carriesOn hends)
  | case4 cs hends ih =>
    have hstays : ¬((cs ++ c :: rest).dropWhile isParameter).head?.any Char.isAlpha = true :=
      fun h => hends ((carriesOn_append hc cs rest).symm.trans h)
    rw [List.cons_append, List.cons_append, dropSequences]
    exact (if_neg hstays).trans (by rw [ih (by simp)]; rfl)
  | case5 d cs hnone ih =>
    rw [List.cons_append, dropSequences, ih (by simp)]
    · rfl
    · rintro tail rfl htail
      cases cs with
      | nil => exact hbracket (List.cons.inj htail).1
      | cons e cs =>
        obtain ⟨rfl, -⟩ := List.cons.inj htail
        exact hnone cs rfl rfl

/-- A text without the character that starts sequences is shown as it is. -/
theorem dropSequences_of_not_mem {cs : List Char} (h : '\x1b' ∉ cs) :
    dropSequences false cs = cs := by
  induction cs with
  | nil => rfl
  | cons c cs ih =>
    rw [dropSequences_cons fun hc => h (hc ▸ List.mem_cons_self),
      ih fun hmem => h (List.mem_cons_of_mem c hmem)]

/-- A text with a cut in it is shown in its two parts. -/
theorem shown_append_cut {c : Char} (hc : isCut c = true) (cs rest : List Char) :
    dropSequences false (cs ++ c :: rest) =
      dropSequences false cs ++ c :: dropSequences false rest :=
  dropSequences_append_cut hc false cs rest (by simp)

/-- The digits of a number are shown as they are. -/
theorem dropSequences_repr (n : Nat) :
    dropSequences false (toString n).toList = (toString n).toList := by
  refine dropSequences_of_not_mem fun h => ?_
  rw [Nat.toString_eq_repr, Nat.toList_repr] at h
  exact absurd (Decimal.isDigit_of_mem_toDigits _ h) (by decide)

theorem dropSequences_name (severity : Severity) :
    dropSequences false severity.name.toList = severity.name.toList :=
  dropSequences_of_not_mem (by cases severity <;> decide)

/-! ### Entries -/

/-- The line that is printed for a diagnostic at a place. -/
def entryAt (emoji : Bool) (filename : String) (place : LineColumn) (d : Diagnostic) : String :=
  let severity := Severity.ofLabel d.label
  shown (optional emoji (entryEmoji severity) ++ filename) ++ ":" ++ toString place.line ++ ":" ++
    toString place.column ++ ": " ++ severity.name ++ " " ++
    shown (d.description ++ "(" ++ d.category ++ ")") ++ "\n"

/-- The entry of a diagnostic shows the place of the first byte of its span. -/
theorem entry_eq (emoji : Bool) (filename : String) (source : List Char) (owner : Owner)
    (d : Diagnostic) :
    entry emoji filename source (.ofDiagnostic owner d) =
      entryAt emoji filename (.ofByte source d.span.start) d := by
  have hcolon : isCut ':' = true := by decide
  have hblank : isCut ' ' = true := by decide
  rw [← String.toList_inj]
  simp only [entry, entryAt, shown, Problem.start_ofDiagnostic, Problem.severity_ofDiagnostic,
    Problem.message_ofDiagnostic, String.toList_append, String.toList_ofList, String.reduceToList,
    List.append_assoc, List.cons_append, List.nil_append]
  rw [← List.append_assoc, shown_append_cut hcolon, shown_append_cut hcolon,
    shown_append_cut hcolon, dropSequences_cons (by decide), shown_append_cut hblank,
    dropSequences_repr, dropSequences_repr, dropSequences_name]
  simp

/-- A file that is a text in UTF-8 is read with unified line ends. -/
theorem sourceOf_eq {m : Machine} {filename : String} {cs : List Char}
    (h : m.read? (.parse filename) = .ok (some (Utf8.encode cs))) :
    sourceOf m filename = unifyNewlines cs := by
  simp [sourceOf, h, Utf8.decode_encode]

/-- The entries of a report, each with the place of its diagnostic in the file. -/
theorem entries_eq (m : Machine) (emoji : Bool) (filename : String) (owner : Owner) (r : Report) :
    entries m emoji ⟨filename, r.problems owner⟩ =
      String.join (r.diagnostics.map fun d =>
        entryAt emoji filename (.ofByte (sourceOf m filename) d.span.start) d) := by
  simp [entries, Report.problems, Function.comp_def, entry_eq]

/-- The entries of a report show the places of the file's text with unified line ends. Where no
carriage return stands before the diagnostic, these are the places of the file's bytes. -/
theorem entries_tell_places (m : Machine) (emoji : Bool) (filename : String) (cs : List Char)
    (owner : Owner) (r : Report)
    (hread : m.read? (.parse filename) = .ok (some (Utf8.encode cs))) :
    entries m emoji ⟨filename, r.problems owner⟩ =
        String.join (r.diagnostics.map fun d =>
          entryAt emoji filename (.ofByte (unifyNewlines cs) d.span.start) d) ∧
      ∀ d ∈ r.diagnostics, 0x0D ∉ (Utf8.encode cs).take d.span.start →
        LineColumn.ofByte (unifyNewlines cs) d.span.start = .ofByte cs d.span.start :=
  ⟨sourceOf_eq hread ▸ entries_eq m emoji filename owner r,
    fun _ _ hreturn => LineColumn.ofByte_congr (take_encode_unifyNewlines hreturn)⟩

/-- The sample of a project, with a script in it. -/
def sampleWith (cs : List Char) : Machine :=
  Linter.sample.put ["work", "app.js"] (.file (Utf8.encode cs))

/-- A report with an error about one byte. -/
def reportAt (start : Nat) : Report :=
  ⟨[⟨"lint", "error", "Unused.", ⟨start, start + 1, Nat.le_succ start⟩⟩]⟩

/-- On a line behind a letter of two bytes. -/
theorem entries_tell_places_behind_letter :
    entries (sampleWith "é\néx".toList) false
        ⟨"/work/app.js", (reportAt 5).problems ⟨"biome", none, none⟩⟩ =
          "/work/app.js:2:2: error Unused.(lint)\n" ∧
      LineColumn.ofByte "é\néx".toList 5 = ⟨2, 2⟩ := by
  have hplaces := entries_tell_places (sampleWith "é\néx".toList) false "/work/app.js"
    "é\néx".toList ⟨"biome", none, none⟩ (reportAt 5) (by decide +kernel)
  have hbytes : LineColumn.ofByte "é\néx".toList 5 = ⟨2, 2⟩ := by decide +kernel
  refine ⟨hplaces.1.trans ?_, hbytes⟩
  have hunified := hplaces.2 _ List.mem_cons_self (by decide +kernel)
  simp only [reportAt, List.map_cons, List.map_nil] at hunified ⊢
  rw [hunified, hbytes]
  decide +kernel

/-- Behind a line that ends in a carriage return and a line feed, the entry shows the second column
for the first byte of the line: the returns that were left out are not counted. -/
theorem returns_shift_places :
    (sampleWith "a\r\nb".toList).read? (.parse "/work/app.js") =
        .ok (some (Utf8.encode "a\r\nb".toList)) ∧
      entries (sampleWith "a\r\nb".toList) false
        ⟨"/work/app.js", (reportAt 3).problems ⟨"biome", none, none⟩⟩ =
          "/work/app.js:2:2: error Unused.(lint)\n" ∧
      LineColumn.ofByte "a\r\nb".toList 3 = ⟨2, 1⟩ := by
  decide +kernel

end LintBridge.CommandLine
