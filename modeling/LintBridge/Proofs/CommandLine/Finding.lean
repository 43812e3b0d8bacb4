import LintBridge.Proofs.CommandLine.Entry
import LintBridge.Proofs.Linter.Status

/-!
What the command `lint` comes to.

It comes to a failure, of the settings or of the check, to a checker that is not ready, or to a
report (`Finds`), and to one of these only (`Finds.unique`). Unless an error gets out that it does
not tell of, that decides its status and what it prints (`exists_finds`).
-/

namespace LintBridge.CommandLine

open Terminal Linter

variable {m : Machine} {s : Settings} {file : String} {target : Path} {report : Report}

/-! ### What the checker finds -/

/-- The checker is ready for a file, and the linter that it has started came to its end by itself
and printed this report. -/
def Reports (m : Machine) (s : Settings) (file : String) (report : Report) : Prop :=
  (isReady m s file).result = .ok true ∧
    ∃ l status out err, (lint m s file none).launches = [l] ∧
      m.script l.arguments = .finishes status out err ∧ status ≠ Command.timeoutStatus ∧
      Report.parse (Report.payload (Command.outputText out).toList) = .ok report

/-- There is one report of a file at most. -/
theorem Reports.unique {report' : Report} (h : Reports m s file report)
    (h' : Reports m s file report') : report = report' := by
  obtain ⟨-, l, status, out, err, hlaunches, hscript, -, hparse⟩ := h
  obtain ⟨-, l', status', out', err', hlaunches', hscript', -, hparse'⟩ := h'
  rw [hlaunches, List.singleton_inj] at hlaunches'
  subst hlaunches'
  rw [hscript] at hscript'
  cases hscript'
  rw [hparse] at hparse'
  exact Except.ok.inj hparse'

theorem Reports.lint (htarget : m.anchored file = .ok target) (htext : target.text = file)
    (h : Reports m s file report) : (Linter.lint m s file none).result =
      .ok (report.problems ⟨s.checkerName, some file, none⟩) := by
  obtain ⟨-, l, status, out, err, hlaunches, hscript, hstatus, hparse⟩ := h
  refine (lint_eq_ok_iff htarget).mpr ⟨l, status, out, err, hlaunches, hscript, hstatus, ?_⟩
  exact Report.translate_eq_ok_iff.mpr ⟨report, hparse, by rw [htext]⟩

/-- A check publishes the problems of the report. -/
theorem Reports.published (htarget : m.anchored file = .ok target) (htext : target.text = file)
    (h : Reports m s file report) : (check m s file .acceptAll none).published =
      [⟨file, report.problems ⟨s.checkerName, some file, none⟩⟩] := by
  rw [published_check htarget, htext, h.1, h.lint htarget htext]
  rfl

/-- A check says yes if there is a report. -/
theorem check_eq_true_iff (htarget : m.anchored file = .ok target) (htext : target.text = file) :
    (check m s file .acceptAll none).result = .ok true ↔ ∃ report, Reports m s file report := by
  rw [result_check htarget, htext]
  constructor
  · intro h
    obtain ⟨ready, hready, h⟩ := Ran.except_bind_eq_ok.mp h
    cases ready with
    | false => cases h
    | true =>
      obtain ⟨problems, hlint, -⟩ := Ran.except_bind_eq_ok.mp h
      obtain ⟨l, status, out, err, hlaunches, hscript, hstatus, htranslate⟩ :=
        (lint_eq_ok_iff htarget).mp hlint
      obtain ⟨report, hparse, -⟩ := Report.translate_eq_ok_iff.mp htranslate
      exact ⟨report, hready, l, status, out, err, hlaunches, hscript, hstatus, hparse⟩
  · rintro ⟨report, h⟩
    rw [h.1]
    show Except.bind _ _ = _
    rw [h.lint htarget htext]
    rfl

/-- A check says no if the checker is not ready. -/
theorem check_eq_false_iff (htarget : m.anchored file = .ok target) (htext : target.text = file) :
    (check m s file .acceptAll none).result = .ok false ↔
      (isReady m s file).result = .ok false := by
  rw [result_check htarget, htext]
  constructor
  · intro h
    obtain ⟨ready, hready, h⟩ := Ran.except_bind_eq_ok.mp h
    cases ready with
    | false => exact hready
    | true =>
      obtain ⟨problems, -, h⟩ := Ran.except_bind_eq_ok.mp h
      cases h
  · intro h
    rw [h]
    rfl

/-! ### Errors and entries -/

/-- Whether the linter takes a diagnostic for an error, by its label. -/
def IsError (d : Diagnostic) : Prop :=
  Severity.plainLabel d.label = "error" ∨ Severity.plainLabel d.label = "fatal"

instance : DecidablePred IsError := fun _ => instDecidableOr

theorem ofLabel_eq_error_iff {d : Diagnostic} :
    Severity.ofLabel d.label = .error ↔ IsError d := by
  unfold Severity.ofLabel Severity.ofLabelBy IsError
  generalize Severity.plainLabel d.label = label
  constructor
  · intro h
    cases hlookup : List.lookup label Severity.labels with
    | none => simp [hlookup] at h
    | some severity =>
      rw [hlookup, Option.getD_some] at h
      subst h
      obtain ⟨front, back, hlabels, -⟩ := List.lookup_eq_some_iff.mp hlookup
      have hmem : (label, Severity.error) ∈ Severity.labels := by simp [hlabels]
      simpa [Severity.labels] using hmem
  · rintro (rfl | rfl) <;> rfl

/-- The entries of a report on a file. -/
def reportText (m : Machine) (emoji : Bool) (file : String) (report : Report) : String :=
  String.join (report.diagnostics.map fun d =>
    entryAt emoji file (.ofByte (sourceOf m file) d.span.start) d)

/-! ### What a lint comes to -/

/-- What a lint comes to: a failure with its message, a checker that is not ready, or a report. -/
inductive Finding where
  | failure (message : String)
  | notReady (checker : String)
  | report (report : Report)

/-- What a lint comes to for a request: settings that cannot be loaded for what the file says, a
check that fails in a way that is told, a checker that is not ready, or a report. -/
inductive Finds (m : Machine) (r : Request) : Finding → Prop where
  | badSettings {e : Settings.LoadError} (hload : Settings.load m r.root m.environment = .error e)
      (hconfig : e.isConfig = true) : Finds m r (.failure e.message)
  | failed {s : Settings} {e : Linter.Failure}
      (hload : Settings.load m r.root m.environment = .ok s)
      (hcheck : (check m s r.file.text .acceptAll none).result = .error e)
      (htold : isTold e = true) : Finds m r (.failure e.message)
  | notReady {s : Settings} (hload : Settings.load m r.root m.environment = .ok s)
      (hready : (isReady m s r.file.text).result = .ok false) : Finds m r (.notReady s.checkerName)
  | report {s : Settings} {report : Report}
      (hload : Settings.load m r.root m.environment = .ok s)
      (hreports : Reports m s r.file.text report) : Finds m r (.report report)

/-- How `lint` ends by what it comes to. -/
def exitFor (m : Machine) (r : Request) : Finding → Exit
  | .failure message => ⟨said .bad r.emoji message, 2, none⟩
  | .notReady checker => ⟨said .caution r.emoji (unavailableText checker r.file.text), 0, none⟩
  | .report report =>
      if report.diagnostics = [] then
        ⟨said .good r.emoji ("No diagnostics reported for " ++ r.file.text), 0, none⟩
      else ⟨reportText m r.emoji r.file.text report,
        if ∃ d ∈ report.diagnostics, IsError d then 1 else 0, none⟩

theorem Finds.of_error {r : Request} {f : Finding} {e : Settings.LoadError} (h : Finds m r f)
    (hload : Settings.load m r.root m.environment = .error e) : f = .failure e.message := by
  cases h with
  | badSettings hload' hconfig =>
    rw [hload] at hload'
    cases hload'
    rfl
  | failed hload' hcheck htold => cases hload.symm.trans hload'
  | notReady hload' hready => cases hload.symm.trans hload'
  | report hload' hreports => cases hload.symm.trans hload'

theorem Finds.of_ok {r : Request} {f : Finding} (h : Finds m r f)
    (hfile : r.file.isAbsolute = true) (hload : Settings.load m r.root m.environment = .ok s) :
    (∃ e, (check m s r.file.text .acceptAll none).result = .error e ∧ f = .failure e.message) ∨
      ((check m s r.file.text .acceptAll none).result = .ok false ∧
        f = .notReady s.checkerName) ∨
      ∃ report, Reports m s r.file.text report ∧
        (check m s r.file.text .acceptAll none).result = .ok true ∧ f = .report report := by
  have htarget := Machine.anchored_text (m := m) hfile
  cases h with
  | badSettings hload' hconfig => cases hload.symm.trans hload'
  | failed hload' hcheck htold =>
    cases hload.symm.trans hload'
    exact .inl ⟨_, hcheck, rfl⟩
  | notReady hload' hready =>
    cases hload.symm.trans hload'
    exact .inr (.inl ⟨(check_eq_false_iff htarget rfl).mpr hready, rfl⟩)
  | report hload' hreports =>
    cases hload.symm.trans hload'
    exact .inr (.inr ⟨_, hreports, (check_eq_true_iff htarget rfl).mpr ⟨_, hreports⟩, rfl⟩)

/-- A lint comes to one thing at most. -/
theorem Finds.unique {r : Request} {f g : Finding} (hfile : r.file.isAbsolute = true)
    (hf : Finds m r f) (hg : Finds m r g) : f = g := by
  cases hload : Settings.load m r.root m.environment with
  | error e => rw [hf.of_error hload, hg.of_error hload]
  | ok s =>
    obtain ⟨e, hcheck, rfl⟩ | ⟨hcheck, rfl⟩ | ⟨report, hreports, hcheck, rfl⟩ :=
      hf.of_ok hfile hload <;>
    obtain ⟨e', hcheck', rfl⟩ | ⟨hcheck', rfl⟩ | ⟨report', hreports', hcheck', rfl⟩ :=
      hg.of_ok hfile hload <;>
    cases hcheck.symm.trans hcheck'
    · rfl
    · rfl
    · rw [hreports.unique hreports']

/-! ### How a lint ends -/

/-- What is linted is an absolute path. -/
theorem isAbsolute_of_request {arguments : List String} {r : Request}
    (h : Request.of? m arguments = some r) : r.file.isAbsolute = true := by
  obtain ⟨⟨verb, rest⟩, -, h⟩ := Option.bind_eq_some_iff.mp h
  obtain ⟨options, -, h⟩ := Option.bind_eq_some_iff.mp h
  split at h
  · dsimp only at h
    split at h
    · cases h
      rfl
    · cases h
  · cases h

theorem result_ends (out : String) (status : Nat) :
    (ends out status).result = .ok ⟨out, status, none⟩ :=
  rfl

theorem result_breaks (out : String) (failure : Failure) :
    (breaks out failure).result = .ok ⟨out, 1, some failure⟩ :=
  rfl

theorem lintWith_of_error {emoji : Bool} {e : Linter.Failure}
    (h : (check m s file .acceptAll none).result = .error e) :
    (lintWith m s file emoji).result =
      if isTold e then .ok ⟨said .bad emoji e.message, 2, none⟩
      else .ok ⟨"", 1, some (.linter e)⟩ := by
  rw [lintWith, Ran.bind_eq, Ran.result_andThen]
  simp only [Ran.attempt, Except.bind, h, published_of_check_eq_error h, List.map_nil,
    String.join_nil, String.empty_append]
  split
  · exact result_ends _ _
  · exact result_breaks _ _

theorem lintWith_of_notReady {emoji : Bool} (htarget : m.anchored file = .ok target)
    (htext : target.text = file) (h : (isReady m s file).result = .ok false) :
    (lintWith m s file emoji).result =
      .ok ⟨said .caution emoji (unavailableText s.checkerName file), 0, none⟩ := by
  have hcheck := (check_eq_false_iff htarget htext).mpr h
  obtain ⟨-, -, -, -, hpublished⟩ := check_eq_false hcheck
  rw [lintWith, Ran.bind_eq, Ran.result_andThen]
  simp only [Ran.attempt, Except.bind, hcheck, hpublished, List.map_nil, String.join_nil,
    String.empty_append]
  exact result_ends _ _

theorem problems_eq_nil_iff {owner : Owner} :
    report.problems owner = [] ↔ report.diagnostics = [] :=
  List.map_eq_nil_iff

theorem any_isError {owner : Owner} :
    (report.problems owner).any (·.severity = .error) = true ↔
      ∃ d ∈ report.diagnostics, IsError d := by
  simp [Report.problems, ofLabel_eq_error_iff]

theorem lintWith_of_reports {emoji : Bool} (htarget : m.anchored file = .ok target)
    (htext : target.text = file) (h : Reports m s file report) :
    (lintWith m s file emoji).result = .ok
      (if report.diagnostics = [] then
        ⟨said .good emoji ("No diagnostics reported for " ++ file), 0, none⟩
      else ⟨reportText m emoji file report,
        if ∃ d ∈ report.diagnostics, IsError d then 1 else 0, none⟩) := by
  have hcheck := (check_eq_true_iff htarget htext).mpr ⟨report, h⟩
  have hentries : String.join [entries m emoji
      ⟨file, report.problems ⟨s.checkerName, some file, none⟩⟩] = reportText m emoji file report := by
    rw [entries_eq]
    rfl
  rw [lintWith, Ran.bind_eq, Ran.result_andThen]
  simp only [Ran.attempt, Except.bind, hcheck, h.published htarget htext, List.map_cons,
    List.map_nil, hentries, List.flatMap_cons, List.flatMap_nil, List.append_nil, Ran.pure_eq,
    Ran.result_of]
  unfold lintExit
  simp only [problems_eq_nil_iff, any_isError]
  split
  · next hempty =>
    rw [reportText, hempty, List.map_nil, String.join_nil, String.empty_append]
  · rfl

/-- A lint that ends by itself comes to something, and ends by that. -/
theorem exists_finds {arguments : List String} {r : Request} {exit : Exit}
    (hrequest : Request.of? m arguments = some r) (hverb : r.verb = .lint)
    (hexit : (run m arguments).result = .ok exit) (hends : exit.failure = none) :
    ∃ f, Finds m r f ∧ exit = exitFor m r f := by
  have htarget := Machine.anchored_text (m := m) (isAbsolute_of_request hrequest)
  rw [run, hrequest] at hexit
  dsimp only at hexit
  unfold perform at hexit
  cases hload : Settings.load m r.root m.environment with
  | error e =>
    simp only [hload, hverb, decide_true, Bool.true_and] at hexit
    split at hexit
    · next hconfig =>
      obtain rfl := Except.ok.inj hexit
      exact ⟨_, .badSettings hload hconfig, rfl⟩
    · obtain rfl := Except.ok.inj hexit
      cases hends
  | ok s =>
    simp only [hload, hverb] at hexit
    cases hcheck : (check m s r.file.text .acceptAll none).result with
    | error e =>
      rw [lintWith_of_error hcheck] at hexit
      split at hexit
      · next htold =>
        obtain rfl := Except.ok.inj hexit
        exact ⟨_, .failed hload hcheck htold, rfl⟩
      · obtain rfl := Except.ok.inj hexit
        cases hends
    | ok ran =>
      cases ran with
      | false =>
        have hready := (check_eq_false_iff htarget rfl).mp hcheck
        rw [lintWith_of_notReady htarget rfl hready] at hexit
        obtain rfl := Except.ok.inj hexit
        exact ⟨_, .notReady hload hready, rfl⟩
      | true =>
        obtain ⟨report, hreports⟩ := (check_eq_true_iff htarget rfl).mp hcheck
        rw [lintWith_of_reports htarget rfl hreports] at hexit
        obtain rfl := Except.ok.inj hexit
        exact ⟨_, .report hload hreports, rfl⟩

end LintBridge.CommandLine
