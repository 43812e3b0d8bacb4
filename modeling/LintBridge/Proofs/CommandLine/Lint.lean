import LintBridge.Proofs.CommandLine.Finding
import LintBridge.Proofs.Terminal.Console

/-!
How the command `lint` ends.

It ends by what it comes to, and no two ends look the same. The good news that there are no
diagnostics, a warning and a failure are told apart from each other and from entries by the first or
the last character that there is to see of them, or by their length. What they hold of a file's name
or of a checker's makes no difference.
-/

namespace LintBridge.CommandLine

open Terminal Linter

variable {m : Machine} {file : String} {report : Report}

/-! ### What is to be seen -/

theorem ink_said (tone : Tone) (emoji : Bool) (text : String) :
    ink (said tone emoji text) = ink (optional emoji tone.emoji) ++ ink text :=
  ink_written tone emoji text

/-- The first thing to see of a text that starts with it. -/
theorem head?_ink {text : String} {c : Char} (h : text.toList.head? = some c)
    (hc : isInk c = true) : (ink text).head? = some c := by
  cases ht : text.toList with
  | nil => simp [ht] at h
  | cons d rest =>
    obtain rfl : d = c := by simpa [ht] using h
    rw [ink, ht, List.filter_cons_of_pos hc]
    rfl

theorem head?_shown {text : String} {c : Char} (h : text.toList.head? = some c)
    (hc : c ≠ '\x1b') : (shown text).toList.head? = some c := by
  cases ht : text.toList with
  | nil => simp [ht] at h
  | cons d rest =>
    obtain rfl : d = c := by simpa [ht] using h
    rw [shown, String.toList_ofList, ht, dropSequences_cons hc]
    rfl

/-- The first thing to see of an entry is its emoji, or else the slash of the path. -/
theorem head?_ink_entryAt {emoji : Bool} {place : LineColumn} {d : Diagnostic}
    (hfile : file.toList.head? = some '/') :
    (ink (entryAt emoji file place d)).head? = some (if emoji then
      if Severity.ofLabel d.label = .error then '❌' else '⚠' else '/') := by
  have hhead {c : Char}
      (h : (optional emoji (entryEmoji (.ofLabel d.label)) ++ file).toList.head? = some c)
      (hc : c ≠ '\x1b') (hink : isInk c = true) :
      (ink (entryAt emoji file place d)).head? = some c := by
    refine head?_ink ?_ hink
    simp only [entryAt, String.toList_append, List.append_assoc]
    rw [List.head?_append, head?_shown h hc]
    rfl
  cases emoji with
  | false =>
    exact hhead (c := '/') (by simpa [Terminal.optional] using hfile) (by decide) (by decide)
  | true =>
    by_cases herror : Severity.ofLabel d.label = .error
    · rw [if_pos rfl, if_pos herror]
      refine hhead ?_ (by decide) (by decide)
      simp [Terminal.optional, entryEmoji, herror, Tone.emoji]
    · rw [if_pos rfl, if_neg herror]
      refine hhead ?_ (by decide) (by decide)
      simp [Terminal.optional, entryEmoji, herror, Tone.emoji]

/-- The last thing to see of an entry is the bracket around the category. -/
theorem getLast?_ink_entryAt {emoji : Bool} {place : LineColumn} {d : Diagnostic} :
    (ink (entryAt emoji file place d)).getLast? = some ')' := by
  have hlast : (shown (d.description ++ "(" ++ d.category ++ ")")).toList =
      dropSequences false (d.description ++ "(" ++ d.category).toList ++ [')'] := by
    rw [shown, String.toList_ofList, String.toList_append]
    exact shown_append_cut (by decide) _ []
  have hfeed : ink "\n" = [] := by decide
  simp only [entryAt, ink_append, hfeed, List.append_nil]
  rw [List.getLast?_append, ink, hlast, List.filter_append, List.getLast?_append]
  rfl

theorem ink_join (texts : List String) : ink (String.join texts) = texts.flatMap ink := by
  rw [ink, String.toList_join, List.filter_flatMap]
  rfl

/-- The first and the last thing to see of the entries of a report that has some. -/
theorem ends_ink_reportText (m : Machine) (emoji : Bool) (hfile : file.toList.head? = some '/')
    (hfound : report.diagnostics ≠ []) :
    (∃ c, (ink (reportText m emoji file report)).head? = some c ∧
        c ≠ if emoji then '✅' else 'N') ∧
      (ink (reportText m emoji file report)).getLast? = some ')' := by
  rw [reportText, ink_join]
  constructor
  · obtain ⟨d, rest, hd⟩ := List.exists_cons_of_ne_nil hfound
    rw [hd, List.map_cons, List.flatMap_cons, List.head?_append, head?_ink_entryAt hfile]
    refine ⟨_, rfl, ?_⟩
    cases emoji with
    | false => exact (by decide : '/' ≠ 'N')
    | true =>
      rw [if_pos rfl]
      split <;> decide
  · obtain ⟨front, d, hd⟩ := List.eq_nil_or_concat report.diagnostics |>.resolve_left hfound
    rw [hd]
    simp [getLast?_ink_entryAt, List.getLast?_append]

/-- A message that starts with a plain character that the good news do not start with. -/
def StartsOtherwise (message : String) : Prop :=
  ∃ c, message.toList.head? = some c ∧ isInk c = true ∧ c ≠ 'N'

theorem StartsOtherwise.append {message : String} (h : StartsOtherwise message) (more : String) :
    StartsOtherwise (message ++ more) := by
  obtain ⟨c, hhead, hc⟩ := h
  refine ⟨c, ?_, hc⟩
  rw [String.toList_append, List.head?_append, hhead]
  rfl

theorem startsOtherwise_failed (program : String) (status : Int) (err : String) :
    StartsOtherwise (failedMessage program status err) :=
  have hstart : StartsOtherwise "Command '" := ⟨'C', by decide⟩
  ((((hstart.append program).append _).append _).append _).append _

/-- No message about settings starts like the good news. -/
theorem startsOtherwise_of_isConfig {e : Settings.LoadError} (h : e.isConfig = true) :
    StartsOtherwise e.message := by
  cases e with
  | unreadable path flaw place =>
    have hstart : StartsOtherwise "Failed to parse " := ⟨'F', by decide⟩
    exact ((hstart.append path).append _).append _
  | notTable path =>
    have hstart : StartsOtherwise "[tool.biomecheck] in " := ⟨'[', by decide⟩
    exact (hstart.append path).append _
  | invalid mismatches =>
    have hstart : StartsOtherwise "Invalid biomecheck configuration: " := ⟨'I', by decide⟩
    exact hstart.append _
  | _ => cases h

/-- No message about a failure that is told starts like the good news. -/
theorem startsOtherwise_of_isTold {e : Linter.Failure} (h : isTold e = true) :
    StartsOtherwise e.message := by
  have hbiome : StartsOtherwise "Biome executable '" := ⟨'B', by decide⟩
  have houtput : StartsOtherwise "Could not interpret Biome output: " := ⟨'C', by decide⟩
  unfold isTold at h
  split at h
  · exact ((hbiome.append _).append _).append _
  · exact ((hbiome.append _).append _).append _
  · exact (((houtput.append _).append _).append _).append _
  · exact startsOtherwise_failed _ _ _
  · exact startsOtherwise_failed _ _ _
  · cases h

/-- The first thing to see of the message that there are no diagnostics. -/
theorem head?_ink_good (emoji : Bool) (file : String) :
    (ink (said .good emoji ("No diagnostics reported for " ++ file))).head? =
      some (if emoji then '✅' else 'N') := by
  have hnone : ink (Terminal.optional false Tone.good.emoji) = [] := rfl
  have hemoji : (ink (Terminal.optional true Tone.good.emoji)).head? = some '✅' := rfl
  have hword : (ink "No diagnostics reported for ").head? = some 'N' := by decide
  cases emoji with
  | true =>
    rw [ink_said, List.head?_append, hemoji]
    rfl
  | false =>
    rw [ink_said, hnone, List.nil_append, ink_append, List.head?_append, hword]
    rfl

theorem bad_ne_good {emoji : Bool} {message : String} (file : String)
    (h : StartsOtherwise message) :
    said .bad emoji message ≠ said .good emoji ("No diagnostics reported for " ++ file) := by
  obtain ⟨c, hhead, hink, hc⟩ := h
  intro heq
  have hfirst := head?_ink_good emoji file
  rw [← heq, ink_said, List.head?_append, head?_ink hhead hink] at hfirst
  cases emoji with
  | false => exact hc (Option.some.inj hfirst)
  | true => exact absurd (Option.some.inj hfirst) (by decide)

/-- A warning is longer than the message that there are no diagnostics, or has another emoji. -/
theorem caution_ne_good {emoji : Bool} (checker file : String) :
    said .caution emoji (unavailableText checker file) ≠
      said .good emoji ("No diagnostics reported for " ++ file) := by
  intro heq
  have hink := congrArg ink heq
  rw [ink_said, ink_said] at hink
  cases emoji with
  | true =>
    have hgood : (ink (Terminal.optional true Tone.good.emoji)).head? = some '✅' := rfl
    have hcaution : (ink (Terminal.optional true Tone.caution.emoji)).head? = some '⚠' := rfl
    have hhead := congrArg List.head? hink
    rw [List.head?_append, List.head?_append, hgood, hcaution] at hhead
    exact absurd (Option.some.inj hhead) (by decide)
  | false =>
    have hlength := congrArg List.length hink
    simp only [unavailableText, ink_append, List.length_append] at hlength
    have hmiddle : (ink " is not available for ").length = 17 := by decide
    have hback : (ink "; run 'biomecheck verify' for details.").length = 33 := by decide
    have hfront : (ink "No diagnostics reported for ").length = 24 := by decide
    have hnone (tone : Tone) : ink (Terminal.optional false tone.emoji) = [] := rfl
    rw [hnone, hnone] at hlength
    omega

/-- The last thing to see of a warning is its full stop. -/
theorem getLast?_ink_caution (emoji : Bool) (checker file : String) :
    (ink (said .caution emoji (unavailableText checker file))).getLast? = some '.' := by
  rw [ink_said, unavailableText, ink_append, List.getLast?_append, List.getLast?_append]
  rfl

/-! ### What each end tells -/

theorem launches_lintWith (m : Machine) (s : Settings) (file : String) (emoji : Bool) :
    (lintWith m s file emoji).launches = (check m s file .acceptAll none).launches := by
  rw [lintWith, Ran.bind_eq]
  refine Ran.launches_andThen _ fun ended => ?_
  split
  · split <;> rfl
  · rfl
  · rfl

/-- Where the checker is not ready, the only program that is started is the probe. -/
theorem launches_of_notReady {arguments : List String} {r : Request} {checker : String}
    (hrequest : Request.of? m arguments = some r) (hverb : r.verb = .lint)
    (h : Finds m r (.notReady checker)) :
    ∃ s, Settings.load m r.root m.environment = .ok s ∧
      (run m arguments).launches = starts m s (probeLaunch s) := by
  have htarget := Machine.anchored_text (m := m) (isAbsolute_of_request hrequest)
  cases h with
  | @notReady s hload hready =>
    refine ⟨s, hload, ?_⟩
    obtain ⟨-, -, -, hlaunches, -⟩ := check_eq_false ((check_eq_false_iff htarget rfl).mpr hready)
    rw [run, hrequest, ← hlaunches]
    simp only [perform, hload, hverb, launches_lintWith]

theorem status_exitFor (r : Request) (f : Finding) :
    (exitFor m r f).status = match f with
      | .failure _ => 2
      | .notReady _ => 0
      | .report report => if ∃ d ∈ report.diagnostics, IsError d then 1 else 0 := by
  cases f with
  | failure message => rfl
  | notReady checker => rfl
  | report report =>
    by_cases hempty : report.diagnostics = [] <;> simp [exitFor, hempty]

theorem exitFor_clean {r : Request} (hempty : report.diagnostics = []) :
    exitFor m r (.report report) =
      ⟨said .good r.emoji ("No diagnostics reported for " ++ r.file.text), 0, none⟩ :=
  if_pos hempty

theorem exitFor_found {r : Request} (hfound : report.diagnostics ≠ []) :
    exitFor m r (.report report) = ⟨reportText m r.emoji r.file.text report,
      if ∃ d ∈ report.diagnostics, IsError d then 1 else 0, none⟩ :=
  if_neg hfound

/-- The good news are told for a report without diagnostics and for nothing else. -/
theorem out_eq_good_iff {r : Request} {f : Finding} (hfile : r.file.isAbsolute = true)
    (hf : Finds m r f) :
    (exitFor m r f).out = said .good r.emoji ("No diagnostics reported for " ++ r.file.text) ↔
      ∃ report, f = .report report ∧ report.diagnostics = [] := by
  constructor
  · intro h
    cases hf with
    | badSettings hload hconfig =>
      exact absurd h (bad_ne_good _ (startsOtherwise_of_isConfig hconfig))
    | failed hload hcheck htold =>
      exact absurd h (bad_ne_good _ (startsOtherwise_of_isTold htold))
    | notReady hload hready => exact absurd h (caution_ne_good _ _)
    | @report s report hload hreports =>
      by_cases hempty : report.diagnostics = []
      · exact ⟨report, rfl, hempty⟩
      · rw [exitFor_found hempty] at h
        dsimp only at h
        obtain ⟨⟨c, hhead, hc⟩, -⟩ :=
          ends_ink_reportText m r.emoji (Path.head?_text hfile) hempty
        rw [h, head?_ink_good] at hhead
        exact absurd (Option.some.inj hhead).symm hc
  · rintro ⟨report, rfl, hempty⟩
    rw [exitFor_clean hempty]

/-- A warning with status zero is told for a checker that is not ready and for nothing else. -/
theorem out_eq_caution_iff {r : Request} {f : Finding} (hfile : r.file.isAbsolute = true) :
    ((exitFor m r f).status = 0 ∧
        ∃ checker, (exitFor m r f).out =
          said .caution r.emoji (unavailableText checker r.file.text)) ↔
      ∃ checker, f = .notReady checker := by
  constructor
  · rintro ⟨hstatus, checker, hout⟩
    cases f with
    | failure message => cases hstatus
    | notReady checker' => exact ⟨checker', rfl⟩
    | report report =>
      by_cases hempty : report.diagnostics = []
      · rw [exitFor_clean hempty] at hout
        exact absurd hout.symm (caution_ne_good _ _)
      · rw [exitFor_found hempty] at hout
        dsimp only at hout
        obtain ⟨-, hlast⟩ :=
          ends_ink_reportText m r.emoji (Path.head?_text hfile) hempty
        rw [hout, getLast?_ink_caution] at hlast
        exact absurd (Option.some.inj hlast) (by decide)
  · rintro ⟨checker, rfl⟩
    exact ⟨rfl, checker, rfl⟩

/-- A lint that ends by itself has the status 2 if the settings cannot be loaded or the check fails,
and then it prints that message and no entry; else the status 1 if the report holds an error; and
else the status 0. It prints the entries of the diagnostics, one for each and in their order, if
there are some. It tells that there are none exactly for a report without diagnostics; and it warns
exactly if the checker is not ready, when it has started no lint. -/
theorem lint_ends_by_finding (m : Machine) (arguments : List String) (r : Request) (exit : Exit)
    (hrequest : Request.of? m arguments = some r) (hverb : r.verb = .lint)
    (hexit : (run m arguments).result = .ok exit) (hends : exit.failure = none) :
    (exit.status = 2 ↔ ∃ message, Finds m r (.failure message)) ∧
    (∀ message, Finds m r (.failure message) → exit.out = said .bad r.emoji message) ∧
    (exit.status = 1 ↔ ∃ report, Finds m r (.report report) ∧ ∃ d ∈ report.diagnostics, IsError d) ∧
    exit.status ≤ 2 ∧
    (∀ report, Finds m r (.report report) → report.diagnostics ≠ [] →
      exit.out = String.join (report.diagnostics.map fun d =>
        entryAt r.emoji r.file.text (.ofByte (sourceOf m r.file.text) d.span.start) d)) ∧
    (exit.out = said .good r.emoji ("No diagnostics reported for " ++ r.file.text) ↔
      ∃ report, Finds m r (.report report) ∧ report.diagnostics = []) ∧
    ((exit.status = 0 ∧
        ∃ checker, exit.out = said .caution r.emoji (unavailableText checker r.file.text)) ↔
      ∃ checker, Finds m r (.notReady checker)) ∧
    ∀ checker, Finds m r (.notReady checker) →
      exit.out = said .caution r.emoji (unavailableText checker r.file.text) ∧
      ∃ s, Settings.load m r.root m.environment = .ok s ∧
        (run m arguments).launches = starts m s (probeLaunch s) := by
  have hfile := isAbsolute_of_request hrequest
  obtain ⟨f, hf, rfl⟩ := exists_finds hrequest hverb hexit hends
  have hfinds (g : Finding) : Finds m r g ↔ f = g :=
    ⟨hf.unique hfile, fun h => h ▸ hf⟩
  refine ⟨?two, ?failure, ?one, ?most, ?entries, ?good, ?caution, ?notReady⟩
  case two =>
    rw [status_exitFor]
    simp only [hfinds]
    cases f with
    | failure message => simp
    | notReady checker => simp
    | report report =>
      dsimp only
      split <;> simp
  case failure =>
    intro message h
    rw [(hfinds _).mp h]
    rfl
  case one =>
    rw [status_exitFor]
    simp only [hfinds]
    cases f <;> simp
  case most =>
    rw [status_exitFor]
    cases f with
    | failure message => exact Nat.le_refl 2
    | notReady checker => exact Nat.zero_le 2
    | report report =>
      dsimp only
      split <;> decide
  case entries =>
    intro report h hfound
    rw [(hfinds _).mp h, exitFor_found hfound]
    rfl
  case good =>
    simp only [hfinds]
    exact out_eq_good_iff hfile hf
  case caution =>
    simp only [hfinds]
    exact out_eq_caution_iff hfile
  case notReady =>
    intro checker h
    refine ⟨?_, launches_of_notReady hrequest hverb h⟩
    rw [(hfinds _).mp h]
    rfl

/-- The sample with a script that has an error in it. -/
def sampleWithError : Machine :=
  (sampleWith "ab".toList).setScript "lint" (.finishes 1
    (Text.Utf8.encode ("\x7b\"diagnostics\": [\x7b\"category\": \"lint\", " ++
      "\"severity\": \" Fatal\", \"description\": \"Unused.\", " ++
      "\"location\": \x7b\"span\": [1, 2]\x7d\x7d]\x7d").toList) [])

/-- On the sample with an error, of which one entry is printed. -/
theorem lint_ends_by_finding_on_sample :
    (run sampleWithError ["lint", "app.js", "--no-emoji"]).result =
        .ok ⟨"/work/app.js:1:2: error Unused.(lint)\n", 1, none⟩ ∧
      ∃ report, Finds sampleWithError ⟨.lint, .parse "/work/app.js", none, false⟩ (.report report) ∧
        ∃ d ∈ report.diagnostics, IsError d := by
  have hresult : (run sampleWithError ["lint", "app.js", "--no-emoji"]).result =
      .ok ⟨"/work/app.js:1:2: error Unused.(lint)\n", 1, none⟩ := by
    decide +kernel
  have hrequest : Request.of? sampleWithError ["lint", "app.js", "--no-emoji"] =
      some ⟨.lint, .parse "/work/app.js", none, false⟩ := by
    decide +kernel
  have hends := lint_ends_by_finding sampleWithError _ _ _ hrequest rfl hresult rfl
  exact ⟨hresult, hends.2.2.1.mp rfl⟩

end LintBridge.CommandLine
