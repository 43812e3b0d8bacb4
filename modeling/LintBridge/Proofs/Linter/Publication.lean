import LintBridge.Proofs.Linter.Launches
import LintBridge.Proofs.Report.Translation

/-!
What a check publishes.

A check hands over to the sink once, as the last thing it does, and only what a whole lint has told:
readiness and the lint themselves publish nothing. So whatever fails on the way, the sink has
received nothing; and what a sink refuses it has not received.
-/

namespace LintBridge.Linter

variable {m : Machine} {s : Settings} {path : String} {target : Path} {buffer : Option String}
  {problems : List Problem}

/-! ### What a lint that succeeds has done -/

theorem told_eq_ok_iff {completed : Completed} :
    (told s target buffer completed).result = .ok problems ↔
      completed.status ≠ Command.timeoutStatus ∧
        Report.translate ⟨s.checkerName, some target.text, buffer⟩ completed.out.toList =
          .ok problems := by
  unfold told
  split
  · next h => simp [Ran.fail, h]
  · next h =>
    show (Except.mapError _ _ = _) ↔ _
    cases Report.translate ⟨s.checkerName, some target.text, buffer⟩ completed.out.toList <;>
      simp [h]

/-- A lint that tells problems has run the linter to its end, and its output is a report of them. -/
theorem lintAnchored_eq_ok (h : (lintAnchored m s target buffer).result = .ok problems) :
    ∃ program cwd status out err, m.resolve s.executable = .ok (some program) ∧
      (workingDirectory m s target.text).result = .ok cwd ∧
      m.script (lintLaunch s target cwd program).arguments = .finishes status out err ∧
      Report.translate ⟨s.checkerName, some target.text, buffer⟩
        (Command.outputText out).toList = .ok problems := by
  obtain ⟨cwd, hcwd, hrest⟩ := Ran.result_andThen_eq_ok.mp h
  by_cases hfound : ∃ program, m.resolve s.executable = .ok (some program)
  · obtain ⟨program, hprogram⟩ := hfound
    obtain ⟨completed, hrun, htold⟩ := Ran.result_andThen_eq_ok.mp hrest
    obtain ⟨hstatus, htranslate⟩ := told_eq_ok_iff.mp htold
    have hended : Command.outcome (lintLaunch s target cwd program).arguments s.timeout
        (m.script (lintLaunch s target cwd program).arguments) = .ok completed := by
      rw [Command.run_of_resolved rfl hprogram] at hrun
      exact Ran.except_mapError_eq_ok.mp hrun
    obtain hstopped | ⟨out, err, hscript, hout⟩ := Command.outcome_eq_ok hended
    · exact absurd hstopped hstatus
    · exact ⟨program, cwd, _, out, err, hprogram, hcwd, hscript, hout ▸ htranslate⟩
  · have hunavailable : ∃ reason, (lintAnchored m s target buffer).result =
        .error (.unavailable s.executable reason) :=
      lintAnchored_of_unresolved hcwd fun program hprogram => hfound ⟨program, hprogram⟩
    obtain ⟨reason, hunavailable⟩ := hunavailable
    rw [h] at hunavailable
    cases hunavailable

/-! ### What a check does -/

theorem result_handOver (sink : Sink) (p : Publication) : (handOver sink p).result = sink p := by
  rw [handOver, Ran.bind_eq, Ran.result_andThen]
  cases h : sink p <;> simp [Except.bind, Ran.publish]

/-- What a sink has received of a publication that is handed over to it. -/
theorem published_handOver (sink : Sink) (p : Publication) :
    (handOver sink p).published = if (sink p).isOk then [p] else [] := by
  rw [handOver, Ran.bind_eq]
  cases sink p <;> rfl

theorem result_check {sink : Sink} (htarget : m.anchored path = .ok target) :
    (check m s path sink buffer).result = (isReady m s target.text).result.bind fun ready =>
      if ready then (lint m s target.text buffer).result.bind fun problems =>
        (sink ⟨target.text, problems⟩).map fun _ => true
      else .ok false := by
  rw [check_of_anchored htarget, Ran.result_andThen]
  congr 1
  funext ready
  cases ready with
  | false => rfl
  | true =>
    simp only [if_true, Ran.result_andThen, result_handOver]
    rfl

/-- A check publishes what the lint of a path that is ready tells, if the sink takes it. -/
theorem published_check {sink : Sink} (htarget : m.anchored path = .ok target) :
    (check m s path sink buffer).published =
      match (isReady m s target.text).result, (lint m s target.text buffer).result with
      | .ok true, .ok problems => if (sink ⟨target.text, problems⟩).isOk then
          [⟨target.text, problems⟩] else []
      | _, _ => [] := by
  have hnothing := published_isReady m s target.text
  rw [check_of_anchored htarget]
  cases hready : (isReady m s target.text).result with
  | error e => rw [Ran.andThen_error hready, hnothing]
  | ok ready =>
    rw [Ran.andThen_ok hready, hnothing, List.nil_append]
    cases ready with
    | false => rfl
    | true =>
      have htold := published_lint m s target.text buffer
      show (Ran.andThen _ _).published = _
      cases hlint : (lint m s target.text buffer).result with
      | error e => rw [Ran.andThen_error hlint, htold]
      | ok problems =>
        rw [Ran.andThen_ok hlint, htold, List.nil_append]
        show ((handOver sink _).andThen _).published = _
        rw [Ran.published_andThen _ fun _ => rfl, published_handOver]

/-! ### How a check ends -/

/-- A check that fails has published nothing. -/
theorem published_of_check_eq_error {sink : Sink} {e : Failure}
    (h : (check m s path sink buffer).result = .error e) :
    (check m s path sink buffer).published = [] := by
  cases htarget : m.anchored path with
  | error reason => rw [check_of_error htarget, Ran.published_of]
  | ok target =>
    rw [published_check htarget]
    split
    · next problems hready hlint =>
      cases hsink : sink ⟨target.text, problems⟩ with
      | error reason => rfl
      | ok u =>
        -- then nothing is left that could have failed
        simp [result_check htarget, hready, hlint, hsink, Except.bind, Except.map] at h
    · rfl

/-- A check that says no has started nothing but the probe and published nothing. -/
theorem check_eq_false {sink : Sink} (h : (check m s path sink buffer).result = .ok false) :
    ∃ target, m.anchored path = .ok target ∧ (isReady m s target.text).result = .ok false ∧
      (check m s path sink buffer).launches = starts m s (probeLaunch s) ∧
      (check m s path sink buffer).published = [] := by
  cases htarget : m.anchored path with
  | error reason =>
    rw [check_of_error htarget] at h
    cases h
  | ok target =>
    rw [result_check htarget] at h
    obtain ⟨ready, hready, h⟩ := Ran.except_bind_eq_ok.mp h
    cases ready with
    | true =>
      obtain ⟨problems, -, h⟩ := Ran.except_bind_eq_ok.mp h
      obtain ⟨u, -, h⟩ := Ran.except_map_eq_ok.mp h
      cases h
    | false =>
      refine ⟨target, rfl, hready, ?_, ?_⟩
      · simp [launches_check htarget, hready, launches_isReady]
      · simp [published_check htarget, hready]

example : (check sample .standard "app.js" .acceptAll none).published = [⟨"/work/app.js", []⟩] := by
  decide +kernel

end LintBridge.Linter
