import LintBridge.Roster
import Mathlib.Data.List.Nodup

/-!
Rosters over whole runs of requests.

A run of requests has a history: every request with how it ended. What a roster has can be read off
the history alone, without the roster: the checkers whose registration was granted, in the order of
the requests (`registered`). One request adds to the roster what it adds to the history
(`checkers_serve`), so a run does too (`checkers_serveAll`), and each request of a run ends as the
rules of `Answered` say, which look at nothing but what was registered before it
(`roster_follows_history`).
-/

namespace LintBridge.Roster

variable {r : Roster} {request : Request} {outcome : Outcome} {history : List (Request × Outcome)}
  {name : String} {checker : Settings} {e : RosterError}

/-! ### What a roster tells -/

theorem contains_iff :
    r.contains name = true ↔ ∃ c ∈ r.checkers, c.checkerName = name := by
  simp [contains, names]

theorem get_eq_ok_iff :
    r.get name = .ok checker ↔ checker ∈ r.checkers ∧ checker.checkerName = name := by
  unfold get
  split
  · next c hfind =>
    have hmem : c ∈ r.checkers := List.mem_of_find?_eq_some hfind
    have hname : c.checkerName = name := by simpa using List.find?_some hfind
    constructor
    · intro h
      cases h
      exact ⟨hmem, hname⟩
    · rintro ⟨hchecker, rfl⟩
      rw [List.inj_on_of_nodup_map r.distinct hmem hchecker hname]
  · next hfind =>
    constructor
    · intro h
      cases h
    · rintro ⟨hchecker, hname⟩
      exact absurd hname (by simpa using List.find?_eq_none.mp hfind checker hchecker)

theorem get_eq_error_iff :
    r.get name = .error e ↔ e = .unknown name ∧ ∀ c ∈ r.checkers, c.checkerName ≠ name := by
  unfold get
  split
  · next c hfind =>
    have hmem : c ∈ r.checkers := List.mem_of_find?_eq_some hfind
    have hname : c.checkerName = name := by simpa using List.find?_some hfind
    constructor
    · intro h
      cases h
    · rintro ⟨-, hnone⟩
      exact absurd hname (hnone c hmem)
  · next hfind =>
    have hnone : ∀ c ∈ r.checkers, c.checkerName ≠ name := by simpa using hfind
    constructor
    · intro h
      cases h
      exact ⟨rfl, hnone⟩
    · rintro ⟨rfl, -⟩
      rfl

/-! ### Registration -/

theorem register_eq_ok_iff {r' : Roster} : r.register checker = .ok r' ↔
    (∀ c ∈ r.checkers, c.checkerName ≠ checker.checkerName) ∧
      r'.checkers = r.checkers ++ [checker] := by
  unfold register
  split
  · next h =>
    obtain ⟨c, hc, hname⟩ := contains_iff.mp h
    constructor
    · intro h
      cases h
    · rintro ⟨hnew, -⟩
      exact absurd hname (hnew c hc)
  · next h =>
    have hnew : ∀ c ∈ r.checkers, c.checkerName ≠ checker.checkerName :=
      fun c hc hname => h (contains_iff.mpr ⟨c, hc, hname⟩)
    constructor
    · intro h
      cases h
      exact ⟨hnew, rfl⟩
    · rintro ⟨-, hcheckers⟩
      obtain ⟨checkers, distinct⟩ := r'
      cases hcheckers
      rfl

theorem register_eq_error_iff : r.register checker = .error e ↔
    e = .registered checker.checkerName ∧
      ∃ c ∈ r.checkers, c.checkerName = checker.checkerName := by
  unfold register
  split
  · next h =>
    constructor
    · intro herror
      cases herror
      exact ⟨rfl, contains_iff.mp h⟩
    · rintro ⟨rfl, -⟩
      rfl
  · next h =>
    constructor
    · intro herror
      cases herror
    · rintro ⟨-, htaken⟩
      exact absurd (contains_iff.mpr htaken) h

/-! ### Histories -/

/-- The checker that a request is to register. -/
def Request.added? : Request → Option Settings
  | .register checker => some checker
  | .enrol checker => some (checker.getD .standard)
  | _ => none

/-- The checkers whose registration was granted, in the order of the requests. -/
def registered (history : List (Request × Outcome)) : List Settings :=
  history.filterMap fun (request, outcome) =>
    match outcome with
    | .ok _ => request.added?
    | .error _ => none

/-- How a request ends where `done` are the checkers whose registration was granted before it. -/
inductive Answered (done : List Settings) : Request → Outcome → Prop where
  | registered {checker : Settings} (hnew : ∀ c ∈ done, c.checkerName ≠ checker.checkerName) :
      Answered done (.register checker) (.ok .done)
  | taken {checker : Settings} (htaken : ∃ c ∈ done, c.checkerName = checker.checkerName) :
      Answered done (.register checker) (.error (.registered checker.checkerName))
  | enrolled {given : Option Settings}
      (hnew : ∀ c ∈ done, c.checkerName ≠ (given.getD .standard).checkerName) :
      Answered done (.enrol given) (.ok (.checker (given.getD .standard)))
  | enrolledBefore {given : Option Settings}
      (htaken : ∃ c ∈ done, c.checkerName = (given.getD .standard).checkerName) :
      Answered done (.enrol given) (.error (.registered (given.getD .standard).checkerName))
  | found {checker : Settings} (hchecker : checker ∈ done) :
      Answered done (.get checker.checkerName) (.ok (.checker checker))
  | unknown {name : String} (hnone : ∀ c ∈ done, c.checkerName ≠ name) :
      Answered done (.get name) (.error (.unknown name))
  | contains {name : String} {found : Bool}
      (hfound : found = true ↔ ∃ c ∈ done, c.checkerName = name) :
      Answered done (.contains name) (.ok (.truth found))
  | size : Answered done .size (.ok (.number done.length))
  | checkers : Answered done .checkers (.ok (.list done))

theorem registered_nil : registered [] = [] :=
  rfl

theorem checkers_empty_append (done : List Settings) : empty.checkers ++ done = done :=
  List.nil_append done

theorem registered_append (before after : List (Request × Outcome)) :
    registered (before ++ after) = registered before ++ registered after :=
  List.filterMap_append

/-! ### One request -/

/-- A request that is refused leaves the roster as it was. -/
theorem serve_of_error (h : (r.serve request).1 = .error e) : (r.serve request).2 = r := by
  cases request with
  | register checker =>
    simp only [serve] at h ⊢
    split at h
    · cases h
    · rfl
  | enrol given =>
    simp only [serve] at h ⊢
    split at h
    · cases h
    · rfl
  | get name => rfl
  | contains name => rfl
  | size => rfl
  | checkers => rfl

/-- A request adds to the roster what it adds to the history. -/
theorem checkers_serve (r : Roster) (request : Request) :
    (r.serve request).2.checkers = r.checkers ++ registered [(request, (r.serve request).1)] := by
  cases request with
  | register checker =>
    simp only [serve]
    split
    · next hok => exact (register_eq_ok_iff.mp hok).2
    · exact (List.append_nil _).symm
  | enrol given =>
    simp only [serve, enrol]
    cases hregister : r.register (given.getD .standard) with
    | ok roster => exact (register_eq_ok_iff.mp hregister).2
    | error e => exact (List.append_nil _).symm
  | get name =>
    simp only [serve]
    cases r.get name with
    | ok checker => exact (List.append_nil _).symm
    | error e => exact (List.append_nil _).symm
  | contains name => exact (List.append_nil _).symm
  | size => exact (List.append_nil _).symm
  | checkers => exact (List.append_nil _).symm

theorem answered_serve (r : Roster) (request : Request) :
    Answered r.checkers request (r.serve request).1 := by
  cases request with
  | register checker =>
    simp only [serve]
    cases hregister : r.register checker with
    | ok roster => exact .registered (register_eq_ok_iff.mp hregister).1
    | error e =>
      obtain ⟨rfl, htaken⟩ := register_eq_error_iff.mp hregister
      exact .taken htaken
  | enrol given =>
    simp only [serve, enrol]
    cases hregister : r.register (given.getD .standard) with
    | ok roster => exact .enrolled (register_eq_ok_iff.mp hregister).1
    | error e =>
      obtain ⟨rfl, htaken⟩ := register_eq_error_iff.mp hregister
      exact .enrolledBefore htaken
  | get name =>
    simp only [serve]
    cases hget : r.get name with
    | ok checker =>
      obtain ⟨hmem, rfl⟩ := get_eq_ok_iff.mp hget
      exact .found hmem
    | error e =>
      obtain ⟨rfl, hnone⟩ := get_eq_error_iff.mp hget
      exact .unknown hnone
  | contains name => exact .contains contains_iff
  | size => exact .size
  | checkers => exact .checkers

/-- A registration is granted exactly if none of a checker of its name was granted before. -/
theorem Answered.granted_iff {done : List Settings} (h : Answered done request outcome)
    (hadded : request.added? = some checker) :
    (∃ answer, outcome = .ok answer) ↔ ∀ c ∈ done, c.checkerName ≠ checker.checkerName := by
  have hrefused {e : RosterError} (htaken : ∃ c ∈ done, c.checkerName = checker.checkerName) :
      (∃ answer, (.error e : Outcome) = .ok answer) ↔
        ∀ c ∈ done, c.checkerName ≠ checker.checkerName := by
    obtain ⟨c, hc, hname⟩ := htaken
    constructor
    · rintro ⟨answer, hanswer⟩
      cases hanswer
    · intro hnew
      exact absurd hname (hnew c hc)
  cases h with
  | registered hnew =>
    cases hadded
    exact ⟨fun _ => hnew, fun _ => ⟨_, rfl⟩⟩
  | enrolled hnew =>
    cases hadded
    exact ⟨fun _ => hnew, fun _ => ⟨_, rfl⟩⟩
  | taken htaken =>
    cases hadded
    exact hrefused htaken
  | enrolledBefore htaken =>
    cases hadded
    exact hrefused htaken
  | found => cases hadded
  | unknown => cases hadded
  | contains => cases hadded
  | size => cases hadded
  | checkers => cases hadded

/-! ### Runs -/

theorem requests_serveAll (r : Roster) (requests : List Request) :
    (r.serveAll requests).1.map Prod.fst = requests := by
  induction requests generalizing r with
  | nil => rfl
  | cons request rest ih => exact congrArg (request :: ·) (ih (r.serve request).2)

/-- A run adds to the roster what its history has registered. -/
theorem checkers_serveAll (r : Roster) (requests : List Request) :
    (r.serveAll requests).2.checkers = r.checkers ++ registered (r.serveAll requests).1 := by
  induction requests generalizing r with
  | nil => exact (List.append_nil _).symm
  | cons request rest ih =>
    have hrest := ih (r.serve request).2
    rw [checkers_serve, List.append_assoc, ← registered_append] at hrest
    exact hrest

/-- Each request of a run is answered by what was registered before it. -/
theorem answered_serveAll {requests : List Request} {before after : List (Request × Outcome)}
    (h : (r.serveAll requests).1 = before ++ (request, outcome) :: after) :
    Answered (r.checkers ++ registered before) request outcome := by
  induction requests generalizing r before with
  | nil => simp [serveAll] at h
  | cons asked rest ih =>
    change (asked, (r.serve asked).1) :: ((r.serve asked).2.serveAll rest).1 = _ at h
    cases before with
    | nil =>
      obtain ⟨hfirst, -⟩ := List.cons.inj h
      cases hfirst
      rw [registered_nil, List.append_nil]
      exact answered_serve r request
    | cons event before =>
      obtain ⟨hfirst, hrest⟩ := List.cons.inj h
      cases hfirst
      have hanswered := ih hrest
      rw [checkers_serve, List.append_assoc, ← registered_append] at hanswered
      exact hanswered

/-- A roster has the checkers `done`, of different names, and tells of these and no others. -/
structure TellsOf (r : Roster) (done : List Settings) : Prop where
  order : r.checkers = done
  distinct : (done.map Settings.checkerName).Nodup
  size : r.size = done.length
  contains : ∀ name, r.contains name = true ↔ ∃ c ∈ done, c.checkerName = name
  found : ∀ name checker, r.get name = .ok checker ↔ checker ∈ done ∧ checker.checkerName = name
  unknown : ∀ name e, r.get name = .error e ↔
    e = .unknown name ∧ ∀ c ∈ done, c.checkerName ≠ name

theorem tellsOf_checkers (r : Roster) : r.TellsOf r.checkers where
  order := rfl
  distinct := r.distinct
  size := rfl
  contains _ := contains_iff
  found _ _ := get_eq_ok_iff
  unknown _ _ := get_eq_error_iff

/-- After any run of requests, a roster that was empty at first tells of the checkers whose
registration was granted in the run, in the order of the requests, and each of the requests was
answered by what was registered before it. A registration was granted exactly if none of its name
was granted before it, and a request that is refused changes nothing. -/
theorem roster_follows_history (requests : List Request) :
    ∃ history r, empty.serveAll requests = (history, r) ∧ history.map Prod.fst = requests ∧
      r.TellsOf (registered history) ∧
      (∀ before request outcome after, history = before ++ (request, outcome) :: after →
        Answered (registered before) request outcome ∧
          ∀ checker, request.added? = some checker →
            ((∃ answer, outcome = .ok answer) ↔
              ∀ c ∈ registered before, c.checkerName ≠ checker.checkerName)) ∧
      ∀ next e, (r.serve next).1 = .error e → (r.serve next).2 = r := by
  refine ⟨_, _, rfl, requests_serveAll _ _, ?tells, ?answered, fun next e => serve_of_error⟩
  case tells =>
    have hcheckers := checkers_serveAll empty requests
    rw [checkers_empty_append] at hcheckers
    exact hcheckers ▸ tellsOf_checkers _
  case answered =>
    intro before request outcome after hsplit
    have hanswered := answered_serveAll hsplit
    rw [checkers_empty_append] at hanswered
    exact ⟨hanswered, fun checker => hanswered.granted_iff⟩

/-- Settings of a checker of another name. -/
def strict : Settings :=
  { Settings.standard with checkerName := "biome-strict" }

/-- The standard checker registered twice, and one of another name between. -/
theorem roster_follows_history_of_repeated :
    ∃ history r,
      empty.serveAll [.enrol none, .register strict, .register .standard, .get "biome-strict"] =
        (history, r) ∧
      registered history = [.standard, strict] ∧ r.TellsOf [.standard, strict] ∧
      Answered [.standard, strict] (.register .standard) (.error (.registered "biome")) := by
  obtain ⟨history, r, hserve, -, htells, hanswered, -⟩ :=
    roster_follows_history [.enrol none, .register strict, .register .standard, .get "biome-strict"]
  cases hserve
  exact ⟨_, _, rfl, by decide, htells, (hanswered [_, _] _ _ [_] rfl).1⟩

end LintBridge.Roster
