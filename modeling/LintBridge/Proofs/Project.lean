import LintBridge.Project
import LintBridge.Proofs.Machine.Lookup
import LintBridge.Proofs.Machine.Ran

/-!
The directory of a project.

A search ends at the first directory that holds a marker, and there at the first marker of the list
that it holds (`firstIn_eq_some_iff`, `markerIn_eq_some_iff`). So the order of the markers decides
which of them is found, but not the directory: searches by the same markers in another order end at
the same directory (`directory_firstIn_congr`). That is why the linter runs where the config is that
makes a path fit for linting, though the two names are looked for in opposite orders.
-/

namespace LintBridge.Project

variable {m : Machine} {directory : Path} {directories : List Path} {markers markers' : List Marker}
  {names : MarkerNames} {path : String}

/-! ### The markers of a directory -/

/-- A directory without marker holds none of them. -/
theorem markerIn_eq_none_iff : markerIn m directory markers = .ok none ↔
    ∀ k ∈ markers, m.pathExists (directory.join k.name) = .ok false := by
  induction markers with
  | nil => simp [markerIn]
  | cons k rest ih =>
    rw [List.forall_mem_cons, ← ih, markerIn]
    cases hk : m.pathExists (directory.join k.name) with
    | error e => simp [bind, Except.bind]
    | ok held => cases held <;> simp [bind, Except.bind, pure, Except.pure]

/-- The marker of a directory is the first of the list that it holds. -/
theorem markerIn_eq_some_iff {p : Project} : markerIn m directory markers = .ok (some p) ↔
    ∃ before k after, markers = before ++ k :: after ∧
      (∀ k' ∈ before, m.pathExists (directory.join k'.name) = .ok false) ∧
      m.pathExists (directory.join k.name) = .ok true ∧
      p = ⟨directory, k.kind, directory.join k.name⟩ := by
  induction markers with
  | nil => simp [markerIn]
  | cons k rest ih =>
    rw [markerIn]
    constructor
    · intro h
      obtain ⟨held, hheld, h⟩ := Ran.except_bind_eq_ok.mp h
      cases held with
      | true =>
        cases h
        exact ⟨[], k, rest, rfl, by simp, hheld, rfl⟩
      | false =>
        obtain ⟨before, k', after, rfl, hbefore, hk', hp⟩ := ih.mp h
        exact ⟨k :: before, k', after, rfl, List.forall_mem_cons.mpr ⟨hheld, hbefore⟩, hk', hp⟩
    · rintro ⟨before, k', after, hsplit, hbefore, hk', rfl⟩
      cases before with
      | nil =>
        cases hsplit
        simp [hk', bind, Except.bind, pure, Except.pure]
      | cons first more =>
        cases hsplit
        obtain ⟨hfirst, hmore⟩ := List.forall_mem_cons.mp hbefore
        rw [hfirst]
        exact ih.mpr ⟨more, k', after, rfl, hmore, hk', rfl⟩

/-- Whether a directory holds a marker does not depend on the order of the markers. -/
theorem markerIn_eq_none_congr (h : ∀ k, k ∈ markers ↔ k ∈ markers') :
    markerIn m directory markers = .ok none ↔ markerIn m directory markers' = .ok none := by
  simp only [markerIn_eq_none_iff, h]

theorem directory_of_markerIn {p : Project} (h : markerIn m directory markers = .ok (some p)) :
    p.directory = directory := by
  obtain ⟨before, k, after, -, -, -, rfl⟩ := markerIn_eq_some_iff.mp h
  rfl

theorem kind_of_markerIn {p : Project} (h : markerIn m directory markers = .ok (some p)) :
    ∃ k ∈ markers, p.marker = k.kind := by
  obtain ⟨before, k, after, rfl, -, -, rfl⟩ := markerIn_eq_some_iff.mp h
  exact ⟨k, by simp, rfl⟩

/-! ### The nearest directory -/

theorem firstIn_eq_none_iff : firstIn m markers directories = .ok none ↔
    ∀ d ∈ directories, markerIn m d markers = .ok none := by
  induction directories with
  | nil => simp [firstIn]
  | cons d rest ih =>
    rw [List.forall_mem_cons, ← ih, firstIn]
    cases hd : markerIn m d markers with
    | error e => simp [bind, Except.bind]
    | ok found => cases found <;> simp [bind, Except.bind, pure, Except.pure]

/-- The nearest project is in the first directory that holds a marker. -/
theorem firstIn_eq_some_iff {p : Project} : firstIn m markers directories = .ok (some p) ↔
    ∃ before after, directories = before ++ p.directory :: after ∧
      (∀ d ∈ before, markerIn m d markers = .ok none) ∧
      markerIn m p.directory markers = .ok (some p) := by
  induction directories with
  | nil => simp [firstIn]
  | cons d rest ih =>
    rw [firstIn]
    constructor
    · intro h
      obtain ⟨found, hfound, h⟩ := Ran.except_bind_eq_ok.mp h
      cases found with
      | some q =>
        cases h
        have hd := directory_of_markerIn hfound
        exact ⟨[], rest, by simp [hd], by simp, hd ▸ hfound⟩
      | none =>
        obtain ⟨before, after, rfl, hbefore, hp⟩ := ih.mp h
        exact ⟨d :: before, after, rfl, List.forall_mem_cons.mpr ⟨hfound, hbefore⟩, hp⟩
    · rintro ⟨before, after, hsplit, hbefore, hp⟩
      cases before with
      | nil =>
        cases hsplit
        simp [hp, bind, Except.bind, pure, Except.pure]
      | cons first more =>
        cases hsplit
        obtain ⟨hfirst, hmore⟩ := List.forall_mem_cons.mp hbefore
        rw [hfirst]
        exact ih.mpr ⟨more, after, rfl, hmore, hp⟩

/-- The directory of the nearest project does not depend on the order of the markers. -/
theorem directory_firstIn_congr (hmarkers : ∀ k, k ∈ markers ↔ k ∈ markers')
    {found found' : Option Project} (h : firstIn m markers directories = .ok found)
    (h' : firstIn m markers' directories = .ok found') :
    found.map (·.directory) = found'.map (·.directory) := by
  induction directories with
  | nil =>
    cases h
    cases h'
    rfl
  | cons d rest ih =>
    rw [firstIn] at h h'
    obtain ⟨here, hhere, h⟩ := Ran.except_bind_eq_ok.mp h
    obtain ⟨here', hhere', h'⟩ := Ran.except_bind_eq_ok.mp h'
    -- either list finds a marker in the directory, or neither does
    have hnone : here = none ↔ here' = none := by
      have hcongr : markerIn m d markers = .ok none ↔ markerIn m d markers' = .ok none :=
        markerIn_eq_none_congr hmarkers
      simpa [hhere, hhere'] using hcongr
    cases here with
    | none =>
      cases hnone.mp rfl
      exact ih h h'
    | some p =>
      cases here' with
      | none => exact absurd (hnone.mpr rfl) (by simp)
      | some p' =>
        cases h
        cases h'
        simp [directory_of_markerIn hhere, directory_of_markerIn hhere']

/-! ### Where a search fails -/

/-- The paths at which a search looks for markers, in their order. -/
def candidates (markers : List Marker) (directories : List Path) : List Path :=
  directories.flatMap fun d => markers.map fun k => d.join k.name

/-- A search along some paths that comes to a path which cannot be looked up, having found nothing
before it. -/
inductive StopsAt (m : Machine) : List Path → Path → Prop
  | here {p : Path} {rest : List Path} : m.Barred p → StopsAt m (p :: rest) p
  | later {p q : Path} {rest : List Path} :
      m.pathExists q = .ok false → StopsAt m rest p → StopsAt m (q :: rest) p

theorem stopsAt_append_iff {p : Path} {front back : List Path} :
    StopsAt m (front ++ back) p ↔
      StopsAt m front p ∨ (∀ q ∈ front, m.pathExists q = .ok false) ∧ StopsAt m back p := by
  induction front with
  | nil => exact ⟨fun h => .inr ⟨by simp, h⟩, fun | .inr h => h.2⟩
  | cons q front ih =>
    constructor
    · rintro (hbarred | ⟨hq, h⟩)
      · exact .inl (.here hbarred)
      · rcases ih.mp h with h | ⟨hfront, h⟩
        · exact .inl (.later hq h)
        · exact .inr ⟨List.forall_mem_cons.mpr ⟨hq, hfront⟩, h⟩
    · rintro ((hbarred | ⟨hq, h⟩) | ⟨hfront, h⟩)
      · exact .here hbarred
      · exact .later hq (ih.mpr (.inl h))
      · obtain ⟨hq, hfront⟩ := List.forall_mem_cons.mp hfront
        exact .later hq (ih.mpr (.inr ⟨hfront, h⟩))

theorem markerIn_eq_error_iff {e : AccessError} : markerIn m directory markers = .error e ↔
    ∃ p, StopsAt m (markers.map fun k => directory.join k.name) p ∧ e = .denied p.text := by
  induction markers with
  | nil =>
    constructor
    · intro h
      cases h
    · rintro ⟨p, h, -⟩
      cases h
  | cons k rest ih =>
    have hbind : markerIn m directory (k :: rest) =
        (m.pathExists (directory.join k.name)).bind fun held =>
          if held then .ok (some ⟨directory, k.kind, directory.join k.name⟩)
          else markerIn m directory rest := rfl
    rw [hbind, Ran.except_bind_eq_error]
    constructor
    · rintro (h | ⟨_ | _, hheld, h⟩)
      · obtain ⟨hbarred, rfl⟩ := Machine.pathExists_eq_error_iff.mp h
        exact ⟨_, .here hbarred, rfl⟩
      · obtain ⟨p, hp, rfl⟩ := ih.mp h
        exact ⟨p, .later hheld hp, rfl⟩
      · cases h
    · rintro ⟨p, hbarred | ⟨hheld, hp⟩, rfl⟩
      · exact .inl (Machine.pathExists_eq_error_iff.mpr ⟨hbarred, rfl⟩)
      · exact .inr ⟨false, hheld, ih.mpr ⟨p, hp, rfl⟩⟩

/-- A search along directories fails exactly where it comes to a path that cannot be looked up, and
tells that path. -/
theorem firstIn_eq_error_iff {e : AccessError} : firstIn m markers directories = .error e ↔
    ∃ p, StopsAt m (candidates markers directories) p ∧ e = .denied p.text := by
  induction directories with
  | nil =>
    constructor
    · intro h
      cases h
    · rintro ⟨p, h, -⟩
      cases h
  | cons d rest ih =>
    have hbind : firstIn m markers (d :: rest) =
        (markerIn m d markers).bind fun found =>
          found.elim (firstIn m markers rest) fun project => .ok (some project) := by
      rw [firstIn]
      cases markerIn m d markers with
      | error e => rfl
      | ok found => cases found <;> rfl
    rw [hbind, Ran.except_bind_eq_error]
    have hnone : markerIn m d markers = .ok none ↔
        ∀ q ∈ markers.map fun k => d.join k.name, m.pathExists q = .ok false := by
      rw [markerIn_eq_none_iff, List.forall_mem_map]
    simp only [candidates, List.flatMap_cons, stopsAt_append_iff]
    constructor
    · rintro (h | ⟨_ | project, hfound, h⟩)
      · obtain ⟨p, hp, rfl⟩ := markerIn_eq_error_iff.mp h
        exact ⟨p, .inl hp, rfl⟩
      · obtain ⟨p, hp, rfl⟩ := ih.mp h
        exact ⟨p, .inr ⟨hnone.mp hfound, hp⟩, rfl⟩
      · cases h
    · rintro ⟨p, hp | ⟨hheld, hp⟩, rfl⟩
      · exact .inl (markerIn_eq_error_iff.mpr ⟨p, hp, rfl⟩)
      · exact .inr ⟨none, hnone.mpr hheld, ih.mpr ⟨p, hp, rfl⟩⟩

/-- The directories of an absolute path are known unless it cannot be looked up. -/
theorem directories_of_anchored {target : Path} (h : m.anchored path = .ok target) :
    Project.directories m path = (m.isDirectory target).map fun isDirectory =>
      (if isDirectory then target else target.parent).ancestors := by
  rw [Project.directories, h]
  rfl

/-! ### The two searches -/

theorem directory_search_congr (hmarkers : ∀ k, k ∈ markers ↔ k ∈ markers')
    {found found' : Option Project} (h : search m markers path = .ok found)
    (h' : search m markers' path = .ok found') :
    found.map (·.directory) = found'.map (·.directory) := by
  obtain ⟨directories, hdirectories, h⟩ := Ran.except_bind_eq_ok.mp h
  obtain ⟨directories', hdirectories', h'⟩ := Ran.except_bind_eq_ok.mp h'
  cases hdirectories.symm.trans hdirectories'
  exact directory_firstIn_congr hmarkers h h'

theorem kind_of_search {p : Project} (h : search m markers path = .ok (some p)) :
    ∃ k ∈ markers, p.marker = k.kind := by
  obtain ⟨directories, -, h⟩ := Ran.except_bind_eq_ok.mp h
  obtain ⟨before, after, -, -, hp⟩ := firstIn_eq_some_iff.mp h
  exact kind_of_markerIn hp

/-- The config files, in the order in which they are looked for to run the linter. -/
def configs (names : MarkerNames) : List Marker :=
  [⟨names.primary, .primaryConfig⟩, ⟨names.secondary, .secondaryConfig⟩]

/-- The project that the linter runs in is that of the nearest config, or else that of the nearest
dependencies. -/
theorem locate_eq_ok_iff {located : Option Project} : locate m names path = .ok located ↔
    (∃ p, search m (configs names) path = .ok (some p) ∧ located = some p) ∨
      search m (configs names) path = .ok none ∧
        search m [⟨names.dependencies, .dependencies⟩] path = .ok located := by
  unfold locate
  show (Except.bind (search m (configs names) path) _ = _) ↔ _
  cases search m (configs names) path with
  | error e => simp [Except.bind]
  | ok found =>
    cases found with
    | none => simp [Except.bind]
    | some p => simp [Except.bind, pure, Except.pure, eq_comm]

theorem result_forLinter : (forLinter m names path).result = locate m names path := by
  rw [forLinter, Ran.bind_eq, Ran.result_andThen]
  cases h : locate m names path with
  | error e => rfl
  | ok located => cases located <;> rfl

/-- Both searches look for the same config files. -/
theorem directory_find {found configured : Option Project} (hfind : find m names path = .ok found)
    (hsearch : search m (configs names) path = .ok configured) :
    found.map (·.directory) = configured.map (·.directory) :=
  directory_search_congr (fun k => by simp [configs, or_comm]) hfind hsearch

/-- Where a config applies to a path, the linter runs in the directory of that config. -/
theorem locate_of_find_some {p : Project} {located : Option Project}
    (hfind : find m names path = .ok (some p)) (hlocate : locate m names path = .ok located) :
    ∃ q, located = some q ∧ q.directory = p.directory ∧ q.marker ≠ .dependencies := by
  rcases locate_eq_ok_iff.mp hlocate with ⟨q, hq, rfl⟩ | ⟨hnone, -⟩
  · obtain ⟨k, hk, hkind⟩ := kind_of_search hq
    have hdirectory := directory_find hfind hq
    refine ⟨q, rfl, by simpa using hdirectory.symm, ?_⟩
    simp only [configs, List.mem_cons, List.not_mem_nil, or_false] at hk
    rcases hk with rfl | rfl <;> simp [hkind]
  · have hdirectory := directory_find hfind hnone
    simp at hdirectory

/-- Where no config applies to a path, the linter runs in the directory of the dependencies, if in
any. -/
theorem locate_of_find_none {q : Project} (hfind : find m names path = .ok none)
    (hlocate : locate m names path = .ok (some q)) : q.marker = .dependencies := by
  rcases locate_eq_ok_iff.mp hlocate with ⟨p, hp, -⟩ | ⟨-, hsearch⟩
  · have hdirectory := directory_find hfind hp
    simp at hdirectory
  · obtain ⟨k, hk, hkind⟩ := kind_of_search hsearch
    cases List.mem_singleton.mp hk
    exact hkind

/-- Where a config applies to a path, it does not matter what marks the dependencies. -/
theorem locate_dependencies_irrelevant {p : Project} (hfind : find m names path = .ok (some p))
    (dependencies : String) :
    locate m { names with dependencies } path = locate m names path := by
  show Except.bind (search m (configs names) path) _ = Except.bind (search m (configs names) path) _
  cases hsearch : search m (configs names) path with
  | error e => rfl
  | ok found =>
    cases found with
    | some q => rfl
    | none =>
      have hdirectory := directory_find hfind hsearch
      simp at hdirectory

end LintBridge.Project
