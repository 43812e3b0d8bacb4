import LintBridge.Machine.Lookup
import LintBridge.Machine.Ran

/-!
Projects. A project is a directory with a marker in it: one of two config files, or the directory of
the dependencies. The project of a path is looked for from the directory that holds the path
upwards; the nearest directory with a marker counts, and in one directory the first marker of a
list.

A project that makes a path fit for linting has a config file, and of the two the secondary one is
looked for first. The linter runs in a directory with a config file too, the primary one being
looked for first, and in that of the dependencies only if there is no config file at all.
-/

namespace LintBridge

/-- What a marker is. -/
inductive MarkerKind where
  | primaryConfig
  | secondaryConfig
  | dependencies
deriving DecidableEq, Repr

/-- The name of a kind, as findings and contexts show it. -/
def MarkerKind.name : MarkerKind → String
  | .primaryConfig => "primary-config"
  | .secondaryConfig => "secondary-config"
  | .dependencies => "dependency-dir"

/-- A name that marks a project. -/
structure Marker where
  name : String
  kind : MarkerKind
deriving DecidableEq, Repr

/-- A directory with the marker that was found in it. -/
structure Project where
  directory : Path
  marker : MarkerKind
  path : Path
deriving DecidableEq, Repr

/-- The names of the markers. -/
structure MarkerNames where
  primary : String
  secondary : String
  dependencies : String
deriving DecidableEq, Repr

/-- The names that apply where no others are set. -/
def MarkerNames.standard : MarkerNames := ⟨"biome.json", "biome.jsonc", "node_modules"⟩

namespace Project

/-- The directory that holds a path, or the path itself if it is a directory, and all above it. -/
def directories (m : Machine) (path : String) : Except AccessError (List Path) := do
  let p ← m.anchored path
  return (if ← m.isDirectory p then p else p.parent).ancestors

/-- The first of the markers that a directory holds. -/
def markerIn (m : Machine) (directory : Path) : List Marker → Except AccessError (Option Project)
  | [] => .ok none
  | marker :: rest => do
      let path := directory.join marker.name
      if ← m.pathExists path then return some ⟨directory, marker.kind, path⟩
      else markerIn m directory rest

/-- The first of the directories that holds one of the markers. -/
def firstIn (m : Machine) (markers : List Marker) :
    List Path → Except AccessError (Option Project)
  | [] => .ok none
  | directory :: rest => do
      match ← markerIn m directory markers with
      | some project => return some project
      | none => firstIn m markers rest

/-- The nearest project above a path by the markers. -/
def search (m : Machine) (markers : List Marker) (path : String) :
    Except AccessError (Option Project) := do
  firstIn m markers (← directories m path)

/-- The project whose config applies to a path. -/
def find (m : Machine) (names : MarkerNames) (path : String) :
    Except AccessError (Option Project) :=
  search m [⟨names.secondary, .secondaryConfig⟩, ⟨names.primary, .primaryConfig⟩] path

/-- The project that the linter runs in for a path, without the note that there is none. -/
def locate (m : Machine) (names : MarkerNames) (path : String) :
    Except AccessError (Option Project) := do
  let configs := [⟨names.primary, .primaryConfig⟩, ⟨names.secondary, .secondaryConfig⟩]
  match ← search m configs path with
  | some project => return some project
  | none => search m [⟨names.dependencies, .dependencies⟩] path

/-- The project that the linter runs in for a path. -/
def forLinter (m : Machine) (names : MarkerNames) (path : String) :
    Ran AccessError (Option Project) := do
  match ← .of (locate m names path) with
  | some project => return some project
  | none => do
      .note (.noMarker path)
      return none

end Project
end LintBridge
