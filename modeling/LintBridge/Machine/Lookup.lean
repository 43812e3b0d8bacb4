import LintBridge.Machine.Basic
import LintBridge.Text.Quoted
import LintBridge.Text.Blank
import LintBridge.Text.Half

/-!
Looking for files.

A lookup goes name by name: each name is looked for in a directory that may be searched, and two
points lead one directory up. It ends at a place, at nothing, or at a directory that may not be
searched; the last is an error for whoever asked, told with the path as it was given.

There is no limit here on the length of a name or of a path: a name that a file system would refuse
as too long leads to what stands under it, or to nothing.
-/

namespace LintBridge

/-- Why a question about files has no answer. -/
inductive AccessError where
  | denied (path : String)
  | noHome
deriving DecidableEq, Repr

def AccessError.message : AccessError → String
  | .denied path => "[Errno 13] Permission denied: " ++ Text.quoted path
  | .noHome => "Could not determine home directory."

/-- How a lookup ends that finds nothing. -/
inductive Miss where
  | absent
  | denied
deriving DecidableEq, Repr

namespace Machine

/-- Follows steps from a place on. -/
def walk (m : Machine) : Place → List String → Except Miss Place
  | place, [] => if (m.entry? place).isSome then .ok place else .error .absent
  | place, step :: rest =>
      if m.entry? place ≠ some .directory then .error .absent
      else if m.sealed.contains place then .error .denied
      else if step = "" ∨ step = "." then walk m place rest
      else if step = ".." then walk m place.dropLast rest
      else walk m (place ++ [step]) rest

/-- The steps that a lookup takes from the root before those of a path. -/
def stepsTo (m : Machine) : Anchor → List String
  | .here => m.cwd
  | _ => []

/-- Whether a text can be a name of files: it has bytes, and none of them is null. -/
def isFileName (text : String) : Bool :=
  text.toList.all fun c => c != '\x00' && !Text.isForeignHalf c

/-- The place that steps lead to from an anchor. The way to the machine's own directory is part of
the lookup. -/
def follow (m : Machine) (anchor : Anchor) (steps : List String) : Except Miss Place :=
  if !steps.all isFileName then .error .absent
  else m.walk [] (m.stepsTo anchor ++ steps)

/-- The place that a path leads to. -/
def locate (m : Machine) (p : Path) : Except AccessError (Option Place) :=
  match m.follow p.anchor p.names with
  | .ok place => .ok (some place)
  | .error .absent => .ok none
  | .error .denied => .error (.denied p.text)

/-- The place that a text leads to, taken as it is written: a slash at its end asks for a directory.
-/
def locateText? (m : Machine) (text : String) : Option Place :=
  if text = "" then none
  else
    match m.follow (.of text.toList) (Path.steps text) with
    | .ok place => some place
    | .error _ => none

/-- What a path leads to. -/
def stat (m : Machine) (p : Path) : Except AccessError (Option Entry) :=
  match m.locate p with
  | .ok place => .ok (place.bind m.entry?)
  | .error e => .error e

/-- Whether a path leads to anything. -/
def pathExists (m : Machine) (p : Path) : Except AccessError Bool := do
  return (← m.stat p).isSome

/-- Whether a path leads to a directory. -/
def isDirectory (m : Machine) (p : Path) : Except AccessError Bool := do
  return (← m.stat p) == some .directory

/-- Whether a path leads to a file. -/
def isFile (m : Machine) (p : Path) : Except AccessError Bool := do
  match ← m.stat p with
  | some (.file _) => return true
  | _ => return false

/-- The bytes of a file, or `none` if there is no file. -/
def read? (m : Machine) (p : Path) : Except AccessError (Option (List UInt8)) := do
  match ← m.locate p with
  | none => return none
  | some place =>
      match m.entry? place with
      | some (.file bytes) =>
          if m.unreadable.contains place then .error (.denied p.text) else return some bytes
      | _ => return none

/-! ### Anchored paths -/

/-- The path of the directory that the machine is in. -/
def cwdPath (m : Machine) : Path :=
  ⟨.root, m.cwd, m.isPathName_of_mem_cwd⟩

/-- The home directory that a first name starting with a tilde stands for: that of the environment
or of the machine's own account, or that of the account which is named behind the tilde. -/
def home? (m : Machine) (name : String) : Option String :=
  let home :=
    if name = "~" then (m.valueOf? "HOME").or (List.lookup m.account m.homes)
    else List.lookup (String.ofList (name.toList.drop 1)) m.homes
  home.bind fun text =>
    let trimmed := Text.dropEndWhile (· == '/') text.toList
    if trimmed.head? = some '~' then none
    else if trimmed = [] then some "/"
    else some (String.ofList trimmed)

/-- The path with a tilde at its start replaced by the home directory. -/
def expandHome (m : Machine) (p : Path) : Except AccessError Path :=
  match p.anchor, p.names.head? with
  | .here, some name =>
      if name.toList.head? = some '~' then
        match m.home? name with
        | some home => .ok ((Path.parse home).append p.names.tail p.isPathName_of_mem_tail)
        | none => .error .noHome
      else .ok p
  | _, _ => .ok p

/-- The absolute path of a path. -/
def absolute (m : Machine) (p : Path) : Path :=
  if p.isAbsolute then p else m.cwdPath.append p.names p.isPathName_of_mem

/-- The absolute path that a text names, with the home directory put in for a tilde. -/
def anchored (m : Machine) (text : String) : Except AccessError Path := do
  return m.absolute (← m.expandHome (.parse text))

end Machine
end LintBridge
