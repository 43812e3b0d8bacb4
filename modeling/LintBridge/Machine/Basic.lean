import LintBridge.Assoc
import LintBridge.Decimal.Binary64
import LintBridge.Machine.Path
import LintBridge.Text.Utf8

/-!
The machine that a checker sees: its files, its environment, its accounts, and what its programs do
when they are started.

A place is the list of names from the root down to a file or directory. Permissions are sets of
places. Programs are told apart by the first argument that they are started with.
-/

namespace LintBridge

/-- What stands at a place. -/
inductive Entry where
  | file (bytes : List UInt8)
  | directory
deriving DecidableEq, Repr

/-- Why a program could not be started: an error of the system, a value that the start refuses,
output that is no text, an earlier command that failed, or anything else. The label is the name
under which the error is reported. -/
inductive StartFailure where
  | system (label message : String)
  | refusedValue (label message : String)
  | undecodable (error : Text.Utf8.DecodeError)
  | earlierCommand (program : String) (status : Int) (stderr : String)
  | other (label message : String)
deriving DecidableEq, Repr

/-- What a start says to an argument that holds a null character. -/
def StartFailure.nullCharacter : StartFailure :=
  .refusedValue "null character" "embedded null byte"

/-- What a program does: it ends with a status, it is stopped by the timeout, or it does not start.
Output of a stopped program may be missing. -/
inductive Script where
  | finishes (status : Int) (out err : List UInt8)
  | stopped (out err : Option (List UInt8))
  | fails (failure : StartFailure)
deriving DecidableEq, Repr

/-- What becomes of a script that is started with arguments. None starts with a null character among
them. -/
def Script.startedWith (arguments : List String) (script : Script) : Script :=
  if arguments.any (·.toList.contains '\x00') then .fails .nullCharacter else script

/-- A place among the files: the names from the root down to it. -/
abbrev Place := List String

/-- The files, the environment, the accounts and the programs of a machine. -/
structure Machine where
  cwd : Place
  isPathName_of_mem_cwd : ∀ name ∈ cwd, isPathName name = true
  environment : List (String × String)
  /-- The account that programs run under. -/
  account : String
  /-- The home directories of accounts. -/
  homes : List (String × String)
  entries : List (Place × Entry)
  /-- Files that may be executed. -/
  executable : List Place
  /-- Files that may not be opened. -/
  unreadable : List Place
  /-- Directories that may not be searched. -/
  sealed : List Place
  scripts : List (String × Script)
deriving Repr

namespace Machine

/-- The value of a variable of the environment. -/
def valueOf? (m : Machine) (name : String) : Option String :=
  List.lookup name m.environment

/-- What stands at a place. The root is always a directory. -/
def entry? (m : Machine) (place : Place) : Option Entry :=
  match place with
  | [] => some .directory
  | _ => List.lookup place m.entries

/-- What the program does that is started with these arguments; a program without script ends well
and prints nothing. -/
def script (m : Machine) (arguments : List String) : Script :=
  ((List.lookup (arguments.getD 1 "") m.scripts).getD (.finishes 0 [] [])).startedWith arguments

/-! ### Changing a machine -/

/-- Goes from a place to the one that a name leads to, two points being the one above. -/
def placeBelow (place : Place) (name : String) : Place :=
  if name = ".." then place.dropLast else place ++ [name]

/-- The place that a path names when it is taken from the root, two points going one name up. -/
def placeOf (p : Path) : Place :=
  p.names.foldl placeBelow []

theorem isPathName_of_mem_placeBelow {place : Place} {name : String}
    (hplace : ∀ n ∈ place, isPathName n = true) (hname : isPathName name = true) :
    ∀ n ∈ placeBelow place name, isPathName n = true := by
  unfold placeBelow
  split
  · exact fun n hn => hplace n ((List.dropLast_sublist place).subset hn)
  · exact List.forall_mem_append.mpr ⟨hplace, List.forall_mem_singleton.mpr hname⟩

theorem isPathName_of_mem_placeOf (p : Path) : ∀ n ∈ placeOf p, isPathName n = true :=
  List.foldlRecOn (motive := fun place => ∀ n ∈ place, isPathName n = true) p.names placeBelow
    (fun _ h => nomatch h)
    fun _ hplace name hname => isPathName_of_mem_placeBelow hplace (p.isPathName_of_mem name hname)

/-- The place that a text names. -/
def placeOfText (text : String) : Place :=
  placeOf (.parse text)

/-- Makes sure of a directory and of all above it. -/
def makeDirectory (place : Place) (m : Machine) : Machine :=
  (List.range (place.length + 1)).foldl
    (fun m count =>
      let above := place.take count
      if (m.entry? above).isSome then m
      else { m with entries := Assoc.put above .directory m.entries })
    m

/-- Puts an entry at a place, in directories made for it. -/
def put (place : Place) (entry : Entry) (m : Machine) : Machine :=
  let m := m.makeDirectory place.dropLast
  { m with entries := Assoc.put place entry m.entries }

/-- Takes away what stands at a place and all below. -/
def remove (place : Place) (m : Machine) : Machine :=
  { m with entries := m.entries.filter fun (p, _) => !place.isPrefixOf p }

/-- Sets a variable, or takes it away. -/
def setVariable (name : String) (value : Option String) (m : Machine) : Machine :=
  { m with
    environment :=
      match value with
      | some v => Assoc.put name v m.environment
      | none => m.environment.filter (·.1 != name) }

/-- Says what the programs do that are started with a first argument. -/
def setScript (key : String) (script : Script) (m : Machine) : Machine :=
  { m with scripts := Assoc.put key script m.scripts }

/-- Goes to the directory that a text names, which is made if it is missing. -/
def enter (text : String) (m : Machine) : Machine :=
  { m.makeDirectory (placeOfText text) with
    cwd := placeOfText text
    isPathName_of_mem_cwd := isPathName_of_mem_placeOf (.parse text) }

/-- Lets a file be executed, which is made empty if it is missing. -/
def allowExecution (place : Place) (m : Machine) : Machine :=
  let m := if (m.entry? place).isSome then m else m.put place (.file [])
  { m with executable := place :: m.executable }

end Machine
end LintBridge
