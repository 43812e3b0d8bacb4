import LintBridge.Json
import LintBridge.Machine.Basic
import LintBridge.Text.Hexadecimal
import LintBridge.Text.Utf8

/-!
Machines described by JSON documents.

A description is an object with any of these members: `cwd`; `env`, from variables to values, `null`
taking a variable away; `files`, from paths to contents, `null` being a directory; `exec`,
`unreadable` and `denied`, which list paths; and `spawn`, from first arguments to scripts. A content
is a text, which stands for its UTF-8 bytes, or an object with the bytes in hexadecimal digits under
`hex`.

A script that ends has `rc`, `out` and `err`; one that is stopped has `timeout`, and output that may
be `null`; one that does not start has the class of its failure under `failure`, with `label` and
`message`; of an earlier command that failed, `label` is its program and `rc` its status.
-/

namespace LintBridge

/-- The bytes that pairs of hexadecimal digits stand for. -/
def bytesOfHex? : List Char → Option (List UInt8)
  | [] => some []
  | a :: b :: rest => do
      let byte ← Text.hexValue? [a, b]
      return UInt8.ofNat byte :: (← bytesOfHex? rest)
  | [_] => none

/-- The bytes of a content. -/
def bytesOfJson? : Json → Option (List UInt8)
  | .str s => some (Text.Utf8.encode s.toList)
  | document => do bytesOfHex? (← (document.member "hex").text?).toList

/-- What stands at a path. -/
def Entry.ofJson? : Json → Option Entry
  | .null => some .directory
  | document => (bytesOfJson? document).map .file

/-- The failure of a start, by its class. -/
def StartFailure.ofJson? (document : Json) : Option StartFailure := do
  let label := ((document.member "label").text?).getD ""
  let message := ((document.member "message").text?).getD ""
  match ← (document.member "failure").text? with
  | "system" => return .system label message
  | "refused-value" => return .refusedValue label message
  | "undecodable" => return .undecodable ⟨0xFF, 0, 1, message⟩
  | "earlier-command" =>
      return .earlierCommand label (((document.member "rc").int?).getD 1) message
  | "other" => return .other label message
  | _ => none

/-- The bytes that a script prints; without the member it prints nothing. -/
def outputOfJson? (document : Json) (name : String) : Option (List UInt8) :=
  match document.member name with
  | .null => some []
  | content => bytesOfJson? content

/-- What a program does. -/
def Script.ofJson? (document : Json) : Option Script :=
  match document.member "failure", document.member "timeout" with
  | .null, .bool true =>
      some (.stopped (bytesOfJson? (document.member "out")) (bytesOfJson? (document.member "err")))
  | .null, _ => do
      let status := ((document.member "rc").int?).getD 0
      return .finishes status (← outputOfJson? document "out") (← outputOfJson? document "err")
  | _, _ => (StartFailure.ofJson? document).map .fails

namespace Machine

/-- A machine with nothing but the usual environment and one account. -/
def standard : Machine where
  cwd := []
  isPathName_of_mem_cwd _ h := nomatch h
  environment := [("PATH", "/usr/bin:/bin"), ("HOME", "/home/dev")]
  account := "root"
  homes := [("root", "/root")]
  entries := []
  executable := []
  unreadable := []
  sealed := []
  scripts := []

/-- The places that a list of texts names. -/
def placesOf (document : Json) : List Place :=
  (document.items.filterMap Json.text?).map placeOfText

/-- Sets and takes away variables. -/
def withVariables (document : Json) (m : Machine) : Machine :=
  document.pairs.foldl (fun m (name, value) => m.setVariable name value.text?) m

/-- Puts files and directories. -/
def withFiles? (document : Json) (m : Machine) : Option Machine :=
  document.pairs.foldlM
    (fun m (path, content) => do return m.put (placeOfText path) (← Entry.ofJson? content)) m

/-- Says what programs do. -/
def withScripts? (document : Json) (m : Machine) : Option Machine :=
  document.pairs.foldlM
    (fun m (key, script) => do return m.setScript key (← Script.ofJson? script)) m

/-- The machine of a description. -/
def ofJson? (document : Json) : Option Machine := do
  let cwd := ((document.member "cwd").text?).getD "/work"
  let m := standard.withVariables (document.member "env")
  let m ← m.withFiles? (document.member "files")
  let m := (placesOf (document.member "exec")).foldl (fun m place => m.allowExecution place) m
  let m := m.enter cwd
  let m ← m.withScripts? (document.member "spawn")
  return { m with
    unreadable := placesOf (document.member "unreadable")
    sealed := placesOf (document.member "denied") }

end Machine
end LintBridge
