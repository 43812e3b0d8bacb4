import LintBridge.Terminal.Tab
import LintBridge.Text.Newline

/-!
Messages on a console: good news, warnings and failures, each with an emoji in front and a colour of
its own, if these are wanted.

A console is made for each pair of choices, colour or not and emoji or not, when it is first needed.
Whether it can show colours is settled then, by whether there is a terminal at that moment. Whether
a message is given a colour is settled when it is written. There are four pairs of choices, so no
console is ever given up to make room for another.
-/

namespace LintBridge.Terminal

/-! ### Text of a message -/

/-- The lines that a message is written as, each in the parts between its tabs. -/
def messageLines (message : String) : List (List (List Char)) :=
  (Text.lines (message.toList.filter (!isDropped ·))).map tabParts

/-! ### Kinds of messages -/

/-- What a message is about. -/
inductive Tone where
  | good
  | caution
  | bad
deriving DecidableEq, Repr

/-- The emoji in front of a message. -/
def Tone.emoji : Tone → String
  | .good => "✅ "
  | .caution => "⚠️ "
  | .bad => "❌ "

/-- The number of the colour of a message. -/
def Tone.colour : Tone → String
  | .good => "32"
  | .caution => "33"
  | .bad => "31"

/-- A text, or nothing if it is not wanted. -/
def optional (wanted : Bool) (text : String) : String :=
  if wanted then text else ""

/-- A part of a line between the codes that switch a colour on and off; an empty part has none. -/
def colourPart (tone : Tone) (part : List Char) : List Char :=
  if part = [] then []
  else ("\x1b[" ++ tone.colour ++ "m").toList ++ part ++ "\x1b[0m".toList

/-- Lines with a line feed behind each. -/
def joinLines (lines : List (List Char)) : String :=
  String.ofList (lines.flatMap (· ++ ['\n']))

/-- What is written for a message. -/
def written (tone : Tone) (emoji coloured : Bool) (message : String) : String :=
  let lines := messageLines (optional emoji tone.emoji ++ message)
  joinLines <| lines.map fun parts =>
    (if coloured then parts.map (colourPart tone) else parts).flatten

/-! ### Consoles -/

/-- The choices that a console is made for. -/
structure Choice where
  colour : Bool
  emoji : Bool
deriving DecidableEq, Repr

/-- The consoles made so far, and whether each can show colours. -/
abbrev Consoles := List (Choice × Bool)

/-- A message with how it is wanted: `colour` is `none` to have colours on a terminal only. -/
structure Message where
  tone : Tone
  text : String
  emoji : Bool
  colour : Option Bool
deriving DecidableEq, Repr

/-- The console for a choice, made now if there is none. -/
def consoleFor (consoles : Consoles) (choice : Choice) (terminal : Bool) : Bool × Consoles :=
  match List.lookup choice consoles with
  | some coloured => (coloured, consoles)
  | none =>
      let coloured := choice.colour && terminal
      (coloured, (choice, coloured) :: consoles)

/-- Writes a message, `terminal` telling whether there is a terminal now. -/
def write (consoles : Consoles) (terminal : Bool) (m : Message) : String × Consoles :=
  let wanted := m.colour.getD terminal
  let (coloured, consoles) := consoleFor consoles ⟨wanted, m.emoji⟩ terminal
  (written m.tone m.emoji (wanted && coloured) m.text, consoles)

/-- Writes messages one after the other, each with whether there is a terminal then. -/
def writeAll (consoles : Consoles) : List (Bool × Message) → List String
  | [] => []
  | (terminal, m) :: rest =>
      let (text, consoles) := write consoles terminal m
      text :: writeAll consoles rest

/-- Whether there is a terminal, by what the output says when it is asked: one that cannot say is
none. -/
def hasTerminal (answer : Option Bool) : Bool :=
  answer.getD false

/-- Writes messages one after the other, where no console has been made yet, each with what the
output says of a terminal then. -/
def sayAll (calls : List (Option Bool × Message)) : List String :=
  writeAll [] (calls.map fun (answer, m) => (hasTerminal answer, m))

end LintBridge.Terminal
