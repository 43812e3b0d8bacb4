import LintBridge.Report.Problem
import LintBridge.Text.Half
import LintBridge.Text.Utf8

/-!
Where a byte of a source stands: its line and its column, both from one on. Offsets count bytes, and
columns count characters.
-/

namespace LintBridge

/-- A line and a column, both from one on. -/
structure LineColumn where
  line : Nat
  column : Nat
deriving DecidableEq, Repr

/-- The bytes behind the last line feed. -/
def lastLine (bytes : List UInt8) : List UInt8 :=
  (bytes.reverse.takeWhile (· != 0x0A)).reverse

/-- The place of the byte at an offset, which counts from one. Offsets before the source stand for
its start and offsets behind it for its end; inside a character they stand for that character. -/
def LineColumn.ofOffset (source : List Char) (offset : Int) : LineColumn :=
  let bytes := Text.Utf8.encode source
  let before := bytes.take (offset - 1).toNat
  ⟨before.count 0x0A + 1, (Text.Utf8.decodeSkipping (lastLine before)).length + 1⟩

/-- The places of the bytes at offsets, for a source that may hold halves of surrogate pairs. -/
def LineColumn.ofOffsets (source : List Char) (offsets : List Int) :
    Except Text.NoBytes (List LineColumn) :=
  if offsets = [] then .ok [] else do
    let source ← Text.withBytes source
    return offsets.map (ofOffset source)

/-- Where a problem starts. -/
def Problem.start (source : List Char) (p : Problem) : LineColumn :=
  .ofOffset source p.position

end LintBridge
