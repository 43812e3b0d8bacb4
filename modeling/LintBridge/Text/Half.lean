/-!
Halves of surrogate pairs.

A half of a surrogate pair is no character, but text that comes from elsewhere may hold one. Here a
private-use character stands in for it, the one that lies `Half.distance` above the half. A stand-in
is shown as the half, and has no bytes in UTF-8.

The stand-ins are U+10D800 to U+10DFFF. Texts that hold these characters as themselves are left out:
there is no way here to tell them from texts that hold halves.
-/

namespace LintBridge.Text

namespace Half

/-- How far a stand-in lies above the half that it stands for. -/
def distance : Nat := 0x100000

/-- The stand-in of a half. -/
def standIn (unit : Nat) : Char :=
  Char.ofNat (distance + unit)

end Half

/-- The half that a character stands for. -/
def half? (c : Char) : Option Nat :=
  if Half.distance + 0xD800 ≤ c.toNat ∧ c.toNat ≤ Half.distance + 0xDFFF then
    some (c.toNat - Half.distance)
  else none

/-- Whether a character stands for a half. -/
def isHalf (c : Char) : Bool :=
  (half? c).isSome

/-- Whether a character stands for a half that no byte of a file name is read as. -/
def isForeignHalf (c : Char) : Bool :=
  (half? c).any fun unit => unit < 0xDC80 || 0xDCFF < unit

/-- The first halves of a text that has no bytes: the first one, where it stands, and how many stand
in a row. -/
structure NoBytes where
  unit : Nat
  position : Nat
  count : Nat
deriving DecidableEq, Repr

/-- The first halves in a text, if there are any. -/
def firstHalves? (cs : List Char) : Option NoBytes :=
  let before := cs.takeWhile (!isHalf ·)
  let halves := (cs.drop before.length).takeWhile isHalf
  halves.head?.bind fun c => (half? c).map fun unit => ⟨unit, before.length, halves.length⟩

/-- The text, if it can be written as bytes. -/
def withBytes (cs : List Char) : Except NoBytes (List Char) :=
  match firstHalves? cs with
  | some halves => .error halves
  | none => .ok cs

end LintBridge.Text
