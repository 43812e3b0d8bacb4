/-!
UTF-8. `encode` writes a text as bytes; `scan` reads bytes one at a time, as characters and as the
stretches that are no part of a character.

A damaged stretch is as long as the bytes in it could still begin a character, so the byte that
rules it out is read afresh. Three readings differ only in what they do with damage:
`decodeReplacing` puts one U+FFFD for each stretch, `decodeSkipping` leaves it out, and `decode`
refuses the bytes and says where the first one is.
-/

namespace LintBridge.Text.Utf8

/-- The bytes of a text. -/
def encode (cs : List Char) : List UInt8 :=
  cs.flatMap String.utf8EncodeChar

/-- Why a stretch of bytes is no part of a character. -/
inductive Flaw where
  | startByte
  | continuationByte
  | endOfData
deriving DecidableEq, Repr

def Flaw.message : Flaw → String
  | .startByte => "invalid start byte"
  | .continuationByte => "invalid continuation byte"
  | .endOfData => "unexpected end of data"

/-- A part of a byte sequence: a character, or a damaged stretch of `length` bytes. -/
inductive Piece where
  | char (c : Char)
  | damage (flaw : Flaw) (length : Nat)
deriving DecidableEq, Repr

/-- A character begun: the bits read so far, the bytes still owed, the window that the next of them
must lie in, and how many bytes have been read. -/
structure Pending where
  bits : Nat
  owed : Nat
  low : Nat
  high : Nat
  seen : Nat

/-- What the first byte of a character settles: the whole of it, a beginning, or damage. -/
def start (b : Nat) : Piece ⊕ Pending :=
  if b < 0x80 then .inl (.char (Char.ofNat b))
  else if b < 0xC2 then .inl (.damage .startByte 1)
  else if b < 0xE0 then .inr ⟨b - 0xC0, 1, 0x80, 0xBF, 1⟩
  else if b < 0xF0 then
    .inr ⟨b - 0xE0, 2, if b = 0xE0 then 0xA0 else 0x80, if b = 0xED then 0x9F else 0xBF, 1⟩
  else if b < 0xF5 then
    .inr ⟨b - 0xF0, 3, if b = 0xF0 then 0x90 else 0x80, if b = 0xF4 then 0x8F else 0xBF, 1⟩
  else .inl (.damage .startByte 1)

/-- The pieces of a byte sequence, of which a character may have begun before. -/
def scanFrom : Option Pending → List UInt8 → List Piece
  | none, [] => []
  | some p, [] => [.damage .endOfData p.seen]
  | none, b :: rest =>
      match start b.toNat with
      | .inl piece => piece :: scanFrom none rest
      | .inr p => scanFrom (some p) rest
  | some p, b :: rest =>
      if p.low ≤ b.toNat ∧ b.toNat ≤ p.high then
        let bits := p.bits * 64 + (b.toNat - 0x80)
        if p.owed = 1 then .char (Char.ofNat bits) :: scanFrom none rest
        else scanFrom (some ⟨bits, p.owed - 1, 0x80, 0xBF, p.seen + 1⟩) rest
      else
        .damage .continuationByte p.seen ::
          match start b.toNat with
          | .inl piece => piece :: scanFrom none rest
          | .inr q => scanFrom (some q) rest

/-- The pieces of a byte sequence. -/
def scan (bytes : List UInt8) : List Piece :=
  scanFrom none bytes

/-- The text of the bytes, with one U+FFFD for every damaged stretch. -/
def decodeReplacing (bytes : List UInt8) : List Char :=
  (scan bytes).map fun
    | .char c => c
    | .damage _ _ => '\uFFFD'

/-- The text of the characters among the bytes. -/
def decodeSkipping (bytes : List UInt8) : List Char :=
  (scan bytes).filterMap fun
    | .char c => some c
    | .damage _ _ => none

/-- Bytes that are no text: the first damaged stretch, by its first byte, place and length. -/
structure DecodeError where
  byte : UInt8
  position : Nat
  length : Nat
  reason : String
deriving DecidableEq, Repr

/-- The first damaged stretch among pieces that begin at `position`, with the characters before. -/
def decodePieces (position : Nat) : List Piece → Except (Nat × Nat × Flaw) (List Char)
  | [] => .ok []
  | .char c :: rest => (c :: ·) <$> decodePieces (position + c.utf8Size) rest
  | .damage flaw length :: _ => .error (position, length, flaw)

/-- The text of the bytes, if all of them are part of a character. -/
def decode (bytes : List UInt8) : Except DecodeError (List Char) :=
  match decodePieces 0 (scan bytes) with
  | .ok cs => .ok cs
  | .error (position, length, flaw) =>
      .error ⟨bytes.getD position 0, position, length, flaw.message⟩

/-- The byte as two hexadecimal digits after "0x". -/
def byteText (b : UInt8) : String :=
  String.ofList (['0', 'x'] ++ [Nat.digitChar (b.toNat / 16), Nat.digitChar (b.toNat % 16)])

/-- One byte is named, several are told by where they stand. -/
def DecodeError.message (e : DecodeError) : String :=
  let stretch :=
    if e.length = 1 then s!"byte {byteText e.byte} in position {e.position}"
    else s!"bytes in position {e.position}-{e.position + e.length - 1}"
  "'utf-8' codec can't decode " ++ stretch ++ ": " ++ e.reason

end LintBridge.Text.Utf8
