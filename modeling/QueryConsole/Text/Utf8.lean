/-!
# UTF-8

Reading bytes as text. The bytes are cut into pieces: whole characters, and runs that belong to no
character. A run is as long as the bytes still agree with the start of some character, so a byte
that breaks a character off begins a piece of its own. Strict reading wants characters only;
lenient reading puts the replacement character for every other run.

## Main definitions

- `Utf8.pieces`: the cut
- `Utf8.decode`: strict reading, with the place of the first fault
- `Utf8.decodeLossy`: lenient reading
- `Utf8.encode`: the bytes of a text
-/

namespace QueryConsole

namespace Utf8

/-- One piece of a byte string. -/
inductive Piece
  /-- a whole character -/
  | char (c : Char)
  /-- bytes that start a character and are followed by a byte it cannot have -/
  | broken (length : Nat)
  /-- bytes that start a character which the end cuts off -/
  | cut (length : Nat)
  deriving DecidableEq, Repr

/-- A character of which some bytes have been read: its bits so far, how many bytes were read, how
many are owed, and the range the next one must lie in. -/
structure Partial where
  bits : Nat
  read : Nat
  owed : Nat
  low : Nat
  high : Nat
  deriving DecidableEq, Repr

/-- The character that a leading byte begins, if it begins one of several bytes. -/
def Partial.start (b : Nat) : Option Partial :=
  if 0xC2 ≤ b ∧ b ≤ 0xDF then some ⟨b - 0xC0, 1, 1, 0x80, 0xBF⟩
  else if b = 0xE0 then some ⟨0, 1, 2, 0xA0, 0xBF⟩
  else if b = 0xED then some ⟨0xD, 1, 2, 0x80, 0x9F⟩
  else if 0xE1 ≤ b ∧ b ≤ 0xEF then some ⟨b - 0xE0, 1, 2, 0x80, 0xBF⟩
  else if b = 0xF0 then some ⟨0, 1, 3, 0x90, 0xBF⟩
  else if 0xF1 ≤ b ∧ b ≤ 0xF3 then some ⟨b - 0xF0, 1, 3, 0x80, 0xBF⟩
  else if b = 0xF4 then some ⟨4, 1, 3, 0x80, 0x8F⟩
  else none

/-- A byte read between characters: the piece it makes, or the character it begins. -/
def begin (b : UInt8) : List Piece × Option Partial :=
  if b.toNat < 0x80 then ([.char (Char.ofNat b.toNat)], none)
  else match Partial.start b.toNat with
    | some p => ([], some p)
    | none => ([.broken 1], none)

/-- One byte: the pieces it completes, and the character it leaves unfinished. -/
def step : Option Partial → UInt8 → List Piece × Option Partial
  | none, b => begin b
  | some p, b =>
    if p.low ≤ b.toNat ∧ b.toNat ≤ p.high then
      let bits := p.bits * 64 + (b.toNat - 0x80)
      if p.owed = 1 then ([.char (Char.ofNat bits)], none)
      else ([], some ⟨bits, p.read + 1, p.owed - 1, 0x80, 0xBF⟩)
    else
      let (pieces, next) := begin b
      (.broken p.read :: pieces, next)

/-- The pieces of a byte string, read on from an unfinished character. -/
def piecesFrom : Option Partial → List UInt8 → List Piece
  | none, [] => []
  | some p, [] => [.cut p.read]
  | p, b :: rest =>
    let (pieces, next) := step p b
    pieces ++ piecesFrom next rest

/-- The pieces of a byte string. -/
def pieces (bytes : List UInt8) : List Piece :=
  piecesFrom none bytes

/-- What lenient reading shows for a run that is no character. -/
def replacement : Char := '\uFFFD'

/-- The character a piece stands for in lenient reading. -/
def Piece.shown : Piece → Char
  | .char c => c
  | .broken _ => replacement
  | .cut _ => replacement

/-- Lenient reading: every run that is no character becomes one replacement character. -/
def decodeLossy (bytes : List UInt8) : List Char :=
  (pieces bytes).map Piece.shown

/-- Why a byte string is not UTF-8: how many bytes before the fault are, and how many bytes the
faulty run has, or none if the end cuts a character off. -/
structure Fault where
  validUpTo : Nat
  length : Option Nat
  deriving DecidableEq, Repr

/-- The wording of a fault. -/
def Fault.message (f : Fault) : String :=
  match f.length with
  | some n => s!"invalid utf-8 sequence of {n} bytes from index {f.validUpTo}"
  | none => s!"incomplete utf-8 byte sequence from index {f.validUpTo}"

/-- The characters of pieces that are all characters; `before` counts the bytes ahead of them. -/
def wholeFrom (before : Nat) : List Piece → Except Fault (List Char)
  | [] => .ok []
  | .char c :: rest => (wholeFrom (before + c.utf8Size) rest).map (c :: ·)
  | .broken n :: _ => .error ⟨before, some n⟩
  | .cut _ :: _ => .error ⟨before, none⟩

/-- Strict reading. -/
def decode (bytes : List UInt8) : Except Fault (List Char) :=
  wholeFrom 0 (pieces bytes)

/-- Strict reading without the place of the fault. -/
def decode? (bytes : List UInt8) : Option (List Char) :=
  (decode bytes).toOption

/-- The bytes of a text. -/
def encode (cs : List Char) : List UInt8 :=
  cs.flatMap String.utf8EncodeChar

/-- The bytes of a text. -/
def bytesOf (s : String) : List UInt8 :=
  s.toUTF8.toList

end Utf8

end QueryConsole
