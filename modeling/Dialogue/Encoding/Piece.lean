import Dialogue.Text.Basic

/-!
# Pieces of encoded text

A codec reads bytes from left to right and keeps nothing in mind between characters. It is therefore
given by what it finds at the front of some bytes: a character, or a flaw, and the number of bytes
that belong to it. Repeating this cuts any bytes into *pieces*. The pieces say everything about the
decoding of the bytes; what is done about flawed ones is decided afterwards.
-/

namespace Dialogue

/-- Encoded text. -/
abbrev Bytes := List UInt8

/-- **Why bytes are no character.** -/
inductive Flaw where
  /-- A byte beyond ASCII. -/
  | notAscii
  /-- A byte that starts no sequence. -/
  | badStart
  /-- A sequence that is not continued as it should. -/
  | badContinuation
  /-- The bytes end inside a sequence of a variable length. -/
  | endOfData
  /-- The bytes end inside a character of a fixed length. -/
  | incomplete
  /-- A sequence without a character. -/
  | illegal
  /-- A surrogate, in the bytes that a character of its number would have. -/
  | surrogate
deriving DecidableEq, Repr

/-- The wording of a flaw. -/
def Flaw.message : Flaw → String
  | notAscii => "ordinal not in range(128)"
  | badStart => "invalid start byte"
  | badContinuation => "invalid continuation byte"
  | endOfData => "unexpected end of data"
  | incomplete => "incomplete multibyte sequence"
  | illegal => "illegal multibyte sequence"
  | surrogate => "surrogates not allowed"

/-- What is found at the front of some bytes: how many bytes beyond the first belong to it, and the
character or the flaw. -/
structure Find where
  /-- How many bytes beyond the first belong to it. -/
  more : Nat
  /-- The character, or why there is none. -/
  content : Except Flaw Char

namespace Find

/-- The character with this code point. -/
def char (more : Nat) (code : Nat) : Find :=
  ⟨more, .ok (Char.ofNat code)⟩

/-- A flaw. -/
def flaw (more : Nat) (f : Flaw) : Find :=
  ⟨more, .error f⟩

/-- The character, if there is one for these bytes, and otherwise a flaw of the first byte alone. -/
def ofOption (more : Nat) : Option Char → Find
  | some c => ⟨more, .ok c⟩
  | none => flaw 0 .illegal

end Find

/-- **A way to read bytes**: what is found at a first byte and those behind it. -/
abbrev Decoder := UInt8 → Bytes → Find

/-- Bytes that belong together, and what they stand for. -/
structure Piece where
  /-- The bytes of the piece. -/
  bytes : Bytes
  /-- The character, or why there is none. -/
  content : Except Flaw Char

/-- **The pieces of some bytes**, from left to right. -/
def Decoder.pieces (d : Decoder) : Bytes → List Piece
  | [] => []
  | b :: tail =>
    let find := d b tail
    ⟨b :: tail.take find.more, find.content⟩ :: pieces d (tail.drop find.more)
termination_by bytes => bytes.length

/-- **No byte is lost.** The pieces make up the bytes they were cut from. -/
theorem Decoder.flatMap_pieces (d : Decoder) (bytes : Bytes) :
    (d.pieces bytes).flatMap Piece.bytes = bytes := by
  induction bytes using Decoder.pieces.induct d with
  | case1 => simp [Decoder.pieces]
  | case2 b tail find ih =>
    rw [Decoder.pieces, List.flatMap_cons, ih]
    simp [find]

end Dialogue
