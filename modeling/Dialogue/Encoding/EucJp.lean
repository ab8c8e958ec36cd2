import Dialogue.Encoding.Jis.Standard
import Dialogue.Encoding.Jis.Supplement
import Dialogue.Encoding.Piece
import Dialogue.Encoding.ShiftJis

/-!
# The extended Unix code for Japanese

Below 128 a byte is an ASCII character. Two bytes above 160 are the row and the cell of the standard
set, each raised by 160. Two bytes shift to another set: behind one stands a half-width kana, behind
the other the row and the cell of a character of the supplementary set.

A sequence without a character is a flaw of its first byte alone. If the bytes end inside a
sequence, the flaw is all that is left of them.
-/

namespace Dialogue

namespace EucJp

/-- The byte behind which a half-width kana stands. -/
def kanaShift : Nat := 0x8E

/-- The byte behind which a character of the supplementary set stands. -/
def supplementShift : Nat := 0x8F

/-- The row or cell that a byte stands for; zero, which is neither, for a byte that is too low. -/
def index (b : UInt8) : Nat :=
  b.toNat - 0xA0

/-- What is found behind a kana shift. -/
def kana : Bytes → Find
  | [] => .flaw 0 .incomplete
  | b :: _ =>
    if ShiftJis.isKana b.toNat then .char 1 (ShiftJis.kana b.toNat) else .flaw 0 .illegal

/-- What is found behind a supplement shift. -/
def supplement : Bytes → Find
  | [] => .flaw 0 .incomplete
  | [_] => .flaw 1 .incomplete
  | b :: b' :: _ => .ofOption 2 (Jis.supplement.cell? (index b) (index b'))

/-- What is found at the byte of a row. -/
def pair (row : UInt8) : Bytes → Find
  | [] => .flaw 0 .incomplete
  | b :: _ => .ofOption 1 (Jis.standard.cell? (index row) (index b))

end EucJp

/-- Reading the extended Unix code. -/
def Decoder.eucJp : Decoder := fun b tail =>
  let n := b.toNat
  if n < 0x80 then .char 0 n
  else if n = EucJp.kanaShift then EucJp.kana tail
  else if n = EucJp.supplementShift then EucJp.supplement tail
  else EucJp.pair b tail

end Dialogue
