import Dialogue.Encoding.Jis.Vendor
import Dialogue.Encoding.Piece

/-!
# The Shift-JIS family

One byte stands for an ASCII character or a half-width kana; two bytes stand for a cell of a grid.
The first of two, the *lead*, avoids the range of the kana, so the leads fall into two ranges that
are counted through. The second, the *trail*, ranges over two rows of the grid, with a gap at the
delete character.

The plain encoding reads the standard set, and a byte that leads to no row of it is a flaw by
itself. The vendor's encoding reads the vendor set, for which it has more leads, and also gives
characters to the five bytes that are otherwise unused.

A pair without a character is a flaw of its lead alone, so the trail is read anew.
-/

namespace Dialogue

namespace ShiftJis

/-- Whether a byte is the first of two, where the leads go up to `last`. -/
def isLead (last b : Nat) : Bool :=
  (0x81 ≤ b && b ≤ 0x9F) || (0xE0 ≤ b && b ≤ last)

/-- The last lead that reaches into the standard set. -/
def lastStandardLead : Nat := 0xEA

/-- The last lead that reaches into the vendor set. -/
def lastVendorLead : Nat := 0xFC

/-- Whether a byte can be the second of two. -/
def isTrail (b : Nat) : Bool :=
  (0x40 ≤ b && b ≤ 0x7E) || (0x80 ≤ b && b ≤ 0xFC)

/-- Whether a byte is a half-width kana. -/
def isKana (b : Nat) : Bool :=
  0xA1 ≤ b && b ≤ 0xDF

/-- The code point of a half-width kana. -/
def kana (b : Nat) : Nat :=
  b - 0xA1 + 0xFF61

/-- The place of a lead among the leads, from zero. -/
def leadIndex (lead : Nat) : Nat :=
  if lead < 0xA0 then lead - 0x81 else lead - 0xC1

/-- The place of a trail among the trails, from zero. -/
def trailIndex (trail : Nat) : Nat :=
  if trail < 0x7F then trail - 0x40 else trail - 0x41

/-- **The row and the cell of a pair.** A lead serves two rows. -/
def place (lead trail : Nat) : Nat × Nat :=
  (2 * leadIndex lead + trailIndex trail / Jis.rowLength + 1,
    trailIndex trail % Jis.rowLength + 1)

/-- What is found at a lead, given a set of characters by row and cell. -/
def pair (cell? : Nat → Nat → Option Char) (lead : Nat) : Bytes → Find
  | [] => .flaw 0 .incomplete
  | b :: _ =>
    if isTrail b.toNat then
      .ofOption 1 (cell? (place lead b.toNat).1 (place lead b.toNat).2)
    else .flaw 0 .illegal

end ShiftJis

/-- Reading Shift-JIS with the standard set. -/
def Decoder.shiftJis : Decoder := fun b tail =>
  let n := b.toNat
  if n < 0x80 then .char 0 n
  else if ShiftJis.isKana n then .char 0 (ShiftJis.kana n)
  else if ShiftJis.isLead ShiftJis.lastStandardLead n then
    ShiftJis.pair Jis.standard.cell? n tail
  else .flaw 0 .illegal

/-- Reading Shift-JIS with the vendor set. -/
def Decoder.vendorJis : Decoder := fun b tail =>
  let n := b.toNat
  if n ≤ 0x80 then .char 0 n
  else if ShiftJis.isKana n then .char 0 (ShiftJis.kana n)
  else if ShiftJis.isLead ShiftJis.lastVendorLead n then ShiftJis.pair Jis.vendorCell? n tail
  else if n = 0xA0 then .char 0 0xF8F0
  else .char 0 (n - 0xFD + 0xF8F1)

end Dialogue
