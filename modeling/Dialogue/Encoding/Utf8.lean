import Dialogue.Encoding.Piece

/-!
# UTF-8

A sequence of two to four bytes starts with a byte that tells its length; each following byte
carries six bits. The range of the second byte is narrowed behind four of the first bytes, which
rules out sequences that are longer than need be, the surrogates, and code points past the last one.

A sequence breaks at the first byte that is out of its range, and the flaw is what was good until
then. If the bytes end first, the flaw is all that is left of them.

Behind one first byte the second is kept below the range of the surrogates. A reader who wants to
know of surrogates finds the three bytes of one together, as a flaw of its own.
-/

namespace Dialogue.Utf8

/-- The range of a byte that continues a sequence. -/
def continuation : CodeRange := ⟨0x80, 0xBF⟩

/-- The first byte of a surrogate. -/
def surrogateStart : Nat := 0xED

/-- The range of the byte behind the first byte of a surrogate. -/
def surrogateSecond : CodeRange := ⟨0xA0, 0xBF⟩

/-- The range of the byte behind a first byte. -/
def second (first : Nat) : CodeRange :=
  if first = 0xE0 then ⟨0xA0, 0xBF⟩
  else if first = surrogateStart then ⟨0x80, 0x9F⟩
  else if first = 0xF0 then ⟨0x90, 0xBF⟩
  else if first = 0xF4 then ⟨0x80, 0x8F⟩
  else continuation

/-- Going on with a sequence of which `taken` bytes beyond the first, and the bits in `code`, are
known: each byte to come lies in the range given for it. -/
def follow (code taken : Nat) : List CodeRange → Bytes → Find
  | [], _ => .char taken code
  | _ :: _, [] => .flaw taken .endOfData
  | r :: rs, b :: tail =>
    if r.covers b.toNat then follow (code * 64 + (b.toNat - 0x80)) (taken + 1) rs tail
    else .flaw taken .badContinuation

/-- Whether a surrogate stands at a first byte. -/
def startsSurrogate (first : Nat) : Bytes → Bool
  | b :: b' :: _ => first == surrogateStart && surrogateSecond.covers b.toNat &&
      continuation.covers b'.toNat
  | _ => false

end Dialogue.Utf8

namespace Dialogue

/-- Reading UTF-8. -/
def Decoder.utf8 : Decoder := fun b tail =>
  let first := b.toNat
  if first < 0x80 then .char 0 first
  else if first < 0xC2 then .flaw 0 .badStart
  else if first < 0xE0 then Utf8.follow (first - 0xC0) 0 [Utf8.second first] tail
  else if first < 0xF0 then
    Utf8.follow (first - 0xE0) 0 [Utf8.second first, Utf8.continuation] tail
  else if first < 0xF5 then
    Utf8.follow (first - 0xF0) 0 [Utf8.second first, Utf8.continuation, Utf8.continuation] tail
  else .flaw 0 .badStart

/-- Reading UTF-8 and finding the surrogates in it. -/
def Decoder.utf8Surrogates : Decoder := fun b tail =>
  if Utf8.startsSurrogate b.toNat tail then .flaw 2 .surrogate else Decoder.utf8 b tail

end Dialogue
