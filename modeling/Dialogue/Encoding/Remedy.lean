import Dialogue.Encoding.Piece
import Dialogue.Text.Numeral

/-!
# Remedies

What is done about bytes that are no character. The strict remedy refuses the whole text and says
where the first flawed piece starts. The lenient ones put something in place of each flawed piece:
the replacement character, nothing, or its bytes in hexadecimal.

Some remedies are not made for scripts. Two put lone surrogates in place of flawed bytes, the one
for each byte, the other for the bytes of a surrogate only; with a surrogate in it the outcome is no
text. Others are made for characters that have no bytes, and can do nothing about bytes.
-/

namespace Dialogue

/-- **Remedies for flawed pieces.** -/
inductive Remedy where
  /-- Refuse the text. -/
  | refuse
  /-- Put the replacement character in place of the piece. -/
  | replace
  /-- Leave the piece out. -/
  | drop
  /-- Write the bytes of the piece in hexadecimal. -/
  | escape
  /-- Put a surrogate in place of each byte. -/
  | smuggle
  /-- Let surrogates pass, and refuse the text for any other flaw. -/
  | passSurrogates
  /-- Something that is done about characters only. -/
  | charactersOnly
deriving DecidableEq, Repr

/-- What becomes of a flawed piece. -/
inductive Repair where
  /-- This text stands in for it. -/
  | put (t : Text)
  /-- Surrogates stand in for it. -/
  | surrogates
  /-- The whole text is refused on its account. -/
  | refuse
  /-- Nothing, because the remedy is none for bytes. -/
  | unsuitable
deriving DecidableEq, Repr

namespace Remedy

/-- The remedy of a name. -/
def ofName? : String → Option Remedy
  | "strict" => some refuse
  | "replace" => some replace
  | "ignore" => some drop
  | "backslashreplace" => some escape
  | "surrogateescape" => some smuggle
  | "surrogatepass" => some passSurrogates
  | "xmlcharrefreplace" | "namereplace" => some charactersOnly
  | _ => none

/-- What becomes of flawed bytes under a remedy. -/
def repair : Remedy → Flaw → Bytes → Repair
  | refuse, _, _ => .refuse
  | replace, _, _ => .put ['\ufffd']
  | drop, _, _ => .put []
  | escape, _, bytes => .put (bytes.flatMap fun b => '\\' :: 'x' :: hexDigits 2 b.toNat)
  | smuggle, _, _ => .surrogates
  | passSurrogates, flaw, _ => if flaw = .surrogate then .surrogates else .refuse
  | charactersOnly, _, _ => .unsuitable

end Remedy

/-- **Why flawed pieces are no text.** -/
inductive Breach where
  /-- The text is refused: how many bytes stand before the flawed piece, and what its flaw is. -/
  | refused (offset : Nat) (flaw : Flaw)
  /-- There would be surrogates in the text. -/
  | surrogates
  /-- The remedy is none for bytes. -/
  | unsuitable
deriving DecidableEq, Repr

/-- **The text of some pieces** under a remedy, or why there is none. The pieces start at
`offset`. -/
def mend (remedy : Remedy) (offset : Nat) : List Piece → Except Breach Text
  | [] => .ok []
  | p :: ps =>
    match p.content with
    | .ok c => (mend remedy (offset + p.bytes.length) ps).map (c :: ·)
    | .error flaw =>
      match remedy.repair flaw p.bytes with
      | .put t => (mend remedy (offset + p.bytes.length) ps).map (t ++ ·)
      -- a piece behind the surrogates may still be refused
      | .surrogates => (mend remedy (offset + p.bytes.length) ps).bind fun _ => .error .surrogates
      | .refuse => .error (.refused offset flaw)
      | .unsuitable => .error .unsuitable

end Dialogue
