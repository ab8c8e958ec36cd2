import Dialogue.Position
import Dialogue.Report
import Dialogue.Token

/-!
# Faults in a script

Reading a script goes wrong in five ways: a comma outside of a parameter list, a parameter list that
the script ends in (where a parameter or where a comma or parenthesis was due), a comma where a
parameter was due, and anything else behind a parameter. A fault is one of these causes with the
position and the file.
-/

namespace Dialogue

/-- **Why no token can be read.** -/
inductive Cause where
  /-- A comma outside of a parameter list. -/
  | strayComma
  /-- The script ends where a parameter or the closing parenthesis was due. -/
  | endInList
  /-- A comma where a parameter or the closing parenthesis was due. -/
  | commaInList
  /-- The script ends behind a parameter. -/
  | endAfterParam
  /-- A parameter is followed by a character other than a comma or the closing parenthesis. -/
  | junkAfterParam (c : Char)
deriving DecidableEq, Repr

namespace Cause

/-- What a cause is reported as. -/
def category : Cause → Category
  | strayComma => .unexpected
  | endInList | commaInList | endAfterParam | junkAfterParam _ => .malformed

/-- The message for a cause. -/
def message : Cause → String
  | strayComma => "Unexpected token " ++ Kind.separator.word
  | endInList => "Malformed function: got end of buffer, expecting ')'"
  | commaInList => "Unexpected token in function parameter list"
  | endAfterParam => "Malformed function: got end of buffer, expecting ',' or ')'"
  | junkAfterParam c =>
    "Malformed function: got " ++ Text.quoted [c] ++ ", expecting ',' or ')'"

/-- Whether the cause is that the script ends too early. -/
def isEnd : Cause → Bool
  | endInList | endAfterParam => true
  | strayComma | commaInList | junkAfterParam _ => false

end Cause

/-- **A fault**: why no token can be read, and where. -/
structure Fault where
  /-- What is wrong. -/
  cause : Cause
  /-- Where it was noticed. -/
  place : Position
  /-- The file that the script came from. -/
  file : Option String
deriving DecidableEq, Repr

/-- The report of a fault. -/
def Fault.report (f : Fault) : Report where
  category := f.cause.category
  message := f.cause.message
  line := some f.place.line
  column := some f.place.column
  file := f.file

end Dialogue
