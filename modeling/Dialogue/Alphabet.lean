import Dialogue.Text.Basic

/-!
# The alphabet of a script

Four classes of characters decide where a token of a script ends.

* **Label characters** are the ASCII letters and digits, the underscore and the exclamation mark.
  They make up labels and the names of calls.
* **Text characters** are all others except the call mark `@` and the line feed. A run of free text
  takes in everything else: punctuation, blanks, parentheses, commas and semicolons.
* **Blank characters** separate tokens. They are the characters that leave a place empty on the
  page: the ASCII controls that move the carriage, the four information separators, the next-line
  control and every space of Unicode, the wide ideographic space among them. Only the line feed ends
  a line; the others are blank and nothing more.
* **Parameter characters** are those that neither end a parameter nor are blank: everything but the
  comma, the closing parenthesis and the blanks.

Each class is also read on whole strings. A string is in a class given by listing single characters
only if it *is* one of them, so a string that is not exactly one character is never a label
character and always a text character.
-/

namespace Dialogue

/-! ### Classes of characters -/

/-- Whether a character may stand in a label or in the name of a call. -/
def isLabel (c : Char) : Bool :=
  c.isAlphanum || c == '_' || c == '!'

/-- Whether a character goes on with a run of free text. -/
def isText (c : Char) : Bool :=
  !isLabel c && c != '@' && c != '\n'

/-- The code points of the blank characters, in ascending order. -/
def blankRanges : List CodeRange :=
  [⟨0x0009, 0x000D⟩, ⟨0x001C, 0x001F⟩, ⟨0x0020, 0x0020⟩, ⟨0x0085, 0x0085⟩, ⟨0x00A0, 0x00A0⟩,
    ⟨0x1680, 0x1680⟩, ⟨0x2000, 0x200A⟩, ⟨0x2028, 0x2029⟩, ⟨0x202F, 0x202F⟩, ⟨0x205F, 0x205F⟩,
    ⟨0x3000, 0x3000⟩]

/-- Whether a character is blank. -/
def isBlank (c : Char) : Bool :=
  CodeRange.has blankRanges c

/-- Whether a character ends a parameter by itself, without being blank. -/
def isTerminator (c : Char) : Bool :=
  c == ',' || c == ')'

/-- Whether a character goes on with a parameter. -/
def isParam (c : Char) : Bool :=
  !isTerminator c && !isBlank c

/-- Whether a character is a parenthesis. -/
def isParen (c : Char) : Bool :=
  c == '(' || c == ')'

/-- The label characters in ascending order. -/
def labelAlphabet : Text :=
  (Text.between 0 128).filter isLabel

/-- The terminators in ascending order. -/
def terminators : Text :=
  (Text.between 0 128).filter isTerminator

/-! ### The classes, read on strings -/

namespace Text

/-- Whether a text is one label character. -/
def isLabel : Text → Bool
  | [c] => Dialogue.isLabel c
  | _ => false

/-- Whether a text is anything but one label character, one call mark or one line feed. -/
def isText : Text → Bool
  | [c] => Dialogue.isText c
  | _ => true

/-- A text is blank when it has characters and all of them are blank. -/
def isBlank (t : Text) : Bool :=
  !t.isEmpty && t.all Dialogue.isBlank

@[simp] theorem isBlank_nil : Text.isBlank [] = false := rfl

@[simp] theorem isBlank_singleton (c : Char) : Text.isBlank [c] = Dialogue.isBlank c := by
  simp [Text.isBlank]

/-- Whether a text is neither one terminator nor blank. -/
def isParam (t : Text) : Bool :=
  (match t with
    | [c] => !isTerminator c
    | _ => true) && !t.isBlank

@[simp] theorem isParam_singleton (c : Char) : Text.isParam [c] = Dialogue.isParam c := by
  simp [Text.isParam, Dialogue.isParam]

end Text

end Dialogue
