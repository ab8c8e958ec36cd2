import Dialogue.Location

/-!
# Tokens

A script is a sequence of free text, comments, labels and calls. A call is delivered piece by piece:
its name, an opening parenthesis, parameters and the commas between them, and a closing parenthesis.
The last token of every script is the end, which has no characters.

A token carries its location. A token taken from the script covers as many characters as its value
has; a parenthesis that was supplied for a call written without one covers none, and is told apart
by just that (`Token.isSynthetic`). Callers may make tokens of their own, with any location they
like.
-/

namespace Dialogue

/-- **The kinds of tokens.** -/
inductive Kind where
  /-- A run of free text. -/
  | text
  /-- A comment, without its mark and its line feed. -/
  | comment
  /-- A run of label characters. -/
  | label
  /-- The name of a call, without its mark. -/
  | name
  /-- The parenthesis that opens a parameter list. -/
  | opening
  /-- One parameter of a call. -/
  | param
  /-- The comma between two parameters. -/
  | separator
  /-- The parenthesis that closes a parameter list. -/
  | closing
  /-- The end of the script. -/
  | eof
deriving DecidableEq, Repr

namespace Kind

/-- The kinds in the order in which they are numbered, from one. -/
def all : List Kind :=
  [text, comment, label, name, opening, param, separator, closing, eof]

/-- The word for a kind, in descriptions of tokens and in messages. -/
def word : Kind → String
  | text => "TEXT"
  | comment => "COMMENT"
  | label => "LABEL"
  | name => "FUNCTION_NAME"
  | opening => "FUNCTION_PARAM_START"
  | param => "FUNCTION_PARAM"
  | separator => "FUNCTION_PARAM_SEPARATOR"
  | closing => "FUNCTION_PARAM_END"
  | eof => "EOF"

/-- Every kind is listed. -/
theorem mem_all (k : Kind) : k ∈ all := by
  cases k <;> decide

/-- The kind that a word stands for. -/
def ofWord? (w : String) : Option Kind :=
  all.find? (·.word == w)

end Kind

/-- **A token** of a script. -/
structure Token where
  /-- What kind of token it is. -/
  kind : Kind
  /-- Its characters. -/
  value : Text
  /-- Where it stands. -/
  location : Location
deriving DecidableEq, Repr

namespace Token

/-- Whether the token is the end of the script. -/
def isEnd (t : Token) : Bool :=
  t.kind == .eof

/-- **A token is synthetic** when it does not cover as many characters as its value has. -/
def isSynthetic (t : Token) : Bool :=
  t.location.length != t.value.length

/-- The longest value that a description shows whole. -/
def shownLength : Nat := 20

/-- The value as a description shows it: a long one is cut, and three dots stand for what is left
out. -/
def shownValue (t : Token) : Text :=
  if t.value.length ≤ shownLength then t.value
  else t.value.take (shownLength - 3) ++ ['.', '.', '.']

/-- The token on one line: kind, value and place. -/
def describe (t : Token) : Except Unwritable String := do
  let place ← t.location.lineColumn
  return "Token(" ++ t.kind.word ++ ", " ++ Text.quoted t.shownValue ++ ", " ++ place ++ ")"

end Token

end Dialogue
