import Dialogue.Location

/-!
# Reports and notes

Everything that can go wrong with a script is reported in one form: a message and, as far as it is
known, a line, a column and a file. The categories of reports form a tree. A report about reading a
script is either about a token at a place where none of its kind may stand, about a call that is not
well formed, or about bytes that are no text; callers may also make reports of the wider categories.

The text of a report is its message behind its location. A report with line and column starts with
the text of the corresponding `Location`; one without keeps what it has. Like a location, a report
with a number that has too many digits has no text.

Reading a script also leaves notes for whoever looks for the reason of a result: that bytes are
being decoded, before each decoding, and that a character behind the name of a call was taken for an
empty parameter list. Notes are values that the operations return beside their results, in the order
in which they were made. They are filed under channels. Channel names are paths below one root, so a
name that is already the root or below it stands for itself and every other name is taken to be
relative.
-/

namespace Dialogue

/-! ### Reports -/

/-- **The categories of reports**, from the widest to the most particular. -/
inductive Category where
  /-- Any error of the library. -/
  | general
  /-- An error in reading a script. -/
  | lexing
  /-- A token where none of its kind may stand. -/
  | unexpected
  /-- A call that is not well formed. -/
  | malformed
  /-- Bytes that are not a text. -/
  | undecodable
deriving DecidableEq, Repr

namespace Category

/-- The word for a category. -/
def word : Category → String
  | general => "ScriptlexError"
  | lexing => "LexerError"
  | unexpected => "UnexpectedTokenError"
  | malformed => "MalformedFunctionError"
  | undecodable => "DecodeError"

/-- A category and all wider ones, in order. -/
def lineage : Category → List Category
  | general => [general]
  | lexing => [lexing, general]
  | unexpected => [unexpected, lexing, general]
  | malformed => [malformed, lexing, general]
  | undecodable => [undecodable, lexing, general]

end Category

/-- **An error report**: what is wrong and, as far as it is known, where. -/
structure Report where
  /-- What the report is about. -/
  category : Category
  /-- The message without its location. -/
  message : String
  /-- The line, if known. -/
  line : Option Int := none
  /-- The column, if known. -/
  column : Option Int := none
  /-- The file, if known. -/
  file : Option String := none
deriving DecidableEq, Repr

namespace Report

/-- The file, if there is one to show, and a colon. -/
def filePart (r : Report) : String :=
  match shownFile r.file with
  | some name => name ++ ":"
  | none => ""

/-- Line and column as far as they are known, each followed by a colon. A column without a line is
not shown. -/
def linePart (r : Report) : Except Unwritable String :=
  match r.line, r.column with
  | some line, some column => do
    let line ← Decimal.write line
    let column ← Decimal.write column
    return line ++ ":" ++ column ++ ":"
  | some line, none => do
    let line ← Decimal.write line
    return line ++ ":"
  | none, _ => .ok ""

/-- All that is known of the location, part by part. -/
def parts (r : Report) : Except Unwritable String :=
  r.linePart.map (r.filePart ++ ·)

/-- What stands before the message: the known parts without the colons at their end, and a blank. -/
def lead (parts : String) : String :=
  if parts = "" then "" else String.ofList (Text.trimEnd (· == ':') parts.toList) ++ " "

/-- **The text of a report**: its location, as far as it is known, and its message. -/
def text (r : Report) : Except Unwritable String :=
  r.parts.map fun parts => lead parts ++ r.message

end Report

/-! ### Notes -/

/-- **A note** made while a script is read. -/
inductive Note where
  /-- So many bytes are about to be decoded with the codec of this name. -/
  | decoding (size : Nat) (codec : String)
  /-- The character behind the name of a call is consumed as an empty parameter list. -/
  | dropped (c : Char) (place : Position)
deriving DecidableEq, Repr

/-- The root of all channels. -/
def channelRoot : String := "scriptlex"

/-- **The full name of a channel.** -/
def channelName (name : String) : String :=
  if name = channelRoot ∨ (channelRoot ++ ".").toList.isPrefixOf name.toList then name
  else channelRoot ++ "." ++ name

namespace Note

/-- The wording of a note. -/
def message : Note → String
  | decoding size codec => "Decoding " ++ toString size ++ " bytes as " ++ codec
  | dropped c place =>
    "Dropping " ++ Text.quoted [c] ++ " after function name at " ++ place.lineColumn

/-- The channel that a note is filed under. -/
def channel : Note → String
  | decoding .. => channelName "decoding"
  | dropped .. => channelName "lexer.scanners.function"

/-- How urgent notes are: of interest only to those who look for them. -/
def level : String := "DEBUG"

end Note

end Dialogue
