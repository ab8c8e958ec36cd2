import Dialogue.Delivery
import Dialogue.Encoding.Decode

/-!
# Scripts under settings

The ways into the library: a lexer on a text, a lexer on the bytes of a script, and all tokens of a
text at once, each under given settings. Of the settings a lexer keeps only whether dropped
characters are to be noted, as it was when the lexer was opened.

The library tells its version and the names of what it offers.
-/

namespace Dialogue

/-- The version of the library. -/
def version : String := "0.1.0"

/-- **The names of what the library offers**, in alphabetical order. -/
def offered : List String :=
  ["DecodeError", "LexConfig", "Lexer", "LexerError", "LexerState", "MalformedFunctionError",
    "ScriptlexError", "SourceLocation", "Token", "TokenType", "UnexpectedTokenError",
    "__version__", "decode", "get_lex_config", "lex", "lex_config_context", "lex_text",
    "reset_lex_config", "set_lex_config", "tokenize"]

/-- Why a script was not opened. -/
inductive Rejection where
  /-- Its bytes were not decoded. -/
  | refusal (r : Refusal)
  /-- Its first token is at fault. -/
  | fault (f : Fault)
deriving DecidableEq, Repr

namespace Config

/-- What stays fixed in a lexer that is opened under these settings. -/
def source (c : Config) (file : Option String) : Source :=
  ⟨file, c.notesDropped⟩

/-- **A lexer on a text.** -/
def openText (c : Config) (t : Text) (file : Option String) : Except Fault Lexer :=
  Lexer.ofText (c.source file) t

/-- **A lexer on the bytes of a script**, which are decoded first. -/
def openBytes (c : Config) (bytes : Bytes) (file : Option String) : Except Rejection Lexer :=
  match c.decode bytes none with
  | .error r => .error (.refusal r)
  | .ok t => (c.openText t file).mapError .fault

/-- **All tokens of a text**, up to and with the end, and the notes made on the way. -/
def tokenize (c : Config) (t : Text) (file : Option String) :
    Except Fault (List Token) × List Note :=
  match c.openText t file with
  | .error f => (.error f, [])
  | .ok l => (l.tokenize.result, l.tokenize.notes)

end Config

end Dialogue
