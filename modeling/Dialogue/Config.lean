import Dialogue.Text.Quoted

/-!
# Configuration

Three settings govern how a script gets from bytes to tokens: the codec of the bytes, what is done
about bytes that the codec has no character for, and whether a note is made of each character that
is taken for an empty parameter list. Codec and remedy are kept by name, as they were given: whether
a name means anything is asked only when it is used, and messages repeat it as it stands.

Settings hold until they are replaced, or until the scope they were made in is left. Entering a
scope puts new settings in force and remembers those that held; leaving it, in whatever way, brings
these back, whatever was set inside. Outside of all scopes the default settings hold at first.
-/

namespace Dialogue

/-- **The settings for reading scripts.** -/
structure Config where
  /-- The name of the codec of script bytes. -/
  encoding : String := "cp932"
  /-- The name of the remedy for bytes that are no text. -/
  remedy : String := "strict"
  /-- Whether dropped characters are noted. -/
  notesDropped : Bool := true
deriving DecidableEq, Repr

/-- The value of a setting, as a caller gives it. -/
inductive Setting where
  /-- A name. -/
  | text (s : String)
  /-- A choice between two. -/
  | flag (b : Bool)
deriving DecidableEq, Repr

namespace Config

instance : Inhabited Config := ⟨{}⟩

/-- The settings that hold unless others are given. -/
abbrev default : Config := {}

/-- The settings with one of them changed. A name that is no setting changes nothing. -/
def assign (c : Config) : String × Setting → Config
  | ("encoding", .text s) => { c with encoding := s }
  | ("decode_errors", .text s) => { c with remedy := s }
  | ("log_dropped_characters", .flag b) => { c with notesDropped := b }
  | _ => c

/-- **The settings given by a list of names and values.** What is not named keeps its default. -/
def ofEntries (entries : List (String × Setting)) : Config :=
  entries.foldl assign default

@[simp] theorem ofEntries_nil : ofEntries [] = default := rfl

/-- A choice as descriptions show it. -/
def describeFlag (b : Bool) : String :=
  if b then "True" else "False"

/-- The settings on one line. -/
def describe (c : Config) : String :=
  "LexConfig(encoding=" ++ Text.quoted c.encoding.toList ++ ", decode_errors="
    ++ Text.quoted c.remedy.toList ++ ", log_dropped_characters=" ++ describeFlag c.notesDropped
    ++ ")"

end Config

/-! ### Scopes of settings -/

/-- **The settings in force**, and those that come back as the open scopes are left. -/
structure Scopes where
  /-- The settings in force. -/
  current : Config := .default
  /-- The settings at the entry of each open scope, the innermost first. -/
  outer : List Config := []
deriving DecidableEq, Repr

namespace Scopes

/-- Putting settings in force. -/
def set (s : Scopes) (c : Config) : Scopes :=
  { s with current := c }

/-- Putting the default settings in force. -/
def reset (s : Scopes) : Scopes :=
  s.set .default

/-- Entering a scope with settings of its own. -/
def enter (s : Scopes) (c : Config) : Scopes :=
  ⟨c, s.current :: s.outer⟩

/-- Leaving the innermost scope. Where none is open there is nothing to leave. -/
def leave (s : Scopes) : Scopes :=
  match s.outer with
  | [] => s
  | c :: outer => ⟨c, outer⟩

@[simp] theorem leave_enter (s : Scopes) (c : Config) : (s.enter c).leave = s := rfl

end Scopes

end Dialogue
