import Dialogue.Reader
import Dialogue.Script

/-!
# Sessions

A session is a user's dealings with any number of lexers. Lexers are opened under names; opening one
under a name that is taken gives the name to the new lexer, and a lexer that cannot be opened leaves
the name with the one that had it. Readers have names of their own and stay with the lexer they were
made for, whatever becomes of its name. The settings in force apply to whatever is opened or decoded
under them.

A session is a value, and each command a function from a session to the session behind it, a reply
or a failure, and the notes that were made. A command that fails may still have moved a lexer.
-/

namespace Dialogue

/-- **What a user can ask for.** -/
inductive Command where
  /-- Open a lexer on a text. -/
  | openText (name : String) (text : Text) (file : Option String)
  /-- Decode some bytes and open a lexer on the text. -/
  | openBytes (name : String) (bytes : Bytes) (file : Option String)
  /-- Look at a lexer without moving it. -/
  | look (name : String)
  /-- Pop the front so many times, up to the first failure. -/
  | pop (name : String) (times : Nat)
  /-- Take the next token. -/
  | next (name : String)
  /-- Take the next tokens, but no more than so many. -/
  | take (name : String) (count : Nat)
  /-- Take all tokens before the end. -/
  | drain (name : String)
  /-- Take all tokens up to and with the end. -/
  | tokenize (name : String)
  /-- Make a reader for a lexer. -/
  | makeReader (name reader : String)
  /-- Take the next token of a reader. -/
  | read (reader : String)
  /-- Ask for the settings in force. -/
  | settings
  /-- Ask for the settings that hold where nothing was ever set. -/
  | freshSettings
  /-- Put settings in force. -/
  | set (config : Config)
  /-- Put the default settings in force. -/
  | reset
  /-- Enter a scope of settings. -/
  | enter (config : Config)
  /-- Leave the innermost scope of settings. -/
  | leave
  /-- Decode some bytes, with a codec of one's own choice or the configured one. -/
  | decode (bytes : Bytes) (encoding : Option String)

/-- What a user is told when a command succeeds. -/
inductive Reply where
  /-- Nothing beyond the success. -/
  | done
  /-- A token. -/
  | token (t : Token)
  /-- Some tokens. -/
  | tokens (ts : List Token)
  /-- Some settings. -/
  | config (c : Config)
  /-- A text. -/
  | text (t : Text)

/-- What a user is told when a command fails. -/
inductive Failure where
  /-- There is no lexer or reader of this name. -/
  | noLexer
  /-- There are no more tokens. -/
  | finished
  /-- The script is at fault, or its bytes are. -/
  | rejection (r : Rejection)

/-- A fault of the script as a failure. -/
abbrev Failure.fault (f : Fault) : Failure :=
  .rejection (.fault f)

/-- **A session**: the settings, the lexers in the order of their opening, and the names. -/
structure Session where
  /-- The settings. -/
  scopes : Scopes := {}
  /-- All lexers that were opened, in order. -/
  lexers : List Lexer := []
  /-- Which lexer a name stands for; the first entry of a name counts. -/
  names : List (String × Nat) := []
  /-- Which lexer a reader belongs to, and how far it is; the first entry of a name counts. -/
  readers : List (String × Nat × Reader) := []

/-- The session behind a command, what the user is told, and the notes that were made. -/
structure Outcome where
  /-- The session afterwards. -/
  session : Session
  /-- What the user is told. -/
  reply : Except Failure Reply
  /-- The notes that were made, in order. -/
  notes : List Note

namespace Session

/-- The number of the lexer that a name stands for. -/
def index? (s : Session) (name : String) : Option Nat :=
  s.names.lookup name

/-- The lexer that a name stands for. -/
def lexer? (s : Session) (name : String) : Option Lexer := do
  s.lexers[← s.index? name]?

/-- The session with a lexer in place of the one of that number. -/
def put (s : Session) (i : Nat) (l : Lexer) : Session :=
  { s with lexers := s.lexers.set i l }

/-- The session with one more lexer, under a name. -/
def add (s : Session) (name : String) (l : Lexer) : Session :=
  { s with lexers := s.lexers ++ [l], names := (name, s.lexers.length) :: s.names }

/-- The outcome of opening a lexer under a name. -/
def ofOpening (s : Session) (name : String) (notes : List Note) : Except Rejection Lexer → Outcome
  | .ok l => ⟨s.add name l, .ok .done, notes⟩
  | .error r => ⟨s, .error (.rejection r), notes⟩

/-- What is done with the lexer of a number, if there is one. -/
def withLexer (s : Session) (i? : Option Nat) (act : Nat → Lexer → Outcome) : Outcome :=
  match i?.bind fun i => (s.lexers[i]?).map (i, ·) with
  | some (i, l) => act i l
  | none => ⟨s, .error .noLexer, []⟩

/-- The outcome of a serving. -/
def ofServed (s : Session) (i : Nat) (served : Served) : Outcome :=
  { session := s.put i served.lexer
    notes := served.notes
    reply := match served.serving with
      | .token t => .ok (.token t)
      | .finished => .error .finished
      | .fault f => .error (.fault f) }

/-- The outcome of a delivery. A delivery that broke off is told by its fault alone. -/
def ofDelivery (s : Session) (i : Nat) (d : Delivery) : Outcome :=
  { session := s.put i d.lexer
    notes := d.notes
    reply := match d.fault with
      | some f => .error (.fault f)
      | none => .ok (.tokens d.tokens) }

/-- The outcome of a move. -/
def ofMove (s : Session) (i : Nat) (m : Move) : Outcome :=
  { session := s.put i m.lexer
    notes := m.notes
    reply := match m.fault with
      | some f => .error (.fault f)
      | none => .ok .done }

/-- One step of a reader, on the lexer it was made for. -/
def readNext (s : Session) (reader : String) : Outcome :=
  match s.readers.lookup reader with
  | none => ⟨s, .error .noLexer, []⟩
  | some (i, r) => s.withLexer (some i) fun i l =>
    ofServed { s with readers := (reader, i, (r.next l).1) :: s.readers } i (r.next l).2

/-- **What a command does.** -/
def run (s : Session) : Command → Outcome
  | .openText name t file =>
    s.ofOpening name [] ((s.scopes.current.openText t file).mapError .fault)
  | .openBytes name bytes file =>
    s.ofOpening name [s.scopes.current.decodingNote bytes none]
      (s.scopes.current.openBytes bytes file)
  | .look name => s.withLexer (s.index? name) fun _ _ => ⟨s, .ok .done, []⟩
  | .pop name times => s.withLexer (s.index? name) fun i l => s.ofMove i (l.popMany times)
  | .next name => s.withLexer (s.index? name) fun i l => s.ofServed i l.next
  | .take name count => s.withLexer (s.index? name) fun i l => s.ofDelivery i (l.take count)
  | .drain name => s.withLexer (s.index? name) fun i l => s.ofDelivery i l.drain
  | .tokenize name => s.withLexer (s.index? name) fun i l => s.ofDelivery i l.tokenize
  | .makeReader name reader => s.withLexer (s.index? name) fun i _ =>
    ⟨{ s with readers := (reader, i, .fresh) :: s.readers }, .ok .done, []⟩
  | .read reader => s.readNext reader
  | .settings => ⟨s, .ok (.config s.scopes.current), []⟩
  | .freshSettings => ⟨s, .ok (.config .default), []⟩
  | .set c => ⟨{ s with scopes := s.scopes.set c }, .ok .done, []⟩
  | .reset => ⟨{ s with scopes := s.scopes.reset }, .ok .done, []⟩
  | .enter c => ⟨{ s with scopes := s.scopes.enter c }, .ok .done, []⟩
  | .leave => ⟨{ s with scopes := s.scopes.leave }, .ok .done, []⟩
  | .decode bytes encoding =>
    { session := s
      notes := [s.scopes.current.decodingNote bytes encoding]
      reply := match s.scopes.current.decode bytes encoding with
        | .ok t => .ok (.text t)
        | .error r => .error (.rejection (.refusal r)) }

end Session

end Dialogue
