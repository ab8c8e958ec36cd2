import Dialogue.Proofs.Log
import Dialogue.Session
import Mathlib.Data.List.Forall2

/-!
# What the settings can change

A sitting is the use of one lexer: it is opened on a text, and then called again and again, with
changes of the settings in between. Two sittings on the same text with the same calls may differ in
the file and in all of their settings, at the opening and at every later moment. They come to the
same, call by call, but for two things: every token and fault has the file of its own sitting, and
the notes are those that the settings at the opening ask for (`lexing_independent_of_settings`).

What is the same is told by putting one sitting in place of the other. `Lexer.under src` is a lexer
as it would be with another source: the cursor stays, and only the file of the front is another one.
No operation looks at the source before it acts, so each of them leads from lexers that correspond
to lexers that correspond (`Lexer.pop_under` and what follows it), and each command from sessions
that are alike to sessions that are alike (`Session.Alike.run`). A change of the settings is not
seen by any lexer.

The notes are told by the tokens (`Source.log`). A session with one lexer keeps the account of them
(`Session.Keeps`): all notes that were made are those of the tokens that the lexer has produced.
-/

namespace Dialogue

/-! ### In another file -/

/-- A token, in another file. -/
def Token.inFile (file : Option String) (t : Token) : Token :=
  { t with location := { t.location with file := file } }

/-- A fault, in another file. -/
def Fault.inFile (file : Option String) (f : Fault) : Fault :=
  { f with file := file }

/-- In another file a fault is reported with the same category and message and the same place. -/
@[simp] theorem Fault.report_inFile (file : Option String) (f : Fault) :
    (f.inFile file).report = { f.report with file := file } := rfl

@[simp] theorem Token.isEnd_inFile (file : Option String) (t : Token) :
    (t.inFile file).isEnd = t.isEnd := rfl

/-- What is served, in another file. -/
def Serving.inFile (file : Option String) : Serving → Serving
  | token t => token (t.inFile file)
  | finished => finished
  | fault f => fault (f.inFile file)

/-- A reader, in another file. -/
def Reader.inFile (file : Option String) : Reader → Reader
  | fresh => fresh
  | behind last => behind (last.inFile file)
  | finished => finished

/-- A reply, in another file. -/
def Reply.inFile (file : Option String) : Reply → Reply
  | token t => token (t.inFile file)
  | tokens ts => tokens (ts.map (Token.inFile file))
  | done => done
  | config c => config c
  | text t => text t

/-- A failure, in another file. -/
def Failure.inFile (file : Option String) : Failure → Failure
  | rejection (.fault f) => rejection (.fault (f.inFile file))
  | rejection (.refusal r) => rejection (.refusal r)
  | noLexer => noLexer
  | finished => finished

/-- What the user is told, in another file. -/
def Outcome.replyIn (file : Option String) (o : Outcome) : Except Failure Reply :=
  (o.reply.map (Reply.inFile file)).mapError (Failure.inFile file)

/-- **A lexer under another source**: it stands where it stood, and its front is in the other
file. -/
def Lexer.under (src : Source) (l : Lexer) : Lexer :=
  ⟨src, l.cursor, l.front.inFile src.file⟩

@[simp] theorem Lexer.isEmpty_under (src : Source) (l : Lexer) :
    (l.under src).isEmpty = l.isEmpty := rfl

/-! ### Operations under another source -/

/-- **Moves that correspond**: the second is the first under another source. The notes may
differ. -/
structure Move.Alike (src : Source) (m m' : Move) : Prop where
  lexer : m'.lexer = m.lexer.under src
  fault : m'.fault = m.fault.map (Fault.inFile src.file)

/-- Deliveries that correspond, likewise. -/
structure Delivery.Alike (src : Source) (d d' : Delivery) : Prop where
  tokens : d'.tokens = d.tokens.map (Token.inFile src.file)
  lexer : d'.lexer = d.lexer.under src
  fault : d'.fault = d.fault.map (Fault.inFile src.file)

/-- Servings that correspond, likewise. -/
structure Served.Alike (src : Source) (d d' : Served) : Prop where
  serving : d'.serving = d.serving.inFile src.file
  lexer : d'.lexer = d.lexer.under src

/-- One token more in front, each in its own file. What was noted on the way may differ. -/
theorem Delivery.Alike.cons {src : Source} {d d' : Delivery} (h : d.Alike src d') (t : Token)
    (notes notes' : List Note) :
    (d.cons t notes).Alike src (d'.cons (t.inFile src.file) notes') where
  tokens := by rw [tokens_cons, tokens_cons, h.tokens, List.map_cons]
  lexer := h.lexer
  fault := h.fault

namespace Lexer

variable {l : Lexer} {f : Fault}

/-- Opening a text does the same under every source. -/
theorem ofText_under (src src' : Source) (s : Text) :
    ofText src' s = ((ofText src s).map (under src')).mapError (Fault.inFile src'.file) := by
  -- the source is looked at only when the token or the fault is made
  unfold ofText
  cases (Cursor.ofText s).advance <;> rfl

/-- **A pop does the same under every source.** -/
theorem pop_under (src : Source) (l : Lexer) : l.pop.Alike src (l.under src).pop := by
  cases hadv : l.cursor.advance with
  | read lexeme p next =>
    rw [pop_of_read hadv, pop_of_read (l := l.under src) hadv]
    exact ⟨rfl, rfl⟩
  | stuck e c =>
    rw [pop_of_stuck hadv, pop_of_stuck (l := l.under src) hadv]
    exact ⟨rfl, rfl⟩

/-! A pop fails under both sources or under none, so every operation that is made of pops takes the
same branch on both sides. -/

theorem fault_pop_under_of_some (src : Source) (h : l.pop.fault = some f) :
    (l.under src).pop.fault = some (f.inFile src.file) := by
  rw [(pop_under src l).fault, h, Option.map_some]

theorem fault_pop_under_of_none (src : Source) (h : l.pop.fault = none) :
    (l.under src).pop.fault = none := by
  rw [(pop_under src l).fault, h, Option.map_none]

/-- Any number of pops does the same under every source. -/
theorem popMany_under (src : Source) (n : Nat) (l : Lexer) :
    (l.popMany n).Alike src ((l.under src).popMany n) := by
  induction n generalizing l with
  | zero => exact ⟨rfl, rfl⟩
  | succ n ih =>
    cases hf : l.pop.fault with
    | some f =>
      rw [popMany_succ_of_fault hf, popMany_succ_of_fault (fault_pop_under_of_some src hf)]
      exact pop_under src l
    | none =>
      rw [popMany_succ_of_ok hf, popMany_succ_of_ok (fault_pop_under_of_none src hf),
        (pop_under src l).lexer]
      exact ⟨(ih l.pop.lexer).lexer, (ih l.pop.lexer).fault⟩

/-- Taking a number of tokens does the same: whether the end is reached is no matter of the file. -/
theorem take_under (src : Source) (n : Nat) (l : Lexer) :
    (l.take n).Alike src ((l.under src).take n) := by
  induction n generalizing l with
  | zero => exact ⟨rfl, rfl, rfl⟩
  | succ n ih =>
    rw [take, take, isEmpty_under]
    split
    · exact ⟨rfl, rfl, rfl⟩
    · cases hf : l.pop.fault with
      | some f =>
        rw [fault_pop_under_of_some src hf]
        exact ⟨rfl, (pop_under src l).lexer, rfl⟩
      | none =>
        -- the token taken is the front before the pop, in its own file
        rw [fault_pop_under_of_none src hf, (pop_under src l).lexer]
        exact (ih l.pop.lexer).cons l.front _ _

/-- Draining does the same, along its own recursion. -/
theorem drain_under (src : Source) (l : Lexer) : l.drain.Alike src (l.under src).drain := by
  fun_induction drain l with
  | case1 l he =>
    rw [drain_of_isEmpty (l := l.under src) he]
    exact ⟨rfl, rfl, rfl⟩
  | case2 l he f hf =>
    rw [drain_of_fault (l := l.under src) he (fault_pop_under_of_some src hf)]
    exact ⟨rfl, (pop_under src l).lexer, rfl⟩
  | case3 l he hf ih =>
    rw [drain_of_pop (l := l.under src) he (fault_pop_under_of_none src hf),
      (pop_under src l).lexer]
    exact ih.cons l.front _ _

/-- Tokenizing does the same, along its own recursion. -/
theorem tokenize_under (src : Source) (l : Lexer) :
    l.tokenize.Alike src (l.under src).tokenize := by
  fun_induction tokenize l with
  | case1 l he =>
    rw [tokenize_of_isEmpty (l := l.under src) he]
    exact ⟨rfl, rfl, rfl⟩
  | case2 l he f hf =>
    rw [tokenize_of_fault (l := l.under src) he (fault_pop_under_of_some src hf)]
    exact ⟨rfl, (pop_under src l).lexer, rfl⟩
  | case3 l he hf ih =>
    rw [tokenize_of_pop (l := l.under src) he (fault_pop_under_of_none src hf),
      (pop_under src l).lexer]
    exact ih.cons l.front _ _

/-- Taking the next token does the same. -/
theorem next_under (src : Source) (l : Lexer) : l.next.Alike src (l.under src).next := by
  rw [next, next, isEmpty_under]
  split
  · exact ⟨rfl, rfl⟩
  · cases hf : l.pop.fault with
    | some f =>
      rw [fault_pop_under_of_some src hf]
      exact ⟨rfl, (pop_under src l).lexer⟩
    | none =>
      rw [fault_pop_under_of_none src hf]
      exact ⟨rfl, (pop_under src l).lexer⟩

end Lexer

/-- A reader decides by the kind of its last token, and that is the same in every file. -/
theorem Reader.next_under (src : Source) (r : Reader) (l : Lexer) :
    ((r.inFile src.file).next (l.under src)).1 = (r.next l).1.inFile src.file ∧
      (r.next l).2.Alike src ((r.inFile src.file).next (l.under src)).2 := by
  cases r with
  | fresh | finished => exact ⟨rfl, rfl, rfl⟩
  | behind last =>
    rw [inFile, next, next, Token.isEnd_inFile]
    split
    · exact ⟨rfl, rfl, rfl⟩
    · cases hf : l.pop.fault with
      | some f =>
        rw [Lexer.fault_pop_under_of_some src hf]
        exact ⟨rfl, rfl, (Lexer.pop_under src l).lexer⟩
      | none =>
        rw [Lexer.fault_pop_under_of_none src hf, (Lexer.pop_under src l).lexer]
        exact ⟨rfl, rfl, rfl⟩

/-! ### Sittings -/

/-- **A change of the settings**, by the command of the same name. -/
inductive Change where
  | set (config : Config)
  | reset
  | enter (config : Config)
  | leave

/-- **What is asked of an open lexer**, by the command of the same name. -/
inductive Call where
  | look
  | pop (times : Nat)
  | next
  | take (count : Nat)
  | drain
  | tokenize
  | makeReader (reader : String)
  | read (reader : String)

/-- The command that makes a change. -/
def Change.command : Change → Command
  | set c => .set c
  | reset => .reset
  | enter c => .enter c
  | leave => .leave

/-- The command that makes a call, on the lexer of a name. -/
def Call.command (name : String) : Call → Command
  | look => .look name
  | pop times => .pop name times
  | next => .next name
  | take count => .take name count
  | drain => .drain name
  | tokenize => .tokenize name
  | makeReader reader => .makeReader name reader
  | read reader => .read reader

namespace Session

/-- A session behind some changes of the settings. -/
def change (s : Session) (changes : List Change) : Session :=
  changes.foldl (fun s c => (s.run c.command).session) s

/-- **The outcomes of calls**, one after the other, each behind some changes of the settings. -/
def play (name : String) : Session → List (List Change × Call) → List Outcome
  | _, [] => []
  | s, (changes, call) :: plan =>
    (s.change changes).run (call.command name) ::
      play name ((s.change changes).run (call.command name)).session plan

end Session

/-- **A sitting** that starts in some settings: a lexer is opened on a text, and then called. -/
def Scopes.sitting (scopes : Scopes) (name : String) (s : Text) (file : Option String)
    (plan : List (List Change × Call)) : List Outcome :=
  ({ scopes := scopes } : Session).run (.openText name s file) ::
    (({ scopes := scopes } : Session).run (.openText name s file)).session.play name plan

/-! ### Sessions that are alike -/

/-- **Sessions that are alike**: the second is the first with its lexers under another source. The
settings may differ. -/
structure Session.Alike (src : Source) (s s' : Session) : Prop where
  lexers : s'.lexers = s.lexers.map (Lexer.under src)
  names : s'.names = s.names
  readers : ∀ reader,
    s'.readers.lookup reader = (s.readers.lookup reader).map (Prod.map id (Reader.inFile src.file))

/-- **Outcomes that are alike**: the sessions are, and what the user is told is the same, but for
the file. -/
structure Outcome.Alike (src : Source) (o o' : Outcome) : Prop where
  session : o.session.Alike src o'.session
  reply : o'.reply = o.replyIn src.file

namespace Session

variable {src : Source} {s s' : Session}

/-- At first there are no lexers, whatever the settings. -/
theorem alike_empty (src : Source) (scopes scopes' : Scopes) :
    Alike src { scopes := scopes } { scopes := scopes' } :=
  ⟨rfl, rfl, fun _ => rfl⟩

/-- Lexers of the same number correspond. -/
theorem Alike.getElem?_lexers (h : s.Alike src s') (i : Nat) :
    s'.lexers[i]? = (s.lexers[i]?).map (Lexer.under src) := by
  rw [h.lexers, List.getElem?_map]

theorem Alike.index? (h : s.Alike src s') (name : String) : s'.index? name = s.index? name := by
  rw [Session.index?, h.names, Session.index?]

/-- Lexers of the same name correspond, for the names are the same. -/
theorem Alike.lexer? (h : s.Alike src s') (name : String) :
    s'.lexer? name = (s.lexer? name).map (Lexer.under src) := by
  unfold Session.lexer?
  rw [h.index?]
  cases s.index? name with
  | none => rfl
  | some i => exact h.getElem?_lexers i

/-- A lexer that has moved, on both sides. -/
theorem Alike.put (h : s.Alike src s') (i : Nat) (l : Lexer) :
    (s.put i l).Alike src (s'.put i (l.under src)) where
  lexers := by rw [Session.put, Session.put, h.lexers, List.map_set]
  names := h.names
  readers := h.readers

/-- A lexer that was opened, on both sides. It gets the same number. -/
theorem Alike.add (h : s.Alike src s') (name : String) (l : Lexer) :
    (s.add name l).Alike src (s'.add name (l.under src)) where
  lexers := by rw [Session.add, Session.add, h.lexers, List.map_append]; rfl
  names := by rw [Session.add, Session.add, h.lexers, h.names, List.length_map]
  readers := h.readers

/-- A reader that was made or has moved, on both sides. -/
theorem Alike.withReader (h : s.Alike src s') (reader : String) (i : Nat) (r : Reader) :
    Alike src { s with readers := (reader, i, r) :: s.readers }
      { s' with readers := (reader, i, r.inFile src.file) :: s'.readers } where
  lexers := h.lexers
  names := h.names
  readers := by
    intro reader'
    simp only [List.lookup_cons]
    split
    · rfl
    · exact h.readers reader'

/-! A call looks up a lexer and puts another one in its place. -/

/-- If there is no lexer of this number on one side there is none on the other, and both fail. -/
theorem Alike.withLexer (h : s.Alike src s') (i? : Option Nat) {act act' : Nat → Lexer → Outcome}
    (hact : ∀ i l, (act i l).Alike src (act' i (l.under src))) :
    (s.withLexer i? act).Alike src (s'.withLexer i? act') := by
  unfold Session.withLexer
  cases i? with
  | none => exact ⟨h, rfl⟩
  | some i =>
    simp only [Option.bind_some, h.getElem?_lexers i]
    cases s.lexers[i]? with
    | none => exact ⟨h, rfl⟩
    | some l => exact hact i l

theorem Alike.withNamed (h : s.Alike src s') (name : String) {act act' : Nat → Lexer → Outcome}
    (hact : ∀ i l, (act i l).Alike src (act' i (l.under src))) :
    (s.withLexer (s.index? name) act).Alike src (s'.withLexer (s'.index? name) act') := by
  rw [h.index? name]
  exact h.withLexer (s.index? name) hact

/-- The outcome of pops: the lexers are put back, and both faults are told or none. -/
theorem Alike.ofMove (h : s.Alike src s') (i : Nat) {m m' : Move} (hm : m.Alike src m') :
    (s.ofMove i m).Alike src (s'.ofMove i m') := by
  obtain ⟨l, f, notes⟩ := m
  obtain ⟨l', f', notes'⟩ := m'
  obtain ⟨rfl, rfl⟩ := hm
  refine ⟨h.put i l, ?_⟩
  cases f <;> rfl

/-- The outcome of taking many tokens, likewise. -/
theorem Alike.ofDelivery (h : s.Alike src s') (i : Nat) {d d' : Delivery} (hd : d.Alike src d') :
    (s.ofDelivery i d).Alike src (s'.ofDelivery i d') := by
  obtain ⟨ts, l, f, notes⟩ := d
  obtain ⟨ts', l', f', notes'⟩ := d'
  obtain ⟨rfl, rfl, rfl⟩ := hd
  refine ⟨h.put i l, ?_⟩
  cases f <;> rfl

/-- The outcome of taking one token, likewise. -/
theorem Alike.ofServed (h : s.Alike src s') (i : Nat) {d d' : Served} (hd : d.Alike src d') :
    (s.ofServed i d).Alike src (s'.ofServed i d') := by
  obtain ⟨serving, l, notes⟩ := d
  obtain ⟨serving', l', notes'⟩ := d'
  obtain ⟨rfl, rfl⟩ := hd
  refine ⟨h.put i l, ?_⟩
  -- a token, the end and a fault are told in different ways, but on both sides in the same
  cases serving <;> rfl

/-- A step of a reader, by its name. -/
theorem Alike.readNext (h : s.Alike src s') (reader : String) :
    (s.readNext reader).Alike src (s'.readNext reader) := by
  unfold Session.readNext
  rw [h.readers reader]
  cases s.readers.lookup reader with
  | none => exact ⟨h, rfl⟩
  | some entry =>
    obtain ⟨i, r⟩ := entry
    refine h.withLexer (some i) ?_
    intro i l
    -- the reader moves in step on both sides, and is entered anew on both
    obtain ⟨hreader, hserved⟩ := r.next_under src l
    simp only [hreader]
    exact (h.withReader reader i (r.next l).1).ofServed i hserved

/-- **A call on sessions that are alike** comes to outcomes that are alike. -/
theorem Alike.run (h : s.Alike src s') (name : String) (call : Call) :
    (s.run (call.command name)).Alike src (s'.run (call.command name)) := by
  cases call with
  | look => exact h.withNamed name fun _ _ => ⟨h, rfl⟩
  | pop times => exact h.withNamed name fun i l => h.ofMove i (l.popMany_under src times)
  | next => exact h.withNamed name fun i l => h.ofServed i (l.next_under src)
  | take count => exact h.withNamed name fun i l => h.ofDelivery i (l.take_under src count)
  | drain => exact h.withNamed name fun i l => h.ofDelivery i (l.drain_under src)
  | tokenize => exact h.withNamed name fun i l => h.ofDelivery i (l.tokenize_under src)
  | makeReader reader =>
    exact h.withNamed name fun i _ => ⟨h.withReader reader i .fresh, rfl⟩
  | read reader => exact h.readNext reader

/-- Changes of the settings change the settings and nothing else. -/
theorem exists_change_eq (s : Session) (changes : List Change) :
    ∃ scopes, s.change changes = { s with scopes := scopes } := by
  induction changes generalizing s with
  | nil => exact ⟨s.scopes, rfl⟩
  | cons c changes ih =>
    obtain ⟨scopes, hscopes⟩ := ih (s.run c.command).session
    -- the first change has replaced the settings, and the later ones replace them once more
    refine ⟨scopes, hscopes.trans ?_⟩
    cases c <;> rfl

/-- No settings are compared, so the changes need not be the same on both sides. -/
theorem Alike.change (h : s.Alike src s') (changes changes' : List Change) :
    (s.change changes).Alike src (s'.change changes') := by
  obtain ⟨scopes, hs⟩ := s.exists_change_eq changes
  obtain ⟨scopes', hs'⟩ := s'.exists_change_eq changes'
  rw [hs, hs']
  exact ⟨h.lexers, h.names, h.readers⟩

theorem run_openText (s : Session) (name : String) (t : Text) (file : Option String) :
    s.run (.openText name t file) =
      s.ofOpening name [] ((Lexer.ofText (s.scopes.current.source file) t).mapError .fault) := rfl

/-- **Opening a lexer** on one text, whatever the settings and the file. -/
theorem alike_openText (s : Text) (name : String) (scopes scopes' : Scopes)
    (file file' : Option String) :
    Outcome.Alike (scopes'.current.source file')
      (({ scopes := scopes } : Session).run (.openText name s file))
      (({ scopes := scopes' } : Session).run (.openText name s file')) := by
  have hempty := alike_empty (scopes'.current.source file') scopes scopes'
  have hlexer := Lexer.ofText_under (scopes.current.source file) (scopes'.current.source file') s
  rw [run_openText, run_openText, hlexer]
  -- the second opening is the first one under the second source, a failed one included
  cases Lexer.ofText (scopes.current.source file) s with
  | ok l => exact ⟨hempty.add name l, rfl⟩
  | error f => exact ⟨hempty, rfl⟩

end Session

/-! ### The account of the notes -/

/-- **A session without a lexer**, and so without readers. -/
structure Session.Bare (s : Session) : Prop where
  lexers : s.lexers = []
  names : s.names = []
  readers : s.readers = []

/-- **A session with one lexer**, which has its name and all readers. -/
structure Session.Sole (name : String) (l : Lexer) (s : Session) : Prop where
  lexers : s.lexers = [l]
  names : s.names = [(name, 0)]
  readers : ∀ reader i r, s.readers.lookup reader = some (i, r) → i = 0

namespace Session

variable {src : Source} {t : Text} {name : String} {s : Session} {l l' : Lexer}

theorem Bare.withNamed (h : s.Bare) (name : String) (act : Nat → Lexer → Outcome) :
    s.withLexer (s.index? name) act = ⟨s, .error .noLexer, []⟩ := by
  rw [withLexer, index?, h.names]
  rfl

/-- Without a lexer, all calls fail and leave the session as it is. -/
theorem Bare.run (h : s.Bare) (name : String) (call : Call) :
    s.run (call.command name) = ⟨s, .error .noLexer, []⟩ := by
  cases call with
  | look | pop | next | take | drain | tokenize | makeReader => exact h.withNamed name _
  | read reader =>
    change s.readNext reader = _
    rw [readNext, h.readers]
    rfl

theorem Sole.index?_eq (h : s.Sole name l) : s.index? name = some 0 := by
  rw [index?, h.names, List.lookup_cons_self]

theorem Sole.lexer?_eq (h : s.Sole name l) : s.lexer? name = some l := by
  rw [lexer?, h.index?_eq]
  change s.lexers[0]? = some l
  rw [h.lexers]
  rfl

/-- The only lexer has number zero, which is also the number that its readers have. -/
theorem Sole.withLexer (h : s.Sole name l) (act : Nat → Lexer → Outcome) :
    s.withLexer (some 0) act = act 0 l := by
  rw [Session.withLexer, h.lexers]
  rfl

/-- A lexer in place of the only one. -/
theorem Sole.put (h : s.Sole name l) (l' : Lexer) : (s.put 0 l').Sole name l' where
  lexers := by rw [Session.put, h.lexers]; rfl
  names := h.names
  readers := h.readers

/-- A reader of the only lexer, new or moved. -/
theorem Sole.withReader (h : s.Sole name l) (reader : String) (r : Reader) :
    Sole name l { s with readers := (reader, 0, r) :: s.readers } where
  lexers := h.lexers
  names := h.names
  readers := by
    intro reader' i r' hlookup
    -- a later entry hides those of the same name, and it has number zero as well
    simp only [List.lookup_cons] at hlookup
    split at hlookup
    · cases hlookup
      rfl
    · exact h.readers reader' i r' hlookup

/-- What is done with the only lexer, by its name. -/
theorem Sole.withNamed (h : s.Sole name l) {act : Nat → Lexer → Outcome}
    (hact : ∃ l', (act 0 l).session.Sole name l' ∧ Lexer.Leads src t l l' (act 0 l).notes) :
    ∃ l', (s.withLexer (s.index? name) act).session.Sole name l' ∧
      Lexer.Leads src t l l' (s.withLexer (s.index? name) act).notes := by
  rw [h.index?_eq, h.withLexer]
  exact hact

/-- **A call on the only lexer leads along its run**, and the notes are those of the tokens on the
way. -/
theorem Sole.run (h : s.Sole name l) (src : Source) (t : Text) (call : Call) :
    ∃ l', (s.run (call.command name)).session.Sole name l' ∧
      Lexer.Leads src t l l' (s.run (call.command name)).notes := by
  cases call with
  | look => exact h.withNamed ⟨l, h, .refl l⟩
  | pop times => exact h.withNamed ⟨_, h.put _, l.leads_popMany times⟩
  | next => exact h.withNamed ⟨_, h.put _, l.leads_next⟩
  | take count => exact h.withNamed ⟨_, h.put _, l.leads_take count⟩
  | drain => exact h.withNamed ⟨_, h.put _, l.leads_drain⟩
  | tokenize => exact h.withNamed ⟨_, h.put _, l.leads_tokenize⟩
  | makeReader reader => exact h.withNamed ⟨l, h.withReader reader .fresh, .refl l⟩
  | read reader =>
    change ∃ l', (s.readNext reader).session.Sole name l' ∧
      Lexer.Leads src t l l' (s.readNext reader).notes
    rw [readNext]
    cases hreader : s.readers.lookup reader with
    | none => exact ⟨l, h, .refl l⟩
    | some entry =>
      obtain ⟨i, r⟩ := entry
      -- whichever reader it is, it is one of this lexer
      obtain rfl := h.readers reader i r hreader
      simp only [h.withLexer]
      exact ⟨_, (h.withReader reader _).put _, l.leads_reader r⟩

end Session

/-- **A session keeps the account of the notes** on a script: it has no lexer, and no note was made,
or it has one lexer, and the notes are those of the tokens that the lexer has produced. -/
inductive Session.Keeps (src : Source) (t : Text) (name : String) : Session → List Note → Prop
  /-- The lexer was not opened. -/
  | closed {s : Session} : s.Bare → Keeps src t name s []
  /-- The lexer was opened, and has come so far. -/
  | opened {s : Session} {l : Lexer} {ts : List Token} :
      s.Sole name l → Lexer.Run src t ts l → Keeps src t name s (src.log t ts)

namespace Session

variable {src : Source} {t : Text} {name : String} {s : Session} {notes : List Note}

/-- A change of the settings makes no note and moves no lexer. -/
theorem Keeps.change (h : Keeps src t name s notes) (changes : List Change) :
    Keeps src t name (s.change changes) notes := by
  obtain ⟨scopes, hs⟩ := s.exists_change_eq changes
  rw [hs]
  cases h with
  | closed hbare => exact .closed ⟨hbare.lexers, hbare.names, hbare.readers⟩
  | opened hsole hrun => exact .opened ⟨hsole.lexers, hsole.names, hsole.readers⟩ hrun

/-- **A call keeps the account.** -/
theorem Keeps.run (h : Keeps src t name s notes) (call : Call) :
    Keeps src t name (s.run (call.command name)).session
      (notes ++ (s.run (call.command name)).notes) := by
  cases h with
  | closed hbare =>
    rw [hbare.run]
    exact .closed hbare
  | opened hsole hrun =>
    obtain ⟨l', hsole', hleads⟩ := hsole.run src t call
    -- the notes of the call are those of the tokens it has added to the run
    obtain ⟨more, hmore, hnotes⟩ := hleads _ hrun
    rw [hnotes, ← Source.log_append]
    exact .opened hsole' hmore

/-- The account is kept from the opening on, which makes no note, whether it succeeds or not. -/
theorem keeps_openText (scopes : Scopes) (name : String) (t : Text) (file : Option String) :
    Keeps (scopes.current.source file) t name
      (({ scopes := scopes } : Session).run (.openText name t file)).session
      (({ scopes := scopes } : Session).run (.openText name t file)).notes := by
  rw [run_openText]
  cases hl : Lexer.ofText (scopes.current.source file) t with
  | error f => exact .closed ⟨rfl, rfl, rfl⟩
  | ok l =>
    have hsole : (({ scopes := scopes } : Session).add name l).Sole name l :=
      ⟨rfl, rfl, fun _ _ _ h => by cases h⟩
    have hkeeps := Keeps.opened hsole (.opened hl)
    -- no note was made, and none is due for the first token
    rw [Lexer.log_of_ofText hl] at hkeeps
    exact hkeeps

/-- The account, as it is told by the lexer. -/
theorem Keeps.account (h : Keeps src t name s notes) :
    (∀ l, s.lexer? name = some l → ∃ ts, Lexer.Run src t ts l ∧ notes = src.log t ts) ∧
      (s.lexer? name = none → notes = []) := by
  cases h with
  | closed hbare =>
    have hnone : s.lexer? name = none := by
      rw [lexer?, index?, hbare.names]
      rfl
    refine ⟨?_, fun _ => rfl⟩
    intro l hl
    rw [hnone] at hl
    cases hl
  | opened hsole hrun =>
    rw [hsole.lexer?_eq]
    constructor
    · intro l hl
      cases hl
      exact ⟨_, hrun, rfl⟩
    · intro hnone
      cases hnone

/-- **The account is kept at every moment** behind an outcome that keeps it. -/
theorem Keeps.outcomes (notes : List Note) {first o : Outcome} {plan : List (List Change × Call)}
    {before after : List Outcome} (h : Keeps src t name first.session (notes ++ first.notes))
    (heq : first :: first.session.play name plan = before ++ o :: after) :
    Keeps src t name o.session (notes ++ (before ++ [o]).flatMap Outcome.notes) := by
  -- along the outcomes passed over; `notes` are those that were made before the first of them
  induction before generalizing notes first plan with
  | nil =>
    obtain ⟨rfl, -⟩ := List.cons.inj heq
    simpa only [List.nil_append, List.flatMap_singleton] using h
  | cons b before ih =>
    obtain ⟨rfl, hrest⟩ := List.cons.inj heq
    cases plan with
    | nil => exact absurd hrest.symm (List.append_ne_nil_of_right_ne_nil _ (List.cons_ne_nil _ _))
    | cons step plan =>
      have hnext := ih (notes ++ first.notes) ((h.change step.1).run step.2) hrest
      rw [List.append_assoc] at hnext
      exact hnext

end Session

/-! ### Two sittings -/

/-- **Outcomes agree** when either is the other in its own file, and so is the lexer under its own
source. -/
structure Outcome.Agree (src src' : Source) (name : String) (o o' : Outcome) : Prop where
  /-- What the second tells is what the first tells, in the second file. -/
  reply : o'.reply = o.replyIn src'.file
  /-- The other way round. -/
  reply_back : o.reply = o'.replyIn src.file
  /-- The lexer of the second is the lexer of the first, under the second source. -/
  lexer : o'.session.lexer? name = (o.session.lexer? name).map (Lexer.under src')
  /-- The other way round. -/
  lexer_back : o.session.lexer? name = (o'.session.lexer? name).map (Lexer.under src)

/-- Outcomes that are alike both ways agree. -/
theorem Outcome.Alike.agree {src src' : Source} {o o' : Outcome} (h : o.Alike src' o')
    (h' : o'.Alike src o) (name : String) : o.Agree src src' name o' where
  reply := h.reply
  reply_back := h'.reply
  lexer := h.session.lexer? name
  lexer_back := h'.session.lexer? name

/-- **The same calls agree, one by one**, on sessions that are alike. -/
theorem Session.Alike.play {src src' : Source} {s s' : Session} (h : s.Alike src' s')
    (h' : s'.Alike src s) (name : String) {plan plan' : List (List Change × Call)}
    (hcalls : plan.map Prod.snd = plan'.map Prod.snd) :
    List.Forall₂ (Outcome.Agree src src' name) (s.play name plan) (s'.play name plan') := by
  induction plan generalizing s s' plan' with
  | nil =>
    obtain rfl := List.map_eq_nil_iff.mp hcalls.symm
    exact .nil
  | cons step plan ih =>
    obtain ⟨step', plan', rfl, hcall, hrest⟩ := List.map_eq_cons_iff.mp hcalls.symm
    -- the changes may differ, but the call behind them is one and the same
    have hrun := (h.change step.1 step'.1).run name step.2
    have hrun' := (h'.change step'.1 step.1).run name step.2
    rw [Session.play, Session.play, hcall]
    exact .cons (hrun.agree hrun' name) (ih hrun.session hrun'.session hrest.symm)

/-- **Settings and file do not matter for lexing.** Take two sittings on one text with the same
calls, in any settings at the opening and with any changes of them between the calls, and in any
files. Call by call they agree: tokens and faults are the same but for the file, which is that of
the sitting, and so are the lexers, with the cursor and its mode. At every moment of a sitting the
notes that have been made are those of the tokens produced so far, one for each synthetic opening
parenthesis in front of a character, if dropped characters were to be noted when the lexer was
opened, and none otherwise; there are none if it could not be opened. -/
theorem lexing_independent_of_settings (name : String) (s : Text) (scopes scopes' : Scopes)
    (file file' : Option String) (plan plan' : List (List Change × Call))
    (hcalls : plan.map Prod.snd = plan'.map Prod.snd) :
    List.Forall₂ (Outcome.Agree (scopes.current.source file) (scopes'.current.source file') name)
      (scopes.sitting name s file plan) (scopes'.sitting name s file' plan') ∧
    ∀ before o after, scopes.sitting name s file plan = before ++ o :: after →
      (∀ l, o.session.lexer? name = some l →
        ∃ ts, Lexer.Run (scopes.current.source file) s ts l ∧
          (before ++ [o]).flatMap Outcome.notes = (scopes.current.source file).log s ts) ∧
      (o.session.lexer? name = none → (before ++ [o]).flatMap Outcome.notes = []) := by
  constructor
  · -- either sitting is the other one under its own source
    have hopen := Session.alike_openText s name scopes scopes' file file'
    have hopen' := Session.alike_openText s name scopes' scopes file' file
    exact .cons (hopen.agree hopen' name) (hopen.session.play hopen'.session name hcalls)
  · intro before o after heq
    have hopen := Session.keeps_openText scopes name s file
    exact (Session.Keeps.outcomes [] hopen heq).account

/-- A call without parentheses, in two sittings. In the first, dropped characters are noted at the
opening and no longer before the pop that drops one; in the second it is the other way round. -/
theorem lexing_independent_of_settings_flag_changed :
    ∃ sitting sitting',
      sitting = Scopes.sitting {} "x" ['@', 'f', '.'] none
        [([.set { notesDropped := false }], .pop 1), ([], .take 1)] ∧
      sitting' = Scopes.sitting ⟨{ notesDropped := false }, []⟩ "x" ['@', 'f', '.'] (some "a")
        [([.reset], .pop 1), ([], .take 1)] ∧
      List.Forall₂ (Outcome.Agree ⟨none, true⟩ ⟨some "a", false⟩ "x") sitting sitting' ∧
      (∃ l ts, Lexer.Run ⟨none, true⟩ ['@', 'f', '.'] ts l ∧
        sitting.flatMap Outcome.notes = Source.log ⟨none, true⟩ ['@', 'f', '.'] ts) ∧
      sitting.flatMap Outcome.notes = [.dropped '.' ⟨2, 1, 3⟩] ∧
      sitting'.flatMap Outcome.notes = [] := by
  obtain ⟨hagree, hlog⟩ := lexing_independent_of_settings "x" ['@', 'f', '.'] {}
    ⟨{ notesDropped := false }, []⟩ none (some "a")
    [([.set { notesDropped := false }], .pop 1), ([], .take 1)] [([.reset], .pop 1), ([], .take 1)]
    rfl
  obtain ⟨ts, hrun, hnotes⟩ := (hlog [_, _] _ [] rfl).1 _ rfl
  exact ⟨_, _, rfl, rfl, hagree, ⟨_, ts, hrun, hnotes⟩, rfl, rfl⟩

end Dialogue
