import Dialogue.Config
import Dialogue.Cursor

/-!
# Lexers

A lexer holds the token at the front of a script and the cursor behind it. It is opened on a text by
reading the first token, and moved by *popping* the front: the next token is read and takes its
place. A pop that fails leaves the front where it is; only the layout it passed over stays passed
over.

The file and whether dropped characters are noted are fixed when the lexer is opened. They go into
the tokens, faults and notes that it makes, and into nothing else. Beyond the end of the script
popping reads the end again and again.
-/

namespace Dialogue

/-- **What stays fixed while a script is read.** -/
structure Source where
  /-- The file that the script came from. -/
  file : Option String
  /-- Whether dropped characters are noted. -/
  notesDropped : Bool
deriving DecidableEq, Repr

/-- **A lexer**: the token at the front of a script and the cursor behind it. -/
structure Lexer where
  /-- What stays fixed. -/
  source : Source
  /-- Where reading stands, behind the front. -/
  cursor : Cursor
  /-- The current token. -/
  front : Token
deriving DecidableEq, Repr

/-- What a move of a lexer comes to: the lexer behind it, the fault if it failed, the notes it made.
-/
structure Move where
  /-- The lexer after the move. -/
  lexer : Lexer
  /-- Why the move failed, if it did. -/
  fault : Option Fault
  /-- The notes that were made, in order. -/
  notes : List Note
deriving DecidableEq, Repr

namespace Source

/-- The notes that go with a lexeme. -/
def notes (s : Source) (l : Lexeme) (start : Position) : List Note :=
  if s.notesDropped then (l.dropped?.map (Note.dropped · (start.after l.lead))).toList else []

/-- The fault of being stuck at a cursor. -/
def fault (s : Source) (cause : Cause) (c : Cursor) : Fault :=
  ⟨cause, c.place, s.file⟩

end Source

namespace Lexer

/-- Whether the front is the end of the script. -/
def isEmpty (l : Lexer) : Bool :=
  l.front.isEnd

/-- **A lexer on a text**, with its first token read. Nothing is dropped before a first token, so no
note can be due. -/
def ofText (s : Source) (t : Text) : Except Fault Lexer :=
  match (Cursor.ofText t).advance with
  | .read lexeme start next => .ok ⟨s, next, lexeme.token start s.file⟩
  | .stuck cause c => .error (s.fault cause c)

/-- **Popping the front**: the next token takes its place. -/
def pop (l : Lexer) : Move :=
  match l.cursor.advance with
  | .read lexeme start next =>
    ⟨⟨l.source, next, lexeme.token start l.source.file⟩, none, l.source.notes lexeme start⟩
  | .stuck cause c => ⟨{ l with cursor := c }, some (l.source.fault cause c), []⟩

/-- Popping so many times, up to the first failure. -/
def popMany : Nat → Lexer → Move
  | 0, l => ⟨l, none, []⟩
  | n + 1, l =>
    let m := l.pop
    match m.fault with
    | some _ => m
    | none =>
      let m' := popMany n m.lexer
      { m' with notes := m.notes ++ m'.notes }

/-- How many more moves a lexer can make at most. -/
def workload (l : Lexer) : Nat :=
  if l.isEmpty then 0 else l.cursor.workload + 1

/-- **A successful pop gets nearer to the end**, until the end is the front. -/
theorem workload_pop_lt {l : Lexer} (he : ¬ l.isEmpty = true) (h : l.pop.fault = none) :
    l.pop.lexer.workload < l.workload := by
  unfold pop at h ⊢
  split at h
  · next lexeme start next hr =>
    by_cases hk : lexeme.kind = .eof
    · simp [workload, isEmpty, Token.isEnd, hk] at he ⊢
      simp [he]
    · have := Cursor.workload_advance_lt hr hk
      simp only [workload, isEmpty, Token.isEnd, Lexeme.kind_token, beq_iff_eq, hk, if_false]
      simp only [isEmpty, Token.isEnd, beq_iff_eq] at he
      simp only [he, if_false]
      omega
  · cases h

end Lexer

end Dialogue
