import Dialogue.Delivery

/-!
# Readers

A token is served one at a time in two ways. A lexer serves its own front: `Lexer.next` pops the
front and hands it out, unless it is the end. A *reader* walks along a lexer that others may move as
well. Its first serving is the front as it then stands. Each later one looks at the token that it
served last: if that was the end, the reader has finished; otherwise it pops the lexer and serves
the new front. A fault finishes it.

A reader keeps only the token that it served last. The lexer is passed to each step, so any number
of readers can share one.
-/

namespace Dialogue

/-- What is served when one token is asked for. -/
inductive Serving where
  /-- A token. -/
  | token (t : Token)
  /-- Nothing, because there are no more. -/
  | finished
  /-- Nothing, because of a fault. -/
  | fault (f : Fault)
deriving DecidableEq, Repr

/-- A serving, with the lexer and the notes behind it. -/
structure Served where
  /-- What was served. -/
  serving : Serving
  /-- The lexer afterwards. -/
  lexer : Lexer
  /-- The notes that were made, in order. -/
  notes : List Note
deriving DecidableEq, Repr

/-- **The next token of a lexer**: the front, once it has been popped. -/
def Lexer.next (l : Lexer) : Served :=
  if l.isEmpty then ⟨.finished, l, []⟩
  else
    match l.pop.fault with
    | some f => ⟨.fault f, l.pop.lexer, l.pop.notes⟩
    | none => ⟨.token l.front, l.pop.lexer, l.pop.notes⟩

/-- **A reader** of a lexer that it may share. -/
inductive Reader where
  /-- Nothing has been served yet. -/
  | fresh
  /-- The token that was served last. -/
  | behind (last : Token)
  /-- There is nothing more to serve. -/
  | finished
deriving DecidableEq, Repr

namespace Reader

/-- **One step of a reader** on a lexer. -/
def next (r : Reader) (l : Lexer) : Reader × Served :=
  match r with
  | fresh => (behind l.front, ⟨.token l.front, l, []⟩)
  | finished => (finished, ⟨.finished, l, []⟩)
  | behind last =>
    if last.isEnd then (finished, ⟨.finished, l, []⟩)
    else
      match l.pop.fault with
      | some f => (finished, ⟨.fault f, l.pop.lexer, l.pop.notes⟩)
      | none => (behind l.pop.lexer.front, ⟨.token l.pop.lexer.front, l.pop.lexer, l.pop.notes⟩)

end Reader

end Dialogue
