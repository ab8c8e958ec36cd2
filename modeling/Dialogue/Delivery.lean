import Dialogue.Lexer

/-!
# Deliveries

Two ways to have the tokens of a lexer handed out until there are no more.

* **Draining** pops the front and then hands it out. If popping it fails, the token stays in the
  lexer and is not delivered. The end of the script is not delivered either.
* **Tokenizing** hands out the front and then pops it, so that the token before a fault is
  delivered. The end of the script is delivered last.

Both stop at the first fault and keep what was delivered until then. `take` is draining with a
limit.
-/

namespace Dialogue

/-- **What a lexer delivered**, and what the last move came to. -/
structure Delivery where
  /-- The tokens handed out, in order. -/
  tokens : List Token
  /-- The lexer afterwards. -/
  lexer : Lexer
  /-- Why the delivery broke off, if it did. -/
  fault : Option Fault
  /-- The notes that were made, in order. -/
  notes : List Note
deriving DecidableEq, Repr

namespace Delivery

/-- A delivery with one more token in front, and the notes that were made before it. -/
def cons (t : Token) (notes : List Note) (d : Delivery) : Delivery :=
  { d with tokens := t :: d.tokens, notes := notes ++ d.notes }

@[simp] theorem tokens_cons (t : Token) (n : List Note) (d : Delivery) :
    (d.cons t n).tokens = t :: d.tokens := rfl

@[simp] theorem lexer_cons (t : Token) (n : List Note) (d : Delivery) :
    (d.cons t n).lexer = d.lexer := rfl

@[simp] theorem fault_cons (t : Token) (n : List Note) (d : Delivery) :
    (d.cons t n).fault = d.fault := rfl

@[simp] theorem notes_cons (t : Token) (n : List Note) (d : Delivery) :
    (d.cons t n).notes = n ++ d.notes := rfl

/-- The tokens, if the delivery did not break off. -/
def result (d : Delivery) : Except Fault (List Token) :=
  match d.fault with
  | some f => .error f
  | none => .ok d.tokens

end Delivery

namespace Lexer

/-- **Draining**: every token before the end, each handed out once it has been popped. -/
def drain (l : Lexer) : Delivery :=
  if _ : l.isEmpty then ⟨[], l, none, []⟩
  else
    match _ : l.pop.fault with
    | some f => ⟨[], l.pop.lexer, some f, l.pop.notes⟩
    | none => (drain l.pop.lexer).cons l.front l.pop.notes
termination_by l.workload
decreasing_by exact workload_pop_lt ‹_› ‹_›

/-- Draining, but no more than so many tokens. -/
def take : Nat → Lexer → Delivery
  | 0, l => ⟨[], l, none, []⟩
  | n + 1, l =>
    if l.isEmpty then ⟨[], l, none, []⟩
    else
      match l.pop.fault with
      | some f => ⟨[], l.pop.lexer, some f, l.pop.notes⟩
      | none => (take n l.pop.lexer).cons l.front l.pop.notes

/-- **Tokenizing**: every token up to and with the end, each handed out before it is popped. -/
def tokenize (l : Lexer) : Delivery :=
  if _ : l.isEmpty then ⟨[l.front], l, none, []⟩
  else
    match _ : l.pop.fault with
    | some f => ⟨[l.front], l.pop.lexer, some f, l.pop.notes⟩
    | none => (tokenize l.pop.lexer).cons l.front l.pop.notes
termination_by l.workload
decreasing_by exact workload_pop_lt ‹_› ‹_›

end Lexer

end Dialogue
