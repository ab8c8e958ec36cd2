import Dialogue.Text.Basic

/-!
# Positions

A position says how far into a text one is, in two ways at once: by the number of characters passed,
and by line and column. Lines and columns start at one, offsets at zero. Passing a line feed goes to
the first column of the next line; passing any other character goes one column on. Nothing else ends
a line.

The position behind a text is a fold over its characters, so positions compose: `after_append` says
that passing two texts in turn is passing their concatenation.
-/

namespace Dialogue

/-- **A position in a text**: the characters passed, and the line and column reached. -/
structure Position where
  /-- How many characters stand before the position. -/
  offset : Nat
  /-- The line, counted from one. -/
  line : Nat
  /-- The column, counted from one. -/
  column : Nat
deriving DecidableEq, Repr

namespace Position

/-- The position at the start of a text. -/
def origin : Position := ⟨0, 1, 1⟩

instance : Inhabited Position := ⟨origin⟩

/-- The position behind one more character. -/
def step (p : Position) (c : Char) : Position :=
  if c = '\n' then ⟨p.offset + 1, p.line + 1, 1⟩ else ⟨p.offset + 1, p.line, p.column + 1⟩

/-- **The position behind a text** that starts at `p`. -/
def after (p : Position) (t : Text) : Position :=
  t.foldl step p

@[simp] theorem after_nil (p : Position) : p.after [] = p := rfl

@[simp] theorem after_cons (p : Position) (c : Char) (t : Text) :
    p.after (c :: t) = (p.step c).after t := rfl

/-- Passing two texts in turn is passing their concatenation. -/
theorem after_append (p : Position) (t u : Text) : p.after (t ++ u) = (p.after t).after u :=
  List.foldl_append

@[simp] theorem offset_step (p : Position) (c : Char) : (p.step c).offset = p.offset + 1 := by
  unfold step
  split <;> rfl

/-- The offset counts characters, whatever they are. -/
@[simp] theorem offset_after (p : Position) (t : Text) :
    (p.after t).offset = p.offset + t.length := by
  induction t generalizing p with
  | nil => rfl
  | cons c t ih =>
    rw [after_cons, ih, offset_step, List.length_cons]
    omega

/-- The position as it stands in messages: line, colon, column. -/
def lineColumn (p : Position) : String :=
  toString p.line ++ ":" ++ toString p.column

end Position

end Dialogue
