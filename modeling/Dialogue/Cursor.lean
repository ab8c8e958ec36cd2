import Dialogue.Lexeme

/-!
# Cursors

A cursor is where reading stands: a position, the text from there on, and the mode. One advance
passes over the layout of the mode and reads the lexeme behind it. If there is one, the cursor ends
up behind all that it consumes. If there is none, the cursor stays behind the layout, in the same
mode; so the layout is passed over once and for all, and advancing again fails in the same way at
the same place.

A cursor knows nothing of files, settings or earlier tokens: what an advance does is a function of
the three fields alone.
-/

namespace Dialogue

/-- **Where reading stands.** -/
structure Cursor where
  /-- How far the text has been consumed. -/
  place : Position
  /-- The text from here on. -/
  rest : Text
  /-- What may come next. -/
  mode : Mode
deriving DecidableEq, Repr

/-- The outcome of one advance. -/
inductive Advance where
  /-- A lexeme, the position at which it starts and the cursor behind it. -/
  | read (lexeme : Lexeme) (start : Position) (next : Cursor)
  /-- No lexeme can be read at the cursor. -/
  | stuck (cause : Cause) (cursor : Cursor)
deriving DecidableEq, Repr

namespace Cursor

/-- The cursor at the start of a text. -/
def ofText (t : Text) : Cursor :=
  ⟨.origin, t, .topLevel⟩

/-- The layout at a cursor. -/
def layout (c : Cursor) : Text :=
  c.rest.takeWhile c.mode.isLayout

/-- The cursor behind the layout. -/
def settle (c : Cursor) : Cursor :=
  ⟨c.place.after c.layout, c.rest.dropWhile c.mode.isLayout, c.mode⟩

@[simp] theorem settle_mode (c : Cursor) : c.settle.mode = c.mode := rfl

/-- The layout is in front of what is left behind it. -/
@[simp] theorem layout_append_settle (c : Cursor) : c.layout ++ c.settle.rest = c.rest :=
  List.takeWhile_append_dropWhile

/-- A settled cursor stands in front of no layout. -/
theorem settled_settle (c : Cursor) : c.mode.Settled c.settle.rest :=
  c.mode.settled_dropWhile c.rest

/-- **One advance**: the layout is passed over, and a lexeme is read behind it. -/
def advance (c : Cursor) : Advance :=
  match c.mode.read c.settle.rest with
  | .ok r => .read r.lexeme c.settle.place ⟨c.settle.place.after r.lexeme.consumed, r.rest, r.mode⟩
  | .error cause => .stuck cause c.settle

/-- How much there is to read at most. -/
def workload (c : Cursor) : Nat :=
  c.mode.workload c.rest

theorem workload_settle_le (c : Cursor) : c.mode.workload c.settle.rest ≤ c.workload := by
  have := Text.length_dropWhile_le c.mode.isLayout c.rest
  simp only [workload, Mode.workload, settle]
  omega

/-- **Every advance but the one to the end of the script lessens the workload.** -/
theorem workload_advance_lt {c next : Cursor} {l : Lexeme} {start : Position}
    (h : c.advance = .read l start next) (hl : l.kind ≠ .eof) : next.workload < c.workload := by
  unfold advance at h
  split at h
  · next r hr =>
    cases h
    exact Nat.lt_of_lt_of_le (Mode.workload_read_lt c.settled_settle hr hl) c.workload_settle_le
  · cases h

end Cursor

/-- The token of a lexeme that starts at a position, in a file. -/
def Lexeme.token (l : Lexeme) (start : Position) (file : Option String) : Token where
  kind := l.kind
  value := l.value
  location := .ofSpan (start.after l.lead) l.body.length file

@[simp] theorem Lexeme.kind_token (l : Lexeme) (start : Position) (file : Option String) :
    (l.token start file).kind = l.kind := rfl

@[simp] theorem Lexeme.value_token (l : Lexeme) (start : Position) (file : Option String) :
    (l.token start file).value = l.value := rfl

@[simp] theorem Lexeme.location_token (l : Lexeme) (start : Position) (file : Option String) :
    (l.token start file).location = .ofSpan (start.after l.lead) l.body.length file := rfl

/-- The token of a lexeme is synthetic exactly when its value is supplied and not empty. -/
theorem Lexeme.isSynthetic_token (l : Lexeme) (start : Position) (file : Option String) :
    (l.token start file).isSynthetic = (l.implied && !l.value.isEmpty) := by
  rw [Token.isSynthetic, location_token, Location.length_ofSpan, value_token]
  cases h : l.implied with
  | false => simp [Lexeme.body, h]
  | true =>
    -- A supplied value covers nothing, so it is synthetic unless it is empty.
    cases hv : l.value with
    | nil => simp [Lexeme.body, h]
    | cons c t =>
      simp only [Lexeme.body, h, if_true, List.length_nil, List.length_cons, List.isEmpty_cons]
      simp
      omega

end Dialogue
