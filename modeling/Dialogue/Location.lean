import Dialogue.Position
import Dialogue.Text.Quoted

/-!
# Locations

A location is what a reader is told about a place in a script: a line and a column, the range of
offsets covered and, if it is known, the file. Locations are made by callers too, so their numbers
are arbitrary integers; nothing is assumed about their sign or order.

A location is shown as `file:line:column`. A file that is absent and a file with the empty name are
different values that are shown alike: the location then starts with the line. A location with a
number that has too many digits is not shown.
-/

namespace Dialogue

/-- The name of a file, if there is one to show. -/
def shownFile : Option String → Option String
  | some name => if name = "" then none else some name
  | none => none

@[simp] theorem shownFile_none : shownFile none = none := rfl

@[simp] theorem shownFile_empty : shownFile (some "") = none := rfl

/-- **A place in a script**, as it is reported to a reader. -/
structure Location where
  /-- The line, counted from one. -/
  line : Int
  /-- The column, counted from one. -/
  column : Int
  /-- The offset of the first character covered. -/
  start : Int := 0
  /-- The offset behind the last character covered. -/
  stop : Int := 0
  /-- The file that the script came from. -/
  file : Option String := none
deriving DecidableEq, Repr

namespace Location

/-- The location of something whose place is not known. -/
def unknown : Location where
  line := 0
  column := 0

/-- The number of characters covered. -/
def length (l : Location) : Int :=
  l.stop - l.start

/-- **The location of a span**: so many characters from a position on, in a file. -/
def ofSpan (p : Position) (length : Nat) (file : Option String) : Location where
  line := p.line
  column := p.column
  start := p.offset
  stop := p.offset + length
  file := file

@[simp] theorem line_ofSpan (p : Position) (n : Nat) (file : Option String) :
    (ofSpan p n file).line = p.line := rfl

@[simp] theorem column_ofSpan (p : Position) (n : Nat) (file : Option String) :
    (ofSpan p n file).column = p.column := rfl

@[simp] theorem start_ofSpan (p : Position) (n : Nat) (file : Option String) :
    (ofSpan p n file).start = p.offset := rfl

@[simp] theorem stop_ofSpan (p : Position) (n : Nat) (file : Option String) :
    (ofSpan p n file).stop = p.offset + n := rfl

@[simp] theorem file_ofSpan (p : Position) (n : Nat) (file : Option String) :
    (ofSpan p n file).file = file := rfl

/-- A span covers as many characters as it is long. -/
@[simp] theorem length_ofSpan (p : Position) (n : Nat) (file : Option String) :
    (ofSpan p n file).length = n := by
  rw [length, stop_ofSpan, start_ofSpan]
  omega

/-- Line, colon, column. -/
def lineColumn (l : Location) : Except Unwritable String := do
  let line ← Decimal.write l.line
  let column ← Decimal.write l.column
  return line ++ ":" ++ column

/-- **The location as it stands in messages**: the file if there is one to show, line and column. -/
def text (l : Location) : Except Unwritable String :=
  match shownFile l.file with
  | some name => l.lineColumn.map (name ++ ":" ++ ·)
  | none => l.lineColumn

/-- A file name as descriptions show it: quoted, or `None` where there is none. -/
def describeFile : Option String → String
  | some name => Text.quoted name.toList
  | none => "None"

/-- The location with all its fields. -/
def describe (l : Location) : Except Unwritable String := do
  let line ← Decimal.write l.line
  let column ← Decimal.write l.column
  let start ← Decimal.write l.start
  let stop ← Decimal.write l.stop
  return "SourceLocation(lineno=" ++ line ++ ", col_offset=" ++ column ++ ", offset=" ++ start
    ++ ", end_offset=" ++ stop ++ ", source_file=" ++ describeFile l.file ++ ")"

end Location

end Dialogue
