import Dialogue.Alphabet

/-!
# Modes

What may come next in a script depends on what came before only through one of five modes. Outside
of calls, and behind a call that has ended, any token may start. Behind the name of a call stands
its opening parenthesis, or else a character that takes the place of an empty parameter list; in the
latter case the closing parenthesis follows at once. Inside a parameter list a parameter and what
follows it alternate.

A mode also fixes the *layout*: the characters that are passed over, without a token, before the
next token starts. Outside of calls these are the blanks and stray parentheses, inside a parameter
list the blanks; directly behind a name there are none.
-/

namespace Dialogue

/-- **The modes of reading a script.** -/
inductive Mode where
  /-- Outside of calls. -/
  | topLevel
  /-- Directly behind the name of a call. -/
  | afterName
  /-- Behind an opening parenthesis that was supplied. -/
  | impliedClose
  /-- In a parameter list, where a parameter may start. -/
  | inList
  /-- In a parameter list, behind a parameter. -/
  | afterParam
deriving DecidableEq, Repr

namespace Mode

/-- The modes in the order in which they are numbered, from one. -/
def all : List Mode :=
  [topLevel, afterName, impliedClose, inList, afterParam]

/-- Every mode is listed. -/
theorem mem_all (m : Mode) : m ∈ all := by
  cases m <;> decide

/-- The word for a mode. -/
def word : Mode → String
  | topLevel => "STANDARD"
  | afterName => "FUNCTION_PARAM_START"
  | impliedClose => "FAKE_PARAM_END"
  | inList => "FUNCTION_PARAM_LIST"
  | afterParam => "FUNCTION_PARAM_SEPARATOR_OR_END"

/-- **The layout of a mode**: which characters are passed over before a token. -/
def isLayout : Mode → Char → Bool
  | topLevel, c => isBlank c || isParen c
  | inList, c | afterParam, c => isBlank c
  | afterName, _ | impliedClose, _ => false

/-- **A text is settled** in a mode when it does not start with layout. -/
def Settled (m : Mode) (t : Text) : Prop :=
  ∀ c ∈ t.head?, m.isLayout c = false

/-- Passing over the layout settles every text. -/
theorem settled_dropWhile (m : Mode) (t : Text) : m.Settled (t.dropWhile m.isLayout) := by
  intro c hc
  cases h : t.dropWhile m.isLayout with
  | nil => rw [h] at hc; cases hc
  | cons d r =>
    rw [h] at hc
    cases hc
    exact Text.dropWhile_head h

end Mode

end Dialogue
