import Dialogue.Fault
import Dialogue.Mode

/-!
# Lexemes

A lexeme is one token together with the characters that go with it but are not in it: the mark in
front of a comment or a name, the line feed behind a comment, the character that stands for an empty
parameter list. What a lexeme *consumes* is its lead, its body and its trail, in this order. The
body is the value, except for a parenthesis that the script does not write, whose body is empty.

Reading a lexeme needs the mode and the text from here on, and nothing else. Neither the position
nor the file nor anything that was read before plays a part, which is why the laws of reading are
stated and proved here, on texts: `Mode.read` gives the lexeme at the very front of a text whose
layout has been passed over, the mode behind it, and the rest of the text.
-/

namespace Dialogue

/-- **A lexeme**: a token with what is consumed around it. -/
structure Lexeme where
  /-- The kind of the token. -/
  kind : Kind
  /-- The value of the token. -/
  value : Text
  /-- What is consumed in front of the token. -/
  lead : Text := []
  /-- Whether the value is supplied and not written in the script. -/
  implied : Bool := false
  /-- What is consumed behind the token. -/
  trail : Text := []
deriving DecidableEq, Repr

namespace Lexeme

/-- The characters of the script that the token covers. -/
def body (l : Lexeme) : Text :=
  if l.implied then [] else l.value

/-- **All that a lexeme consumes**, in order. -/
def consumed (l : Lexeme) : Text :=
  l.lead ++ l.body ++ l.trail

/-- The character that was consumed in place of an opening parenthesis. -/
def dropped? (l : Lexeme) : Option Char :=
  if l.kind = .opening ∧ l.implied = true then l.trail.head? else none

end Lexeme

/-- A lexeme that has been read, the mode behind it and the text behind it. -/
structure Reading where
  /-- What was read. -/
  lexeme : Lexeme
  /-- The mode behind it. -/
  mode : Mode
  /-- The text behind it. -/
  rest : Text
deriving DecidableEq, Repr

namespace Reading

/-- Free text: the longest run of text characters. -/
def text (t : Text) : Reading :=
  ⟨⟨.text, t.takeWhile isText, [], false, []⟩, .topLevel, t.dropWhile isText⟩

/-- A label: the longest run of label characters. -/
def label (t : Text) : Reading :=
  ⟨⟨.label, t.takeWhile isLabel, [], false, []⟩, .topLevel, t.dropWhile isLabel⟩

/-- The name of a call, behind its mark: the longest run of label characters, possibly empty. -/
def name (t : Text) : Reading :=
  ⟨⟨.name, t.takeWhile isLabel, ['@'], false, []⟩, .afterName, t.dropWhile isLabel⟩

/-- A comment, behind its mark: everything up to the line feed, which is consumed with it. -/
def comment (t : Text) : Reading :=
  let rest := t.dropWhile (· != '\n')
  ⟨⟨.comment, t.takeWhile (· != '\n'), [';'], false, rest.take 1⟩, .topLevel, rest.drop 1⟩

/-- The end of the script. -/
def eof : Reading :=
  ⟨⟨.eof, [], [], false, []⟩, .topLevel, []⟩

/-- One character that is a token by itself. -/
def mark (kind : Kind) (c : Char) (mode : Mode) (t : Text) : Reading :=
  ⟨⟨kind, [c], [], false, []⟩, mode, t⟩

/-- An opening parenthesis that the script does not write. The next character, if there is one, is
consumed in its place. -/
def impliedOpening (t : Text) : Reading :=
  ⟨⟨.opening, ['('], [], true, t.take 1⟩, .impliedClose, t.drop 1⟩

/-- The closing parenthesis that goes with an opening one that the script does not write. -/
def impliedClosing (t : Text) : Reading :=
  ⟨⟨.closing, [')'], [], true, []⟩, .topLevel, t⟩

/-- A parameter: the longest run of parameter characters. -/
def param (t : Text) : Reading :=
  ⟨⟨.param, t.takeWhile isParam, [], false, []⟩, .afterParam, t.dropWhile isParam⟩

end Reading

namespace Mode

/-- What stands at the front of a text outside of calls. -/
def readTopLevel : Text → Except Cause Reading
  | [] => .ok .eof
  | c :: t =>
    if isLabel c then .ok (.label (c :: t))
    else if c = '@' then .ok (.name t)
    else if c = ';' then .ok (.comment t)
    else if c = ',' then .error .strayComma
    else .ok (.text (c :: t))

/-- What stands at the front of a text behind the name of a call. -/
def readAfterName : Text → Reading
  | [] => .impliedOpening []
  | c :: t => if c = '(' then .mark .opening '(' .inList t else .impliedOpening (c :: t)

/-- What stands at the front of a text where a parameter may start. -/
def readInList : Text → Except Cause Reading
  | [] => .error .endInList
  | c :: t =>
    if isParam c then .ok (.param (c :: t))
    else if c = ')' then .ok (.mark .closing ')' .topLevel t)
    else .error .commaInList

/-- What stands at the front of a text behind a parameter. -/
def readAfterParam : Text → Except Cause Reading
  | [] => .error .endAfterParam
  | c :: t =>
    if c = ',' then .ok (.mark .separator ',' .inList t)
    else if c = ')' then .ok (.mark .closing ')' .topLevel t)
    else .error (.junkAfterParam c)

/-- **What stands at the front of a text** whose layout has been passed over. -/
def read : Mode → Text → Except Cause Reading
  | topLevel, t => readTopLevel t
  | afterName, t => .ok (readAfterName t)
  | impliedClose, t => .ok (.impliedClosing t)
  | inList, t => readInList t
  | afterParam, t => readAfterParam t

end Mode

/-! ### Nothing is lost

What a lexeme consumes and the text behind it make up the text it was read from. -/

theorem Reading.consumed_text (t : Text) :
    (Reading.text t).lexeme.consumed ++ (Reading.text t).rest = t := by
  simp [Reading.text, Lexeme.consumed, Lexeme.body]

theorem Reading.consumed_label (t : Text) :
    (Reading.label t).lexeme.consumed ++ (Reading.label t).rest = t := by
  simp [Reading.label, Lexeme.consumed, Lexeme.body]

theorem Reading.consumed_name (t : Text) :
    (Reading.name t).lexeme.consumed ++ (Reading.name t).rest = '@' :: t := by
  simp [Reading.name, Lexeme.consumed, Lexeme.body]

theorem Reading.consumed_comment (t : Text) :
    (Reading.comment t).lexeme.consumed ++ (Reading.comment t).rest = ';' :: t := by
  simp [Reading.comment, Lexeme.consumed, Lexeme.body, -List.drop_one]

theorem Reading.consumed_mark (k : Kind) (c : Char) (m : Mode) (t : Text) :
    (Reading.mark k c m t).lexeme.consumed ++ (Reading.mark k c m t).rest = c :: t := by
  simp [Reading.mark, Lexeme.consumed, Lexeme.body]

theorem Reading.consumed_impliedOpening (t : Text) :
    (Reading.impliedOpening t).lexeme.consumed ++ (Reading.impliedOpening t).rest = t := by
  simp [Reading.impliedOpening, Lexeme.consumed, Lexeme.body, -List.drop_one]

theorem Reading.consumed_param (t : Text) :
    (Reading.param t).lexeme.consumed ++ (Reading.param t).rest = t := by
  simp [Reading.param, Lexeme.consumed, Lexeme.body]

/-- **Nothing is lost.** A lexeme and the text behind it make up the text it was read from. -/
theorem Mode.consumed_read {m : Mode} {t : Text} {r : Reading} (h : m.read t = .ok r) :
    r.lexeme.consumed ++ r.rest = t := by
  cases m with
  | topLevel =>
    cases t with
    | nil => cases h; rfl
    | cons c t =>
      simp only [Mode.read, Mode.readTopLevel] at h
      split at h
      · cases h; exact Reading.consumed_label _
      split at h
      · next hc => cases h; rw [hc]; exact Reading.consumed_name _
      split at h
      · next hc => cases h; rw [hc]; exact Reading.consumed_comment _
      split at h
      · cases h
      · cases h; exact Reading.consumed_text _
  | afterName =>
    cases t with
    | nil => cases h; rfl
    | cons c t =>
      simp only [Mode.read, Mode.readAfterName] at h
      split at h
      · next hc => cases h; rw [hc]; exact Reading.consumed_mark ..
      · cases h; exact Reading.consumed_impliedOpening _
  | impliedClose => cases h; rfl
  | inList =>
    cases t with
    | nil => cases h
    | cons c t =>
      simp only [Mode.read, Mode.readInList] at h
      split at h
      · cases h; exact Reading.consumed_param _
      split at h
      · next hc => cases h; rw [hc]; exact Reading.consumed_mark ..
      · cases h
  | afterParam =>
    cases t with
    | nil => cases h
    | cons c t =>
      simp only [Mode.read, Mode.readAfterParam] at h
      split at h
      · next hc => cases h; rw [hc]; exact Reading.consumed_mark ..
      split at h
      · next hc => cases h; rw [hc]; exact Reading.consumed_mark ..
      · cases h

/-! ### Every lexeme gets nearer to the end

Each character left counts three, and a call that was opened without parentheses owes up to two
lexemes that consume nothing. With these counted in, every lexeme but the end of the script makes
the sum smaller, so no reading goes on forever. -/

/-- The lexemes that are owed in a mode although they may consume nothing. -/
def Mode.owed : Mode → Nat
  | afterName => 2
  | impliedClose => 1
  | topLevel | inList | afterParam => 0

/-- How much there is to read at most, in a mode and before a text. -/
def Mode.workload (m : Mode) (t : Text) : Nat :=
  3 * t.length + m.owed

/-- What stands behind a run that starts with a character of its class is shorter than the text. -/
theorem Text.length_dropWhile_lt {p : Char → Bool} {c : Char} (h : p c = true) (t : Text) :
    ((c :: t).dropWhile p).length < (c :: t).length := by
  rw [List.dropWhile_cons_of_pos h]
  exact Nat.lt_succ_of_le (Text.length_dropWhile_le p t)

/-- **Every lexeme but the end of the script lessens the workload**, once the layout in front of it
has been passed over. -/
theorem Mode.workload_read_lt {m : Mode} {t : Text} {r : Reading} (hs : m.Settled t)
    (h : m.read t = .ok r) (hk : r.lexeme.kind ≠ .eof) : r.mode.workload r.rest < m.workload t := by
  cases m with
  | topLevel =>
    cases t with
    | nil => cases h; exact absurd rfl hk
    | cons c t =>
      simp only [Mode.read, Mode.readTopLevel] at h
      split at h
      · next hc =>
        cases h
        have := Text.length_dropWhile_lt hc t
        simp only [Mode.workload, Reading.label, Mode.owed]
        omega
      split at h
      · cases h
        have := Text.length_dropWhile_le isLabel t
        simp only [Mode.workload, Reading.name, Mode.owed, List.length_cons]
        omega
      split at h
      · cases h
        have := Text.length_dropWhile_le (· != '\n') t
        simp only [Mode.workload, Reading.comment, Mode.owed, List.length_cons, List.length_drop]
        omega
      split at h
      · cases h
      · next hl ha _ _ =>
        cases h
        have hn : c ≠ '\n' := by
          rintro rfl
          exact absurd (hs '\n' rfl) (by decide)
        have ht : isText c = true := by simp [isText, hl, ha, hn]
        have := Text.length_dropWhile_lt ht t
        simp only [Mode.workload, Reading.text, Mode.owed]
        omega
  | afterName =>
    cases t with
    | nil => cases h; decide
    | cons c t =>
      simp only [Mode.read, Mode.readAfterName] at h
      split at h <;> cases h <;>
        simp only [Mode.workload, Reading.mark, Reading.impliedOpening, Mode.owed,
          List.length_cons, List.drop_one, List.tail_cons] <;> omega
  | impliedClose =>
    cases h
    simp only [Mode.workload, Reading.impliedClosing, Mode.owed]
    omega
  | inList =>
    cases t with
    | nil => cases h
    | cons c t =>
      simp only [Mode.read, Mode.readInList] at h
      split at h
      · next hc =>
        cases h
        have := Text.length_dropWhile_lt hc t
        simp only [Mode.workload, Reading.param, Mode.owed]
        omega
      split at h
      · cases h
        simp only [Mode.workload, Reading.mark, Mode.owed, List.length_cons]
        omega
      · cases h
  | afterParam =>
    cases t with
    | nil => cases h
    | cons c t =>
      simp only [Mode.read, Mode.readAfterParam] at h
      split at h
      · cases h
        simp only [Mode.workload, Reading.mark, Mode.owed, List.length_cons]
        omega
      split at h
      · cases h
        simp only [Mode.workload, Reading.mark, Mode.owed, List.length_cons]
        omega
      · cases h

end Dialogue
