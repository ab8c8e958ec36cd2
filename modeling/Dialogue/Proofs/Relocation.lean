import Dialogue.Proofs.Runs

/-!
# Relocation

A script can be read from any place in it as if it started there. What is read is then the same, and
only the places differ: they have to be *relocated*, from the text that was read alone to the script
that it is the end of. Relocating to a base adds the offset of the base, and the lines before it.
The column is another matter. The characters that stand before the base on its line push to the
right what is on the first line of the text and nothing else, so that the columns of all later lines
stay as they are (`Position.relocate`).

Reading sees a mode and a text, and positions are folds over what was passed, so relocation commutes
with every step. It commutes with passing a character (`Position.step_relocate`), hence with passing
a text, hence with an advance (`Cursor.advance_relocate`), with a pop (`Lexer.relocate_pop`) and
with any number of pops (`Lexer.relocate_afterPops`). The one thing to watch is that the line is at
least one: from line zero, a line feed would lead to the first line.

The result is that outside of calls the past does not matter (`topLevel_restart`). A lexer that
stands outside of calls goes on, pop by pop, like one that is opened on the text that is left.
-/

namespace Dialogue

/-! ### Places -/

/-- **A position is sound** when its line and its column count from one. -/
structure Position.Sound (p : Position) : Prop where
  /-- There is no line before the first. -/
  line_pos : 1 ≤ p.line
  /-- There is no column before the first. -/
  column_pos : 1 ≤ p.column

namespace Position

variable {base p : Position}

theorem sound_origin : origin.Sound := ⟨Nat.le_refl 1, Nat.le_refl 1⟩

/-- Lines and columns only grow, or the column goes back to one. -/
theorem Sound.step (h : p.Sound) (c : Char) : (p.step c).Sound := by
  unfold Position.step
  split
  · exact ⟨Nat.le_succ_of_le h.line_pos, Nat.le_refl 1⟩
  · exact ⟨h.line_pos, Nat.le_succ_of_le h.column_pos⟩

theorem Sound.after (h : p.Sound) (t : Text) : (p.after t).Sound := by
  induction t generalizing p with
  | nil => exact h
  | cons c t ih => exact ih (h.step c)

/-- **A position, relocated**: what it is in a script, if it is a position in the text from `base`
on. -/
def relocate (base p : Position) : Position where
  offset := p.offset + base.offset
  line := p.line + (base.line - 1)
  column := if p.line = 1 then p.column + (base.column - 1) else p.column

/-- The start of the text is the base itself. -/
theorem relocate_origin (hb : base.Sound) : relocate base origin = base := by
  have hline := hb.line_pos
  have hcolumn := hb.column_pos
  unfold relocate origin
  rw [if_pos rfl, Nat.zero_add, Nat.add_sub_cancel' hline, Nat.add_sub_cancel' hcolumn]

/-- Passing a character commutes with relocation. -/
theorem step_relocate (hp : 1 ≤ p.line) (c : Char) :
    (relocate base p).step c = relocate base (p.step c) := by
  by_cases hc : c = '\n'
  · -- the line behind the line feed is not the first, so its column stays
    have hline : ¬ p.line + 1 = 1 := by omega
    rw [step, step, if_pos hc, if_pos hc]
    simp only [relocate, if_neg hline, Position.mk.injEq, and_true]
    exact ⟨Nat.add_right_comm .., Nat.add_right_comm ..⟩
  · -- the character is on the same line, and its column is shifted with those before it
    rw [step, step, if_neg hc, if_neg hc]
    simp only [relocate, Position.mk.injEq, true_and]
    refine ⟨Nat.add_right_comm .., ?_⟩
    split
    · exact Nat.add_right_comm ..
    · rfl

/-- Passing a text commutes with relocation. -/
theorem after_relocate (hp : p.Sound) (t : Text) :
    (relocate base p).after t = relocate base (p.after t) := by
  induction t generalizing p with
  | nil => rfl
  | cons c t ih =>
    -- soundness goes along, as the next step needs it again
    rw [after_cons, after_cons, step_relocate hp.line_pos]
    exact ih (hp.step c)

end Position

/-- **A location, relocated** to a base in a file. -/
def Location.relocate (base : Position) (file : Option String) (l : Location) : Location where
  line := l.line + (base.line - 1)
  column := if l.line = 1 then l.column + (base.column - 1) else l.column
  start := l.start + base.offset
  stop := l.stop + base.offset
  file := file

/-- The location of a span is relocated with the place where the span starts. Its length stays. -/
theorem Location.relocate_ofSpan {base : Position} (hb : base.Sound) (p : Position) (n : Nat)
    (file file' : Option String) :
    (ofSpan p n file').relocate base file = ofSpan (base.relocate p) n file := by
  have hline := hb.line_pos
  have hcolumn := hb.column_pos
  -- the condition on the line is the same on integers and on natural numbers
  by_cases hfirst : p.line = 1
  · have hfirst' : (ofSpan p n file').line = 1 := by rw [line_ofSpan, hfirst]; rfl
    rw [relocate, if_pos hfirst']
    simp only [ofSpan, Position.relocate, if_pos hfirst, Location.mk.injEq, and_true]
    omega
  · have hfirst' : ¬ (ofSpan p n file').line = 1 := by rw [line_ofSpan]; omega
    rw [relocate, if_neg hfirst']
    simp only [ofSpan, Position.relocate, if_neg hfirst, Location.mk.injEq, and_true, true_and]
    omega

/-- A token, relocated to a base in a file. -/
def Token.relocate (base : Position) (file : Option String) (t : Token) : Token :=
  { t with location := t.location.relocate base file }

/-- A fault, relocated to a base in a file. The cause stays, and with it what is reported. -/
def Fault.relocate (base : Position) (file : Option String) (f : Fault) : Fault where
  cause := f.cause
  place := base.relocate f.place
  file := file

/-- A token is relocated with the place where its lexeme starts. -/
theorem Lexeme.relocate_token {base p : Position} (hb : base.Sound) (hp : p.Sound) (l : Lexeme)
    (file file' : Option String) :
    (l.token p file').relocate base file = l.token (base.relocate p) file := by
  -- the token starts behind the lead of the lexeme, which is passed on both sides
  unfold Token.relocate
  rw [location_token, Location.relocate_ofSpan hb, ← Position.after_relocate hp]
  rfl

/-! ### Steps -/

/-- A cursor, relocated to a base. -/
def Cursor.relocate (base : Position) (c : Cursor) : Cursor :=
  { c with place := base.relocate c.place }

/-- The outcome of an advance, relocated to a base. -/
def Advance.relocate (base : Position) : Advance → Advance
  | .read l start next => .read l (base.relocate start) (next.relocate base)
  | .stuck e c => .stuck e (c.relocate base)

namespace Cursor

variable {base : Position} {c : Cursor}

/-- The layout is the same on both sides, so passing it commutes with relocation. -/
theorem settle_relocate (hc : c.place.Sound) :
    (c.relocate base).settle = c.settle.relocate base := by
  change (⟨(base.relocate c.place).after c.layout, _, _⟩ : Cursor) = ⟨_, _, _⟩
  rw [Position.after_relocate hc]
  rfl

theorem sound_settle (hc : c.place.Sound) : c.settle.place.Sound := hc.after c.layout

/-- **An advance commutes with relocation.** -/
theorem advance_relocate (hc : c.place.Sound) :
    (c.relocate base).advance = c.advance.relocate base := by
  -- what is read depends on the mode and the text alone
  have hread : (c.relocate base).mode.read (c.settle.relocate base).rest =
    c.mode.read c.settle.rest := rfl
  unfold advance
  rw [settle_relocate hc, hread]
  cases c.mode.read c.settle.rest with
  | error e => rfl
  | ok r =>
    change Advance.read _ _ ⟨(base.relocate c.settle.place).after r.lexeme.consumed, _, _⟩ = _
    rw [Position.after_relocate (sound_settle hc)]
    rfl

/-- The cursor of a script from its base on is the relocated cursor of the rest alone. -/
theorem relocate_ofText (hb : base.Sound) (t : Text) :
    (Cursor.ofText t).relocate base = ⟨base, t, .topLevel⟩ := by
  change (⟨base.relocate .origin, t, .topLevel⟩ : Cursor) = _
  rw [Position.relocate_origin hb]

/-- A cursor that stands in a script has come there from its start, so its place is sound. -/
theorem StandsIn.sound {s : Text} (h : c.StandsIn s) : c.place.Sound := by
  obtain ⟨t, -, hp⟩ := h
  rw [hp]
  exact Position.sound_origin.after t

/-- Advances go from sound places to sound places. -/
theorem sound_of_read {l : Lexeme} {p : Position} {next : Cursor} (hc : c.place.Sound)
    (h : c.advance = .read l p next) : p.Sound ∧ next.place.Sound := by
  obtain ⟨rfl, hplace, -⟩ := advance_eq_read_iff.mp h
  rw [hplace]
  exact ⟨sound_settle hc, (sound_settle hc).after l.consumed⟩

end Cursor

/-! ### Lexers -/

/-- **A lexer, relocated** to a base in a script that has a source of its own. -/
def Lexer.relocate (base : Position) (src : Source) (l : Lexer) : Lexer where
  source := src
  cursor := l.cursor.relocate base
  front := l.front.relocate base src.file

/-- The lexer after so many pops, no matter which of them fail. -/
def Lexer.afterPops : Nat → Lexer → Lexer
  | 0, l => l
  | n + 1, l => afterPops n l.pop.lexer

namespace Lexer

variable {base : Position} {src src' : Source} {s : Text} {l : Lexer} {f : Fault}

theorem sound_pop (hl : l.cursor.place.Sound) : l.pop.lexer.cursor.place.Sound := by
  cases hadv : l.cursor.advance with
  | read lexeme p next =>
    rw [pop_of_read hadv]
    exact (Cursor.sound_of_read hl hadv).2
  | stuck e c =>
    -- a failed pop has passed the layout all the same
    rw [pop_of_stuck hadv, (Cursor.advance_eq_stuck_iff.mp hadv).1]
    exact Cursor.sound_settle hl

/-- **A pop commutes with relocation**: the lexer behind it and the fault, if there is one, are
relocated, and there is a fault on one side exactly if there is one on the other. -/
theorem relocate_pop (hb : base.Sound) (hl : l.cursor.place.Sound) :
    (l.relocate base src).pop.lexer = l.pop.lexer.relocate base src ∧
      (l.relocate base src).pop.fault = l.pop.fault.map (Fault.relocate base src.file) := by
  have hmoved : (l.relocate base src).cursor.advance = l.cursor.advance.relocate base :=
    Cursor.advance_relocate hl
  cases hadv : l.cursor.advance with
  | read lexeme p next =>
    rw [hadv] at hmoved
    rw [pop_of_read hadv, pop_of_read hmoved]
    refine ⟨?_, rfl⟩
    have htoken := lexeme.relocate_token hb (Cursor.sound_of_read hl hadv).1 src.file l.source.file
    unfold Lexer.relocate
    rw [htoken]
  | stuck e c =>
    rw [hadv] at hmoved
    rw [pop_of_stuck hadv, pop_of_stuck hmoved]
    exact ⟨rfl, rfl⟩

/-- So does any number of pops, failed ones included. -/
theorem relocate_afterPops (hb : base.Sound) (hl : l.cursor.place.Sound) (n : Nat) :
    (l.relocate base src).afterPops n = (l.afterPops n).relocate base src := by
  induction n generalizing l with
  | zero => rfl
  | succ n ih =>
    change (l.relocate base src).pop.lexer.afterPops n = _
    rw [(relocate_pop hb hl).1]
    exact ih (sound_pop hl)

theorem sound_afterPops (hl : l.cursor.place.Sound) (n : Nat) :
    (l.afterPops n).cursor.place.Sound := by
  induction n generalizing l with
  | zero => exact hl
  | succ n ih => exact ih (sound_pop hl)

/-- Once a pop has failed, all later ones do the same. -/
theorem pop_afterPops_of_fault (h : l.pop.fault = some f) (n : Nat) :
    (l.afterPops n).pop = l.pop := by
  induction n generalizing l with
  | zero => rfl
  | succ n ih =>
    -- the lexer behind a failed pop fails in the same way, and so does the one behind that
    have hagain : l.pop.lexer.pop = l.pop := pop_pop_of_fault h
    change (l.pop.lexer.afterPops n).pop = l.pop
    rw [ih (by rw [hagain]; exact h), hagain]

/-! A lexer outside of calls stands at the relocated start of the text that is left, so its next pop
is the relocated opening of that text. -/

/-- Outside of calls a cursor is the start of the text that is left, relocated to its place. -/
theorem Run.cursor_eq_relocate {ts : List Token} (hrun : Run src s ts l)
    (hm : l.cursor.mode = .topLevel) :
    l.cursor = (Cursor.ofText (s.drop l.cursor.place.offset)).relocate l.cursor.place := by
  obtain ⟨-, -, hcur⟩ := hrun.cursor
  rw [Cursor.relocate_ofText hcur.standsIn.sound, ← hcur.standsIn.rest_eq, ← hm]

/-- If the text that is left can be opened, the pop succeeds and leads to the lexer opened on it. -/
theorem pop_of_ofText_ok {t : Text} {fresh : Lexer} (hb : base.Sound)
    (hc : l.cursor = (Cursor.ofText t).relocate base) (h : Lexer.ofText src' t = .ok fresh) :
    l.pop.fault = none ∧ l.pop.lexer = fresh.relocate base l.source ∧ fresh.cursor.place.Sound := by
  obtain ⟨lexeme, p, next, hadv, rfl⟩ := ofText_eq_ok_iff.mp h
  obtain ⟨hp, hnext⟩ := Cursor.sound_of_read Position.sound_origin hadv
  have hmoved : l.cursor.advance = .read lexeme (base.relocate p) (next.relocate base) := by
    rw [hc, Cursor.advance_relocate Position.sound_origin, hadv]
    rfl
  rw [pop_of_read hmoved]
  refine ⟨rfl, ?_, hnext⟩
  unfold Lexer.relocate
  rw [lexeme.relocate_token hb hp]

/-- If it cannot be opened, the pop fails with the same cause and leaves the front. -/
theorem pop_of_ofText_error {t : Text} (hc : l.cursor = (Cursor.ofText t).relocate base)
    (h : Lexer.ofText src' t = .error f) :
    l.pop.fault = some (f.relocate base l.source.file) ∧
      l.pop.lexer.cursor.place = base.relocate f.place ∧ l.pop.lexer.cursor.mode = .topLevel ∧
      l.pop.lexer.front = l.front := by
  obtain ⟨e, c, hadv, rfl⟩ := ofText_eq_error_iff.mp h
  have hmoved : l.cursor.advance = .stuck e (c.relocate base) := by
    rw [hc, Cursor.advance_relocate Position.sound_origin, hadv]
    rfl
  obtain ⟨rfl, -⟩ := Cursor.advance_eq_stuck_iff.mp hadv
  rw [pop_of_stuck hmoved]
  exact ⟨rfl, rfl, rfl, rfl⟩

end Lexer

/-- **Outside of calls, reading starts afresh.** Take any run of a lexer that stands outside of
calls, and open another lexer, of whatever source, on the text that is left. If it can be opened,
the next pop of the first succeeds and leads to the other one, relocated; and from there on each
further pop fails on both sides or on none, with the same cause at the relocated place, and leads to
the same lexer, front, mode and place included, up to relocation. If it cannot be opened, the next
pop and all later ones fail with the same cause at the relocated place, and leave the front and the
mode. -/
theorem topLevel_restart (src src' : Source) (s : Text) (ts : List Token) (l : Lexer)
    (hrun : Lexer.Run src s ts l) (hm : l.cursor.mode = .topLevel) :
    (∀ fresh, Lexer.ofText src' (s.drop l.cursor.place.offset) = .ok fresh →
      l.pop.fault = none ∧ l.pop.lexer = fresh.relocate l.cursor.place src ∧
      ∀ n, (l.afterPops (n + 1)).pop.fault =
          (fresh.afterPops n).pop.fault.map (Fault.relocate l.cursor.place src.file) ∧
        (l.afterPops (n + 1)).pop.lexer =
          (fresh.afterPops n).pop.lexer.relocate l.cursor.place src) ∧
    (∀ f, Lexer.ofText src' (s.drop l.cursor.place.offset) = .error f →
      ∀ n, (l.afterPops n).pop.fault = some (f.relocate l.cursor.place src.file) ∧
        (l.afterPops n).pop.lexer.cursor.place = l.cursor.place.relocate f.place ∧
        (l.afterPops n).pop.lexer.cursor.mode = .topLevel ∧
        (l.afterPops n).pop.lexer.front = l.front) := by
  obtain ⟨hsrc, -, hcur⟩ := hrun.cursor
  have hb : l.cursor.place.Sound := hcur.standsIn.sound
  have hc := hrun.cursor_eq_relocate hm
  refine ⟨fun fresh hfresh => ?_, fun f hf n => ?_⟩
  · -- the first pop does what the opening did, and each later one what a pop does on the other side
    obtain ⟨hfault, hlexer, hsound⟩ := Lexer.pop_of_ofText_ok hb hc hfresh
    rw [hsrc] at hlexer
    refine ⟨hfault, hlexer, fun n => ?_⟩
    have hafter : l.afterPops (n + 1) = (fresh.afterPops n).relocate l.cursor.place src := by
      change l.pop.lexer.afterPops n = _
      rw [hlexer, Lexer.relocate_afterPops hb hsound]
    rw [hafter]
    exact (Lexer.relocate_pop hb (Lexer.sound_afterPops hsound n)).symm
  · -- the first pop fails as the opening did, and every later one as the first
    have hpop := Lexer.pop_of_ofText_error hc hf
    rw [Lexer.pop_afterPops_of_fault hpop.1 n, ← hsrc]
    exact hpop

/-- A call behind a label on the first line, and a comma on the second: four pops on, the comma is
at fault where it stands in the script. -/
theorem topLevel_restart_second_line :
    ∃ ts l, Lexer.Run ⟨some "a", true⟩ ['A', ' ', '@', 'f', '.', '\n', ','] ts l ∧
      l.cursor.mode = .topLevel ∧ l.cursor.place = ⟨1, 1, 2⟩ ∧
      (l.afterPops 3).pop.fault = some ⟨.strayComma, ⟨6, 2, 1⟩, some "a"⟩ := by
  have hopen : Lexer.ofText ⟨some "a", true⟩ ['A', ' ', '@', 'f', '.', '\n', ','] =
      .ok ⟨⟨some "a", true⟩, ⟨⟨1, 1, 2⟩, [' ', '@', 'f', '.', '\n', ','], .topLevel⟩,
        ⟨.label, ['A'], .ofSpan .origin 1 (some "a")⟩⟩ := rfl
  have hfresh : Lexer.ofText ⟨none, true⟩ [' ', '@', 'f', '.', '\n', ','] =
      .ok ⟨⟨none, true⟩, ⟨⟨3, 1, 4⟩, ['.', '\n', ','], .afterName⟩,
        ⟨.name, ['f'], .ofSpan ⟨2, 1, 3⟩ 1 none⟩⟩ := rfl
  have hrun := Lexer.Run.opened hopen
  refine ⟨_, _, hrun, rfl, rfl, ?_⟩
  exact (((topLevel_restart _ ⟨none, true⟩ _ _ _ hrun rfl).1 _ hfresh).2.2 2).1

end Dialogue
