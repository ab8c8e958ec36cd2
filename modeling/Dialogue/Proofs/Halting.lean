import Dialogue.Proofs.Accounting
import Dialogue.Proofs.Coordinates
import Dialogue.Proofs.Course
import Dialogue.Proofs.Grammar
import Dialogue.Proofs.Sharing

/-!
# Where a lexer comes to a halt

Popping can go on forever and yet come to a halt, in two ways. At the end of the script every
further pop reads the end once more. At a fault every further pop fails once more. This module says
how a lexer gets to either place and that it never leaves it.

**The end.** There is only one lexer on a script whose front is the end, `Lexer.atEnd`: its cursor
is behind the last character and the front is located there (`Lexer.Run.eq_atEnd`). It is a fixed
point of popping, so whatever is asked of it afterwards is answered at once. A lexer gets there in
one pop exactly if it is outside of calls with nothing but layout ahead
(`end_exactly_behind_layout`). At the end of the script but inside of a call, there is either a
parenthesis to be supplied first or a fault.

**A fault.** The cursor moves before it is known whether there is a token, so a pop that fails does
change the lexer: the layout in front of what could not be read has been passed over. That is all
(`Lexer.PassesLayout`). From there the next pop has nothing to pass over, so it fails at the same
place, for the same cause, and changes nothing (`failed_pop_repeats`). It matters here that the end
is not among the places where a pop fails: taking the next token is refused at the end without a
look at the cursor.
-/

namespace Dialogue

/-! ### The end of a script -/

/-- **The end of a script as a token**: it is empty, and located behind the last character. -/
def Token.endOf (s : Text) (file : Option String) : Token where
  kind := .eof
  value := []
  location :=
    { line := (1 + s.count '\n' : Nat)
      column := (1 + s.lastLine.length : Nat)
      start := s.length
      stop := s.length
      file := file }

theorem Token.endOf_eq (s : Text) (file : Option String) :
    Token.endOf s file = ⟨.eof, [], .ofSpan (Position.origin.after s) 0 file⟩ := by
  obtain ⟨hline, hcolumn⟩ := Position.after_origin s
  have hoffset : (Position.origin.after s).offset = s.length := by
    rw [Position.offset_after]
    exact Nat.zero_add _
  unfold Token.endOf Location.ofSpan
  rw [hline, hcolumn, hoffset]
  rfl

theorem Token.isSynthetic_endOf (s : Text) (file : Option String) :
    (Token.endOf s file).isSynthetic = false := by
  simp [Token.isSynthetic, Token.endOf, Location.length]

/-- The cursor behind the last character of a script. -/
def Cursor.atEnd (s : Text) : Cursor :=
  ⟨Position.origin.after s, [], .topLevel⟩

/-- **The lexer that has read all of a script.** -/
def Lexer.atEnd (src : Source) (s : Text) : Lexer :=
  ⟨src, .atEnd s, .endOf s src.file⟩

namespace Cursor

variable {file : Option String} {s : Text} {ts : List Token} {c : Cursor} {t : Token}

theorem advance_atEnd (s : Text) :
    (atEnd s).advance = .read ⟨.eof, [], [], false, []⟩ (Position.origin.after s) (atEnd s) := rfl

theorem StandsIn.eq_atEnd (h : c.StandsIn s) (hmode : c.mode = .topLevel) (hrest : c.rest = []) :
    c = atEnd s := by
  obtain ⟨place, rest, mode⟩ := c
  obtain ⟨u, hs, hplace⟩ := h
  subst hmode hrest
  rw [List.append_nil] at hs
  rw [atEnd, hs]
  exact congrArg (Cursor.mk · [] .topLevel) hplace

/-- **An advance reads the end exactly if nothing but layout is left**, outside of calls. -/
theorem advance_eof_iff (c : Cursor) :
    (∃ l p next, c.advance = .read l p next ∧ l.kind = .eof) ↔
      c.mode = .topLevel ∧ IsGap c.rest := by
  constructor
  · rintro ⟨l, p, next, hadv, hk⟩
    obtain ⟨-, -, hreads⟩ := advance_eq_read_iff.mp hadv
    obtain ⟨hmode, hnil, -⟩ := hreads.of_eof hk
    refine ⟨hmode, isGap_iff.mpr ?_⟩
    -- all that is left is the layout, since nothing is left behind it
    intro d hd
    rw [← c.layout_append_settle, hnil, List.append_nil] at hd
    rw [← hmode]
    exact isLayout_of_mem_layout hd
  · rintro ⟨hmode, hgap⟩
    obtain ⟨place, rest, mode⟩ := c
    subst hmode
    have hadv := advance_of_reads (isGap_iff.mp hgap) .eof place
    rw [List.append_nil] at hadv
    exact ⟨_, _, _, hadv, rfl⟩

/-- **There is one end**: a run whose last token is the end has its cursor behind the last
character, and the token is located there. -/
theorem Run.eq_atEnd (h : Run file s ts c) (ht : t ∈ ts.getLast?) (hk : t.kind = .eof) :
    c = atEnd s ∧ t = .endOf s file := by
  induction h with
  | start => cases ht
  | @read ts c next l p hrun hadv _ =>
    rw [List.getLast?_concat] at ht
    obtain rfl : l.token p file = t := Option.some.inj ht
    obtain ⟨-, hplace, hreads⟩ := advance_eq_read_iff.mp hadv
    obtain ⟨-, -, hread⟩ := hreads.of_eof hk
    obtain ⟨rfl, hmode, hrest⟩ := Reading.mk.inj hread
    have hnext : next = atEnd s := (hrun.standsIn.read hadv).eq_atEnd hmode hrest
    refine ⟨hnext, ?_⟩
    -- the end consumes nothing, so it starts where the cursor is left
    have hp : p = Position.origin.after s := by
      rw [hnext] at hplace
      exact hplace.symm
    rw [Token.endOf_eq, hp]
    rfl
  | stuck _ hadv ih =>
    -- the cursor behind the end is not stuck
    obtain ⟨rfl, -⟩ := ih ht
    rw [advance_atEnd] at hadv
    cases hadv

end Cursor

namespace Lexer

variable {src : Source} {s : Text} {ts : List Token} {l : Lexer}

theorem Run.eq_atEnd (h : Run src s ts l) (he : l.isEmpty = true) : l = atEnd src s := by
  obtain ⟨hsrc, hlast, hcur⟩ := h.cursor
  have hk : l.front.kind = .eof := beq_iff_eq.mp he
  obtain ⟨hcursor, hfront⟩ := hcur.eq_atEnd hlast hk
  calc l = ⟨l.source, l.cursor, l.front⟩ := rfl
    _ = atEnd src s := by rw [hsrc, hcursor, hfront]; rfl

theorem pop_atEnd (src : Source) (s : Text) : (atEnd src s).pop = ⟨atEnd src s, none, []⟩ := by
  rw [pop_of_read (l := atEnd src s) (Cursor.advance_atEnd s)]
  unfold atEnd
  rw [Token.endOf_eq]
  -- the end drops no character, so no note is made whether or not notes are wanted
  cases src with
  | mk file notesDropped => cases notesDropped <;> rfl

theorem popMany_atEnd (src : Source) (s : Text) (n : Nat) :
    (atEnd src s).popMany n = ⟨atEnd src s, none, []⟩ := by
  induction n with
  | zero => rfl
  | succ n ih =>
    rw [popMany_succ_of_ok (congrArg Move.fault (pop_atEnd src s)), pop_atEnd, ih]
    rfl

theorem ofText_isEmpty_iff : (∃ l, Lexer.ofText src s = .ok l ∧ l.isEmpty = true) ↔
    ∃ lexeme p next, (Cursor.ofText s).advance = .read lexeme p next ∧ lexeme.kind = .eof := by
  constructor
  · rintro ⟨l, hl, he⟩
    obtain ⟨lexeme, p, next, hadv, rfl⟩ := ofText_eq_ok_iff.mp hl
    exact ⟨lexeme, p, next, hadv, (lexeme.isEmpty_token src p next).mp he⟩
  · rintro ⟨lexeme, p, next, hadv, hk⟩
    exact ⟨_, ofText_eq_ok_iff.mpr ⟨lexeme, p, next, hadv, rfl⟩,
      (lexeme.isEmpty_token src p next).mpr hk⟩

theorem pop_isEmpty_iff : l.pop.fault = none ∧ l.pop.lexer.isEmpty = true ↔
    ∃ lexeme p next, l.cursor.advance = .read lexeme p next ∧ lexeme.kind = .eof := by
  cases hadv : l.cursor.advance with
  | stuck e c =>
    rw [pop_of_stuck hadv]
    simp
  | read lexeme p next =>
    rw [pop_of_read hadv, lexeme.isEmpty_token]
    simp

/-- **A lexer rests at the end**: it can be popped any number of times and stays as it is, there is
no next token, draining delivers nothing, and tokenizing delivers the end and nothing else. -/
structure RestsAtEnd (l : Lexer) : Prop where
  popMany : ∀ n, l.popMany n = ⟨l, none, []⟩
  next : l.next = ⟨.finished, l, []⟩
  drain : l.drain = ⟨[], l, none, []⟩
  tokenize : l.tokenize = ⟨[l.front], l, none, []⟩

theorem restsAtEnd_atEnd (src : Source) (s : Text) : (atEnd src s).RestsAtEnd where
  popMany := popMany_atEnd src s
  next := next_of_isEmpty rfl
  drain := drain_of_isEmpty rfl
  tokenize := tokenize_of_isEmpty rfl

end Lexer

/-- **The end comes exactly when only layout is left, and stays.** A lexer that is opened on a
script has the end in front exactly if the script is blanks and parentheses. At the end of every
run, the next pop reads the end exactly if the lexer is outside of calls and blanks and parentheses
are all that is left of the script. Once the front is the end, it is the empty token behind the last
character of the script, and the lexer rests there. -/
theorem end_exactly_behind_layout (src : Source) (s : Text) :
    ((∃ l, Lexer.ofText src s = .ok l ∧ l.isEmpty = true) ↔ IsGap s) ∧
    ∀ ts l, Lexer.Run src s ts l →
      (l.pop.fault = none ∧ l.pop.lexer.isEmpty = true ↔
        l.cursor.mode = .topLevel ∧ IsGap (s.drop l.cursor.place.offset)) ∧
      (l.isEmpty = true →
        l.front = .endOf s src.file ∧ l.front.isSynthetic = false ∧
          l.cursor.place.offset = s.length ∧ l.RestsAtEnd) := by
  refine ⟨?_, ?_⟩
  · -- a lexer is opened by the advance from the start of the script
    rw [Lexer.ofText_isEmpty_iff, Cursor.advance_eof_iff]
    exact and_iff_right rfl
  · intro ts l hrun
    obtain ⟨-, -, hcur⟩ := hrun.cursor
    refine ⟨?_, ?_⟩
    · rw [Lexer.pop_isEmpty_iff, Cursor.advance_eof_iff, hcur.standsIn.rest_eq]
    · intro he
      obtain rfl := hrun.eq_atEnd he
      exact ⟨rfl, Token.isSynthetic_endOf s src.file, Cursor.offset_of_place rfl,
        Lexer.restsAtEnd_atEnd src s⟩

/-- A label, and behind it a stray parenthesis and the end of the line: one pop gets to the end,
which is at the start of the second line. -/
theorem end_exactly_behind_layout_second_line :
    ∃ l, Lexer.Run ⟨none, true⟩ ['a', ' ', ')', '\n'] [l.front] l ∧
      l.cursor.mode = .topLevel ∧ IsGap (['a', ' ', ')', '\n'].drop l.cursor.place.offset) ∧
      l.pop.lexer.isEmpty = true ∧
      l.pop.lexer.front = ⟨.eof, [], ⟨2, 1, 4, 4, none⟩⟩ ∧ l.pop.lexer.RestsAtEnd := by
  have hopen : Lexer.ofText ⟨none, true⟩ ['a', ' ', ')', '\n'] =
      .ok ⟨⟨none, true⟩, ⟨⟨1, 1, 2⟩, [' ', ')', '\n'], .topLevel⟩,
        ⟨.label, ['a'], .ofSpan .origin 1 none⟩⟩ := rfl
  have hrun := Lexer.Run.opened hopen
  obtain ⟨-, hends⟩ := end_exactly_behind_layout ⟨none, true⟩ ['a', ' ', ')', '\n']
  have hgap : IsGap [' ', ')', '\n'] := isGap_iff.mpr (List.all_eq_true.mp rfl)
  obtain ⟨hf, he⟩ := (hends _ _ hrun).1.mpr ⟨rfl, hgap⟩
  obtain ⟨hfront, -, -, hrests⟩ := (hends _ _ (hrun.popped hf)).2 he
  exact ⟨_, hrun, rfl, hgap, he, hfront, hrests⟩

/-! ### A fault -/

/-- The characters that are passed over when a cursor settles, as a part of the script. -/
theorem Cursor.StandsIn.passed_settle {c : Cursor} {s : Text} (h : c.StandsIn s) :
    (s.take c.settle.place.offset).drop c.place.offset = c.layout := by
  obtain ⟨t, hs, hplace⟩ := h
  have hsettle : c.settle.place = Position.origin.after (t ++ c.layout) := by
    rw [Position.after_append, ← hplace]
    rfl
  rw [offset_of_place hsettle, offset_of_place hplace, hs, ← c.layout_append_settle,
    ← List.append_assoc, List.take_left, List.drop_left]

/-- What cannot be read is the end of the text, or it starts with a character that is no layout. -/
theorem Mode.Fails.head_not_layout {m : Mode} {t : Text} {e : Cause} (h : m.Fails t e) :
    ∀ c ∈ t.head?, isBlank c = false ∧ (m = .topLevel → isParen c = false) := by
  intro c hc
  cases h with
  | strayComma | commaInList =>
    obtain rfl := Option.some.inj hc
    decide
  | endInList | endAfterParam => cases hc
  | junkAfterParam hblank =>
    obtain rfl := Option.some.inj hc
    exact ⟨hblank, nofun⟩

/-- **Two lexers on a script differ by layout that the second has passed over.** The front, the mode
and whatever stays fixed are the same. The characters between the two cursors are blanks, or outside
of calls blanks and parentheses, and none of these comes next. -/
structure Lexer.PassesLayout (s : Text) (l l' : Lexer) : Prop where
  front_eq : l'.front = l.front
  mode_eq : l'.cursor.mode = l.cursor.mode
  source_eq : l'.source = l.source
  rest_eq : l'.cursor.rest = s.drop l'.cursor.place.offset
  place_exact : l'.cursor.place.ExactIn s
  offset_le : l.cursor.place.offset ≤ l'.cursor.place.offset
  passed : ∀ c ∈ (s.take l'.cursor.place.offset).drop l.cursor.place.offset,
    isBlank c = true ∨ isParen c = true ∧ l.cursor.mode = .topLevel
  stops : ∀ c ∈ s[l'.cursor.place.offset]?,
    isBlank c = false ∧ (l.cursor.mode = .topLevel → isParen c = false)

/-- **A lexer is halted by a fault**: popping it and taking its next token fail, and change
nothing. -/
structure Lexer.HaltedBy (l : Lexer) (f : Fault) : Prop where
  pop : l.pop = ⟨l, some f, []⟩
  next : l.next = ⟨.fault f, l, []⟩

namespace Lexer

variable {src : Source} {s : Text} {ts : List Token} {l : Lexer} {f : Fault}

theorem Run.passesLayout (h : Run src s ts l) (hf : l.pop.fault = some f) :
    l.PassesLayout s l.pop.lexer := by
  obtain ⟨-, -, hcur⟩ := h.cursor
  obtain ⟨e, c, hadv, -⟩ := exists_stuck_of_fault hf
  obtain ⟨rfl, hfails⟩ := Cursor.advance_eq_stuck_iff.mp hadv
  have hin : l.cursor.settle.StandsIn s := hcur.standsIn.settle
  rw [pop_of_stuck hadv]
  refine ⟨rfl, rfl, rfl, hin.rest_eq, hin.exactIn, l.cursor.offset_le_settle, ?_, ?_⟩
  · intro d hd
    rw [hcur.standsIn.passed_settle] at hd
    exact Mode.blank_or_paren_of_isLayout (Cursor.isLayout_of_mem_layout hd)
  · intro d hd
    rw [← List.head?_drop, ← hin.rest_eq] at hd
    exact hfails.head_not_layout d hd

theorem notes_pop_of_fault (h : l.pop.fault = some f) : l.pop.notes = [] := by
  obtain ⟨e, c, hadv, -⟩ := exists_stuck_of_fault h
  rw [pop_of_stuck hadv]

/-- Where a pop fails, the front is not the end. -/
theorem Run.isEmpty_of_fault (h : Run src s ts l) (hf : l.pop.fault = some f) :
    l.isEmpty = false := by
  rw [Bool.eq_false_iff]
  intro he
  rw [h.eq_atEnd he, pop_atEnd] at hf
  cases hf

theorem Run.haltedBy (h : Run src s ts l) (hf : l.pop.fault = some f) :
    l.pop.lexer.HaltedBy f := by
  have hpop : l.pop.lexer.pop = ⟨l.pop.lexer, some f, []⟩ := by
    rw [pop_pop_of_fault hf, ← hf, ← notes_pop_of_fault hf]
  -- the front has stayed, so it is not the end and the lexer is popped for its next token
  have he : l.pop.lexer.isEmpty = false := by
    unfold isEmpty
    rw [front_pop_of_fault hf]
    exact h.isEmpty_of_fault hf
  refine ⟨hpop, ?_⟩
  rw [next_of_fault he (congrArg Move.fault hpop), hpop]

end Lexer

namespace History

variable {m : Lexer} {f : Fault} {qs : List Request}

/-- A halted lexer answers a pop and a request for its next token by the fault. -/
theorem ask_of_haltedBy (hm : m.HaltedBy f) {q : Request} (hq : q = .pop ∨ q = .next)
    (readers : List Reader) (k : Nat) (entries : List Entry) :
    (⟨m, readers, k, entries⟩ : History).ask q =
      ⟨m, readers, k, entries ++ [⟨q, some (.fault f), k⟩]⟩ := by
  rcases hq with rfl | rfl
  · simp [ask, answer, readersAfter, hm.pop]
  · simp [ask, answer, readersAfter, hm.next, Serving.isToken]

/-- **Whoever asks a halted lexer, and however often, is told the fault**, and the lexer stays. -/
theorem after_of_haltedBy (hm : m.HaltedBy f) (hqs : ∀ q ∈ qs, q = .pop ∨ q = .next) :
    after m qs = ⟨m, [], 0, qs.map fun q => ⟨q, some (.fault f), 0⟩⟩ := by
  -- one request more at the end, which finds the history that the others have left
  induction qs using List.reverseRecOn with
  | nil => rfl
  | append_singleton qs q ih =>
    have hq := hqs q (List.mem_append_right _ List.mem_cons_self)
    have hbefore := ih fun q' hq' => hqs q' (List.mem_append_left _ hq')
    unfold after at hbefore ⊢
    rw [List.foldl_append, hbefore, List.map_append]
    exact ask_of_haltedBy hm hq [] 0 _

end History

/-- **A pop that fails passes over layout and nothing more, and it repeats.** If the next pop fails
at the end of a run of a lexer on a script, no matter how many pops have failed before, the lexer
that it leaves differs from the one before only by layout that was passed over, and no note is made.
From then on every pop and every request for the next token fails with the same fault, in any order
and any number of times, and the lexer stays as it is. -/
theorem failed_pop_repeats (src : Source) (s : Text) (ts : List Token) (l : Lexer) (f : Fault)
    (h : Lexer.Run src s ts l) (hf : l.pop.fault = some f) :
    l.PassesLayout s l.pop.lexer ∧ l.pop.notes = [] ∧ l.pop.lexer.HaltedBy f ∧
      ∀ qs : List Request, (∀ q ∈ qs, q = .pop ∨ q = .next) →
        History.after l.pop.lexer qs =
          ⟨l.pop.lexer, [], 0, qs.map fun q => ⟨q, some (.fault f), 0⟩⟩ := by
  have hhalted := h.haltedBy hf
  refine ⟨h.passesLayout hf, Lexer.notes_pop_of_fault hf, hhalted, ?_⟩
  intro qs hqs
  exact History.after_of_haltedBy hhalted hqs

/-- A comma on the next line, behind a stray parenthesis: the pop that fails passes over three
characters, and a pop and a request for the next token behind it leave the lexer there. -/
theorem failed_pop_repeats_next_line :
    ∃ l f, Lexer.Run ⟨none, true⟩ ['a', '\n', ')', ' ', ','] [l.front] l ∧ l.pop.fault = some f ∧
      l.cursor.place.offset = 1 ∧ l.pop.lexer.cursor.place = ⟨4, 2, 3⟩ ∧
      l.PassesLayout ['a', '\n', ')', ' ', ','] l.pop.lexer ∧
      (History.after l.pop.lexer [.pop, .next]).lexer = l.pop.lexer := by
  have hopen : Lexer.ofText ⟨none, true⟩ ['a', '\n', ')', ' ', ','] =
      .ok ⟨⟨none, true⟩, ⟨⟨1, 1, 2⟩, ['\n', ')', ' ', ','], .topLevel⟩,
        ⟨.label, ['a'], .ofSpan .origin 1 none⟩⟩ := rfl
  have hrun := Lexer.Run.opened hopen
  obtain ⟨hpassed, -, -, hlater⟩ :=
    failed_pop_repeats _ _ _ _ ⟨.strayComma, ⟨4, 2, 3⟩, none⟩ hrun rfl
  exact ⟨_, _, hrun, rfl, rfl, rfl, hpassed,
    congrArg History.lexer (hlater [.pop, .next] (by simp))⟩

end Dialogue
