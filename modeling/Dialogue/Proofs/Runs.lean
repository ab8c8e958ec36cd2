import Dialogue.Lexer
import Dialogue.Proofs.Rules

/-!
# Runs of a lexer

A run on a script is what has happened up to some moment: the tokens that were produced, in order,
and the lexer as it stands. `Lexer.Run` starts where a lexer was opened and goes on by popping, no
matter whether a pop succeeds. `Cursor.Run` is the same seen from the cursor. It starts before the
first token, so that opening a lexer is one advance like every other, and it forgets what stays
fixed; whatever holds along every run of a cursor holds along every run of a lexer
(`Lexer.Run.cursor`).

Three invariants hold along every run.

* **The cursor stands in the script** (`Cursor.Run.standsIn`): what it has passed and what is left
  make up the script, and its position is the position behind what it has passed.
* **Every token stands in the script** (`Cursor.Run.token_standsIn`): it is located behind a part of
  the script, it covers the characters that follow, and these are its value, unless the value was
  supplied.
* **The last token tells the mode** (`Cursor.Run.mode_eq`): what may come next is a function of the
  token that was produced last.
-/

namespace Dialogue

/-! ### Runs -/

/-- **A run of a cursor** on a script: the tokens so far and the cursor behind them. -/
inductive Cursor.Run (file : Option String) (s : Text) : List Token → Cursor → Prop
  /-- Nothing has been read yet. -/
  | start : Run file s [] (Cursor.ofText s)
  /-- One more token was read. -/
  | read {ts : List Token} {c next : Cursor} {l : Lexeme} {p : Position} :
      Run file s ts c → c.advance = .read l p next → Run file s (ts ++ [l.token p file]) next
  /-- An advance was stuck. -/
  | stuck {ts : List Token} {c c' : Cursor} {e : Cause} :
      Run file s ts c → c.advance = .stuck e c' → Run file s ts c'

/-- **A run of a lexer** on a script: the tokens so far, the front among them, and the lexer. -/
inductive Lexer.Run (src : Source) (s : Text) : List Token → Lexer → Prop
  /-- The lexer was opened. -/
  | opened {l : Lexer} : Lexer.ofText src s = .ok l → Run src s [l.front] l
  /-- A pop succeeded. -/
  | popped {ts : List Token} {l : Lexer} :
      Run src s ts l → l.pop.fault = none → Run src s (ts ++ [l.pop.lexer.front]) l.pop.lexer
  /-- A pop failed. -/
  | failed {ts : List Token} {l : Lexer} {f : Fault} :
      Run src s ts l → l.pop.fault = some f → Run src s ts l.pop.lexer

/-- A move, with the notes that were made before it. -/
def Move.behind (notes : List Note) (m : Move) : Move :=
  { m with notes := notes ++ m.notes }

namespace Lexer

variable {src : Source} {s : Text} {ts : List Token} {l : Lexer} {f : Fault}

theorem ofText_eq_ok_iff : Lexer.ofText src s = .ok l ↔
    ∃ lexeme p next, (Cursor.ofText s).advance = .read lexeme p next ∧
      l = ⟨src, next, lexeme.token p src.file⟩ := by
  rw [ofText]
  cases (Cursor.ofText s).advance with
  | stuck e c => simp
  | read lexeme p next =>
    simp only [Except.ok.injEq, Advance.read.injEq]
    refine ⟨?_, ?_⟩
    · rintro rfl
      exact ⟨lexeme, p, next, ⟨rfl, rfl, rfl⟩, rfl⟩
    · rintro ⟨_, _, _, ⟨rfl, rfl, rfl⟩, rfl⟩
      rfl

/-- A lexer cannot be opened exactly when the first advance is stuck. -/
theorem ofText_eq_error_iff : Lexer.ofText src s = .error f ↔
    ∃ e c, (Cursor.ofText s).advance = .stuck e c ∧ f = src.fault e c := by
  rw [ofText]
  cases (Cursor.ofText s).advance with
  | read lexeme p next => simp
  | stuck e c =>
    simp only [Except.error.injEq, Advance.stuck.injEq]
    refine ⟨?_, ?_⟩
    · rintro rfl
      exact ⟨e, c, ⟨rfl, rfl⟩, rfl⟩
    · rintro ⟨_, _, ⟨rfl, rfl⟩, rfl⟩
      rfl

theorem pop_of_read {lexeme : Lexeme} {p : Position} {next : Cursor}
    (h : l.cursor.advance = .read lexeme p next) :
    l.pop = ⟨⟨l.source, next, lexeme.token p l.source.file⟩, none, l.source.notes lexeme p⟩ := by
  rw [pop, h]

theorem pop_of_stuck {e : Cause} {c : Cursor} (h : l.cursor.advance = .stuck e c) :
    l.pop = ⟨{ l with cursor := c }, some (l.source.fault e c), []⟩ := by
  rw [pop, h]

theorem exists_stuck_of_fault (h : l.pop.fault = some f) :
    ∃ e c, l.cursor.advance = .stuck e c ∧ f = l.source.fault e c := by
  cases hadv : l.cursor.advance with
  | read lexeme p next =>
    rw [pop_of_read hadv] at h
    cases h
  | stuck e c =>
    rw [pop_of_stuck hadv] at h
    cases h
    exact ⟨e, c, rfl, rfl⟩

/-- **A pop that failed fails again**, and changes nothing more. -/
theorem pop_pop_of_fault (h : l.pop.fault = some f) : l.pop.lexer.pop = l.pop := by
  obtain ⟨e, c, hadv, -⟩ := exists_stuck_of_fault h
  rw [pop_of_stuck hadv]
  exact pop_of_stuck (Cursor.advance_of_stuck hadv)

/-! Popping several times is one pop after the other, and ends with the first that fails. -/

theorem popMany_succ_of_fault (h : l.pop.fault = some f) (n : Nat) : l.popMany (n + 1) = l.pop := by
  simp only [popMany, h]

theorem popMany_succ_of_ok (h : l.pop.fault = none) (n : Nat) :
    l.popMany (n + 1) = (l.pop.lexer.popMany n).behind l.pop.notes := by
  simp only [popMany, h]
  rfl

/-- **One pop more** is a pop behind the others, as long as none of them has failed. -/
theorem popMany_succ {n : Nat} (h : (l.popMany n).fault = none) :
    (l.popMany (n + 1)).lexer = (l.popMany n).lexer.pop.lexer ∧
      (l.popMany (n + 1)).fault = (l.popMany n).lexer.pop.fault := by
  induction n generalizing l with
  | zero =>
    change (l.popMany 1).lexer = l.pop.lexer ∧ (l.popMany 1).fault = l.pop.fault
    cases hf : l.pop.fault with
    | some f => rw [popMany_succ_of_fault hf]; exact ⟨rfl, hf⟩
    | none => rw [popMany_succ_of_ok hf]; exact ⟨rfl, rfl⟩
  | succ n ih =>
    cases hf : l.pop.fault with
    | some f =>
      rw [popMany_succ_of_fault hf, hf] at h
      cases h
    | none =>
      rw [popMany_succ_of_ok hf] at h ⊢
      rw [popMany_succ_of_ok hf]
      exact ih h

/-- What every pop keeps is kept by popping many times. -/
theorem popMany_induction {P : Lexer → Prop} (hpop : ∀ l, P l → P l.pop.lexer) (h : P l)
    (n : Nat) : P (l.popMany n).lexer := by
  induction n generalizing l with
  | zero => exact h
  | succ n ih =>
    cases hf : l.pop.fault with
    | some f => rw [popMany_succ_of_fault hf]; exact hpop l h
    | none => rw [popMany_succ_of_ok hf]; exact ih (hpop l h)

/-- **A run of a lexer is a run of its cursor**, with the front as the last token. -/
theorem Run.cursor (h : Run src s ts l) :
    l.source = src ∧ ts.getLast? = some l.front ∧ Cursor.Run src.file s ts l.cursor := by
  induction h with
  | opened hl =>
    -- opening is the advance from the start of the script
    obtain ⟨lexeme, p, next, hadv, rfl⟩ := ofText_eq_ok_iff.mp hl
    exact ⟨rfl, rfl, Cursor.Run.read .start hadv⟩
  | @popped ts l _ hf ih =>
    obtain ⟨hsrc, -, hrun⟩ := ih
    cases hadv : l.cursor.advance with
    | read lexeme p next =>
      rw [pop_of_read hadv, hsrc]
      exact ⟨rfl, List.getLast?_concat, hrun.read hadv⟩
    | stuck e c =>
      rw [pop_of_stuck hadv] at hf
      cases hf
  | @failed ts l f _ hf ih =>
    obtain ⟨hsrc, hlast, hrun⟩ := ih
    cases hadv : l.cursor.advance with
    | read lexeme p next =>
      rw [pop_of_read hadv] at hf
      cases hf
    | stuck e c =>
      -- the front stays, so the last token is the same
      rw [pop_of_stuck hadv]
      exact ⟨hsrc, hlast, hrun.stuck hadv⟩

end Lexer

/-! ### The cursor stands in the script -/

/-- **A cursor stands in a script** when what is left is an end of the script and the position is
the one behind what comes before. -/
def Cursor.StandsIn (c : Cursor) (s : Text) : Prop :=
  ∃ t, s = t ++ c.rest ∧ c.place = Position.origin.after t

namespace Cursor

variable {file : Option String} {s : Text} {ts : List Token} {c c' next : Cursor} {l : Lexeme}
  {p : Position} {e : Cause}

theorem standsIn_ofText (s : Text) : (Cursor.ofText s).StandsIn s :=
  ⟨[], rfl, rfl⟩

theorem offset_of_place {t : Text} (h : c.place = Position.origin.after t) :
    c.place.offset = t.length := by
  rw [h, Position.offset_after]
  exact Nat.zero_add _

theorem StandsIn.offset_le (h : c.StandsIn s) : c.place.offset ≤ s.length := by
  obtain ⟨t, rfl, hp⟩ := h
  rw [offset_of_place hp, List.length_append]
  omega

theorem StandsIn.rest_eq (h : c.StandsIn s) : c.rest = s.drop c.place.offset := by
  obtain ⟨t, rfl, hp⟩ := h
  rw [offset_of_place hp, List.drop_left]

theorem StandsIn.settle (h : c.StandsIn s) : c.settle.StandsIn s := by
  obtain ⟨t, rfl, hp⟩ := h
  refine ⟨t ++ c.layout, ?_, ?_⟩
  · rw [List.append_assoc, layout_append_settle]
  · rw [Position.after_append, ← hp]
    rfl

/-- **What one reading advance does to the script**: it is cut into what was passed before, the
layout, all that the lexeme consumes and what is left. -/
theorem StandsIn.exists_of_read (h : c.StandsIn s) (hadv : c.advance = .read l p next) :
    ∃ t, s = t ++ c.layout ++ l.consumed ++ next.rest ∧ c.place = Position.origin.after t ∧
      p = Position.origin.after (t ++ c.layout) ∧
      next.place = Position.origin.after (t ++ c.layout ++ l.consumed) := by
  obtain ⟨t, rfl, hp⟩ := h
  obtain ⟨rfl, hplace, hreads⟩ := advance_eq_read_iff.mp hadv
  -- nothing is lost in between: what is read and what is left make up the text behind the layout
  have hrest : l.consumed ++ next.rest = c.settle.rest := Mode.consumed_read hreads.read_eq
  have hstart : c.settle.place = Position.origin.after (t ++ c.layout) := by
    rw [Position.after_append, ← hp]
    rfl
  refine ⟨t, ?_, hp, hstart, ?_⟩
  · rw [List.append_assoc, hrest, List.append_assoc, layout_append_settle]
  · rw [hplace, hstart, ← Position.after_append]

theorem StandsIn.read (h : c.StandsIn s) (hadv : c.advance = .read l p next) :
    next.StandsIn s := by
  obtain ⟨t, hs, -, -, hplace⟩ := h.exists_of_read hadv
  exact ⟨_, hs, hplace⟩

/-- **Along every run, the cursor stands in the script.** -/
theorem Run.standsIn (h : Run file s ts c) : c.StandsIn s := by
  induction h with
  | start => exact standsIn_ofText s
  | read _ hadv ih => exact ih.read hadv
  | stuck _ hadv ih =>
    obtain ⟨rfl, -⟩ := advance_eq_stuck_iff.mp hadv
    exact ih.settle

theorem offset_le_settle (c : Cursor) : c.place.offset ≤ c.settle.place.offset := by
  rw [Cursor.settle, Position.offset_after]
  omega

end Cursor

/-! ### Every token stands in the script -/

namespace Lexeme

theorem length_consumed (l : Lexeme) :
    l.consumed.length = l.lead.length + l.body.length + l.trail.length := by
  rw [consumed, List.length_append, List.length_append]

variable (l : Lexeme) (u : Text) (file : Option String)

theorem start_token : (l.token (Position.origin.after u) file).location.start =
    ((u.length + l.lead.length : Nat) : Int) := by
  rw [location_token, Location.start_ofSpan, Position.offset_after, Position.offset_after]
  simp [Position.origin]

theorem stop_token : (l.token (Position.origin.after u) file).location.stop =
    ((u.length + l.lead.length + l.body.length : Nat) : Int) := by
  rw [location_token, Location.stop_ofSpan, Position.offset_after, Position.offset_after]
  simp [Position.origin]

end Lexeme

/-- **A token stands in a text** when it is located behind a part of the text and covers characters
that follow there, which are its value unless it is synthetic. -/
def Token.StandsIn (t : Token) (s : Text) : Prop :=
  ∃ u b w, s = u ++ b ++ w ∧
    t.location = .ofSpan (Position.origin.after u) b.length t.location.file ∧
    (t.isSynthetic = false → b = t.value)

theorem Token.StandsIn.append {t : Token} {s : Text} (h : t.StandsIn s) (r : Text) :
    t.StandsIn (s ++ r) := by
  obtain ⟨u, b, w, rfl, hloc, hval⟩ := h
  exact ⟨u, b, w ++ r, by rw [List.append_assoc (u ++ b)], hloc, hval⟩

/-- The token of a lexeme stands in what has been passed once the lexeme is consumed. -/
theorem Lexeme.standsIn_token (l : Lexeme) (t : Text) (file : Option String) :
    (l.token (Position.origin.after t) file).StandsIn (t ++ l.consumed) := by
  refine ⟨t ++ l.lead, l.body, l.trail, ?_, ?_, ?_⟩
  · rw [consumed]
    simp only [List.append_assoc]
  · rw [location_token, Position.after_append]
    rfl
  · intro hsyn
    rw [isSynthetic_token] at hsyn
    cases himp : l.implied with
    | false => rw [body, himp, value_token]; rfl
    | true =>
      -- an implied lexeme that is not synthetic has the empty value, and covers nothing
      rw [himp, Bool.true_and, Bool.not_eq_false', List.isEmpty_iff] at hsyn
      rw [body, himp, value_token, hsyn]
      rfl

/-- **Along every run, every token stands in what the cursor has passed.** -/
theorem Cursor.Run.token_standsIn {file : Option String} {s : Text} {ts : List Token} {c : Cursor}
    (h : Run file s ts c) : ∀ t ∈ ts, t.StandsIn (s.take c.place.offset) := by
  induction h with
  | start => exact fun t ht => absurd ht List.not_mem_nil
  | @read ts c next l p hrun hadv ih =>
    obtain ⟨u, hs, hc, hp, hnext⟩ := hrun.standsIn.exists_of_read hadv
    rw [offset_of_place hnext, hs, List.take_left]
    rw [offset_of_place hc, hs, List.append_assoc, List.append_assoc, List.take_left] at ih
    -- The cursor has only moved on, so the old tokens stand in what it has passed now.
    intro t ht
    rcases List.mem_append.mp ht with ht | ht
    · rw [List.append_assoc]
      exact (ih t ht).append _
    · rw [List.mem_singleton.mp ht, hp]
      exact l.standsIn_token _ file
  | @stuck ts c c' e hrun hadv ih =>
    obtain ⟨rfl, -⟩ := advance_eq_stuck_iff.mp hadv
    intro t ht
    -- what has been passed now starts with what had been passed before
    have hle := c.offset_le_settle
    have hcut : s.take c.settle.place.offset
        = s.take c.place.offset ++ (s.drop c.place.offset).take
            (c.settle.place.offset - c.place.offset) := by
      rw [← List.take_add, Nat.add_sub_cancel' hle]
    rw [hcut]
    exact (ih t ht).append _

/-- A token is synthetic exactly if its lexeme is implied: whatever is implied has a value. -/
theorem Mode.Reads.isSynthetic_token {m : Mode} {t : Text} {r : Reading} (h : m.Reads t r)
    (p : Position) (file : Option String) :
    (r.lexeme.token p file).isSynthetic = r.lexeme.implied := by
  rw [Lexeme.isSynthetic_token]
  cases h with
  | impliedOpening | lastOpening | impliedClosing => rfl
  | eof | label | name | comment | lastComment | text | opening | param | emptyClosing | separator
  | closing => exact Bool.false_and _

/-! ### The last token tells the mode -/

/-- **The mode behind a token.** -/
def Mode.behind (t : Token) : Mode :=
  match t.kind with
  | .name => .afterName
  | .opening => if t.isSynthetic then .impliedClose else .inList
  | .separator => .inList
  | .param => .afterParam
  | .text | .comment | .label | .closing | .eof => .topLevel

/-- **Each mode is the mode behind certain tokens**, and behind no others. -/
theorem Mode.behind_eq_iff {t : Token} {m : Mode} : Mode.behind t = m ↔
    match m with
    | .topLevel => t.kind ∈ [Kind.text, .comment, .label, .closing, .eof]
    | .afterName => t.kind = .name
    | .impliedClose => t.kind = .opening ∧ t.isSynthetic = true
    | .inList => t.kind = .opening ∧ t.isSynthetic = false ∨ t.kind = .separator
    | .afterParam => t.kind = .param := by
  unfold Mode.behind
  cases t.kind with
  | opening => cases t.isSynthetic <;> cases m <;> simp
  | text | comment | label | name | param | separator | closing | eof => cases m <;> simp

/-- Every rule goes on in the mode behind its token. -/
theorem Mode.Reads.mode_eq {m : Mode} {t : Text} {r : Reading} (h : m.Reads t r) (p : Position)
    (file : Option String) : r.mode = Mode.behind (r.lexeme.token p file) := by
  cases h with
  -- the mode behind an opening parenthesis depends on whether it was written
  | opening | impliedOpening | lastOpening =>
    simp [Mode.behind, Lexeme.isSynthetic_token]
  | eof | label | name | comment | lastComment | text | impliedClosing | param | emptyClosing
  | separator | closing => rfl

/-- Only a name leads behind a name, and it is the longest that there is. -/
theorem Mode.Reads.stops_of_afterName {m : Mode} {t : Text} {r : Reading} (h : m.Reads t r)
    (hm : r.mode = .afterName) : Text.Stops isLabel r.rest := by
  cases h with
  | name _ hr => exact hr
  | eof | label | comment | lastComment | text | opening | impliedOpening | lastOpening
  | impliedClosing | param | emptyClosing | separator | closing => cases hm

namespace Cursor

variable {file : Option String} {s : Text} {ts : List Token} {c : Cursor}

/-- **Along every run, the last token tells the mode.** -/
theorem Run.mode_eq (h : Run file s ts c) : c.mode = ts.getLast?.elim .topLevel Mode.behind := by
  induction h with
  | start => rfl
  | @read ts c next l p _ hadv _ =>
    obtain ⟨-, -, hreads⟩ := advance_eq_read_iff.mp hadv
    rw [List.getLast?_concat]
    exact hreads.mode_eq p file
  | stuck _ hadv ih =>
    obtain ⟨rfl, -⟩ := advance_eq_stuck_iff.mp hadv
    exact ih

/-- **Directly behind a name, the text does not go on with it.** -/
theorem Run.stops_of_afterName (h : Run file s ts c) (hm : c.mode = .afterName) :
    Text.Stops isLabel c.rest := by
  cases h with
  | start => cases hm
  | read _ hadv =>
    obtain ⟨-, -, hreads⟩ := advance_eq_read_iff.mp hadv
    exact hreads.stops_of_afterName hm
  | stuck _ hadv =>
    -- behind a name nothing is ever stuck
    obtain ⟨rfl, hfails⟩ := advance_eq_stuck_iff.mp hadv
    rw [settle_mode] at hm
    rw [hm] at hfails
    cases hfails

end Cursor

end Dialogue
