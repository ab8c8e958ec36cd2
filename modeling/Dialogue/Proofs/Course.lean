import Dialogue.Proofs.Relocation
import Dialogue.Proofs.Words

/-!
# The course of a script

A lexer holds one token in front of its cursor, opening one is not like popping one, and a delivery
carries the lexer and the notes along. For laws about the tokens of a script, all this is in the
way. The *course* of a cursor is what it has before it: the tokens up to the end of the script, or
up to the first fault, and the fault (`Cursor.course`). It is unfolded one advance at a time, and an
advance is all it depends on (`Cursor.course_congr`), so that a law about courses is one case for
each way in which an advance can end.

Tokenizing is the course, for a lexer that has just been opened or popped (`Lexer.course_tokenize`)
as for a text under whatever settings (`Config.tokenize_eq_course`). Relocating a cursor relocates
its course (`Cursor.course_relocate`).
-/

namespace Dialogue

/-- **What a cursor has before it**: tokens, and the fault that they end in, if they do. -/
structure Course where
  /-- The tokens, with the end of the script if it is reached. -/
  tokens : List Token
  /-- Why the end is not reached, if it is not. -/
  fault : Option Fault
deriving DecidableEq, Repr

namespace Course

/-- A course with one more token in front. -/
def cons (t : Token) (c : Course) : Course :=
  { c with tokens := t :: c.tokens }

/-- The tokens, if the end of the script is reached. -/
def result (c : Course) : Except Fault (List Token) :=
  match c.fault with
  | some f => .error f
  | none => .ok c.tokens

/-- A course, relocated to a base in a file. -/
def relocate (base : Position) (file : Option String) (c : Course) : Course where
  tokens := c.tokens.map (Token.relocate base file)
  fault := c.fault.map (Fault.relocate base file)

end Course

namespace Cursor

/-- **The course of a cursor**, in a file. -/
def course (file : Option String) (c : Cursor) : Course :=
  match _ : c.advance with
  | .stuck e c' => ⟨[], some ⟨e, c'.place, file⟩⟩
  | .read l p next =>
    if _ : l.kind = .eof then ⟨[l.token p file], none⟩
    else (next.course file).cons (l.token p file)
termination_by c.workload
decreasing_by exact workload_advance_lt ‹_› ‹_›

variable {base : Position} {c c' d next : Cursor} {l : Lexeme} {p : Position} {e : Cause}
  {file file' : Option String}

/-! The course in each way in which an advance can end. -/

theorem course_of_stuck (h : c.advance = .stuck e c') :
    c.course file = ⟨[], some ⟨e, c'.place, file⟩⟩ := by
  rw [course]
  split <;> simp_all

theorem course_of_eof (h : c.advance = .read l p next) (hk : l.kind = .eof) :
    c.course file = ⟨[l.token p file], none⟩ := by
  rw [course]
  split <;> simp_all

theorem course_of_read (h : c.advance = .read l p next) (hk : l.kind ≠ .eof) :
    c.course file = (next.course file).cons (l.token p file) := by
  rw [course]
  split <;> simp_all

/-- Cursors that settle alike have the same course: an advance looks at nothing else. -/
theorem course_congr (h : c.settle = d.settle) : c.course file = d.course file := by
  have hmode : c.mode = d.mode := by rw [← settle_mode c, h, settle_mode]
  have hadv : c.advance = d.advance := by rw [advance, advance, h, hmode]
  cases hd : d.advance with
  | stuck e c' => rw [course_of_stuck hd, course_of_stuck (hadv.trans hd)]
  | read l p next =>
    by_cases hk : l.kind = .eof
    · rw [course_of_eof hd hk, course_of_eof (hadv.trans hd) hk]
    · rw [course_of_read hd hk, course_of_read (hadv.trans hd) hk]

/-- **Relocating a cursor relocates its course.** -/
theorem course_relocate (hb : base.Sound) (hc : c.place.Sound) :
    (c.relocate base).course file = (c.course file').relocate base file := by
  -- along the course: stuck, at the end, or one token further
  fun_induction course file' c with
  | case1 c e c' hadv =>
    have hmoved : (c.relocate base).advance = .stuck e (c'.relocate base) := by
      rw [advance_relocate hc, hadv]
      rfl
    rw [course_of_stuck hmoved]
    rfl
  | case2 c l p next hadv hk =>
    -- the place of the token is relocated with that of the cursor
    have hmoved : (c.relocate base).advance = .read l (base.relocate p) (next.relocate base) := by
      rw [advance_relocate hc, hadv]
      rfl
    rw [course_of_eof hmoved hk, ← l.relocate_token hb (sound_of_read hc hadv).1 file file']
    rfl
  | case3 c l p next hadv hk ih =>
    have hmoved : (c.relocate base).advance = .read l (base.relocate p) (next.relocate base) := by
      rw [advance_relocate hc, hadv]
      rfl
    obtain ⟨hp, hnext⟩ := sound_of_read hc hadv
    rw [course_of_read hmoved hk, ih hnext, ← l.relocate_token hb hp file file']
    rfl

/-- All of a course is in the file. -/
theorem file_course (c : Cursor) (file : Option String) :
    (∀ t ∈ (c.course file).tokens, t.location.file = file) ∧
      ∀ f ∈ (c.course file).fault, f.file = file := by
  fun_induction course file c with
  | case1 c e c' hadv => simp
  | case2 c l p next hadv hk => simp
  | case3 c l p next hadv hk ih =>
    refine ⟨?_, ih.2⟩
    intro t ht
    rcases List.mem_cons.mp ht with rfl | ht
    · rfl
    · exact ih.1 t ht

end Cursor

/-! ### Tokenizing is the course -/

/-- The course that a delivery has taken. -/
def Delivery.course (d : Delivery) : Course :=
  ⟨d.tokens, d.fault⟩

namespace Lexer

variable {l : Lexer} {f : Fault}

/-! Tokenizing in each of its cases. Unlike draining, it delivers the front before it pops. -/

theorem tokenize_of_isEmpty (he : l.isEmpty = true) : l.tokenize = ⟨[l.front], l, none, []⟩ := by
  rw [tokenize, dif_pos he]

theorem tokenize_of_fault (he : ¬ l.isEmpty = true) (hf : l.pop.fault = some f) :
    l.tokenize = ⟨[l.front], l.pop.lexer, some f, l.pop.notes⟩ := by
  rw [tokenize, dif_neg he]
  split <;> simp_all

theorem tokenize_of_pop (he : ¬ l.isEmpty = true) (hf : l.pop.fault = none) :
    l.tokenize = l.pop.lexer.tokenize.cons l.front l.pop.notes := by
  rw [tokenize, dif_neg he]
  split <;> simp_all

/-! Draining has the same three cases. -/

theorem drain_of_isEmpty (he : l.isEmpty = true) : l.drain = ⟨[], l, none, []⟩ := by
  rw [drain, dif_pos he]

theorem drain_of_fault (he : ¬ l.isEmpty = true) (hf : l.pop.fault = some f) :
    l.drain = ⟨[], l.pop.lexer, some f, l.pop.notes⟩ := by
  rw [drain, dif_neg he]
  split <;> simp_all

theorem drain_of_pop (he : ¬ l.isEmpty = true) (hf : l.pop.fault = none) :
    l.drain = l.pop.lexer.drain.cons l.front l.pop.notes := by
  rw [drain, dif_neg he]
  split <;> simp_all

/-- What every pop keeps is kept by tokenizing. -/
theorem tokenize_induction {P : Lexer → Prop} (hpop : ∀ l, P l → P l.pop.lexer) (h : P l) :
    P l.tokenize.lexer := by
  fun_induction tokenize l with
  | case1 l he => exact h
  | case2 l he f hf => exact hpop l h
  | case3 l he hf ih => exact ih (hpop l h)

/-- **A lexer that has just read its front delivers the course of the cursor before it.** -/
theorem course_tokenize (src : Source) {c next : Cursor} {lexeme : Lexeme} {p : Position}
    (hadv : c.advance = .read lexeme p next) :
    (⟨src, next, lexeme.token p src.file⟩ : Lexer).tokenize.course = c.course src.file := by
  fun_induction Cursor.course src.file c generalizing lexeme p next with
  | case1 c e c' hstuck =>
    -- the cursor has read the front, so it was not stuck
    rw [hstuck] at hadv
    cases hadv
  | case2 c lexeme' p' next' hread hk =>
    obtain ⟨rfl, rfl, rfl⟩ := Advance.read.inj (hread.symm.trans hadv)
    rw [tokenize_of_isEmpty ((lexeme'.isEmpty_token src p' next').mpr hk)]
    rfl
  | case3 c lexeme' p' next' hread hk ih =>
    obtain ⟨rfl, rfl, rfl⟩ := Advance.read.inj (hread.symm.trans hadv)
    have he := mt (lexeme'.isEmpty_token src p' next').mp hk
    -- what the lexer does next is what the cursor does, which is now behind the front
    cases hnext : next'.advance with
    | stuck e c' =>
      have hpop := pop_of_stuck (l := ⟨src, next', lexeme'.token p' src.file⟩) hnext
      rw [tokenize_of_fault he (congrArg Move.fault hpop), Cursor.course_of_stuck hnext]
      rfl
    | read lexeme'' p'' next'' =>
      have hpop := pop_of_read (l := ⟨src, next', lexeme'.token p' src.file⟩) hnext
      rw [tokenize_of_pop he (congrArg Move.fault hpop), hpop, ← ih hnext]
      rfl

end Lexer

/-- **Tokenizing a text gives the course of the cursor at its start**, whatever the settings. -/
theorem Config.tokenize_eq_course (c : Config) (s : Text) (file : Option String) :
    (c.tokenize s file).1 = ((Cursor.ofText s).course file).result := by
  rw [Config.tokenize, openText]
  cases hl : Lexer.ofText (c.source file) s with
  | error f =>
    -- a lexer that cannot be opened has an empty course and its fault
    obtain ⟨e, cur, hadv, rfl⟩ := Lexer.ofText_eq_error_iff.mp hl
    rw [Cursor.course_of_stuck hadv]
    rfl
  | ok l =>
    obtain ⟨lexeme, p, next, hadv, rfl⟩ := Lexer.ofText_eq_ok_iff.mp hl
    exact congrArg Course.result (Lexer.course_tokenize (c.source file) hadv)

end Dialogue
