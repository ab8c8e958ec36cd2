import Dialogue.Proofs.Course
import Dialogue.Reader

/-!
# The log of a run

A lexer that notes dropped characters makes a note when it supplies an opening parenthesis and drops
the character behind the name. The notes are made on the way, by whichever operation happens to pop
the lexer, and before the character is consumed. Afterwards they can be told from the tokens alone:
`Token.note? s t` is the note that goes with a token of the script `s`, and `Source.log` collects
them in the order of the tokens.

Every operation that moves a lexer leads along a run and makes the notes of the tokens that it
produced, neither more nor less (`Lexer.Leads`). For a pop this is read off the rules of reading
(`Lexer.leads_pop`); the other operations are pops in a row.
-/

namespace Dialogue

/-! ### The notes of tokens -/

/-- **The note that goes with a token** of a script. There is one for a synthetic opening
parenthesis in front of a character: it has the character, and the place of the token. -/
def Token.note? (s : Text) (t : Token) : Option Note :=
  if t.kind = .opening ∧ t.isSynthetic = true then
    (s[t.location.start.toNat]?).map fun c =>
      .dropped c ⟨t.location.start.toNat, t.location.line.toNat, t.location.column.toNat⟩
  else none

/-- **The notes of some tokens** of a script, if notes are made at all. -/
def Source.log (src : Source) (s : Text) (ts : List Token) : List Note :=
  if src.notesDropped then ts.filterMap (Token.note? s) else []

@[simp] theorem Source.log_nil (src : Source) (s : Text) : src.log s [] = [] := by
  simp [log]

/-- The notes of a run that goes on are those made so far and those of the tokens added. -/
theorem Source.log_append (src : Source) (s : Text) (ts us : List Token) :
    src.log s (ts ++ us) = src.log s ts ++ src.log s us := by
  unfold log
  split
  · exact List.filterMap_append
  · rfl

theorem Token.note?_of_kind_ne {t : Token} (h : t.kind ≠ .opening) (s : Text) : t.note? s = none :=
  if_neg fun hopening => h hopening.1

/-- An opening parenthesis that is implied takes the place of the first character, if there is
one. -/
theorem Mode.Reads.dropped?_eq {m : Mode} {t : Text} {r : Reading} (h : m.Reads t r)
    (hk : r.lexeme.kind = .opening) (himp : r.lexeme.implied = true) :
    r.lexeme.lead = [] ∧ r.lexeme.dropped? = t.head? := by
  cases h with
  | impliedOpening | lastOpening => exact ⟨rfl, rfl⟩
  | opening => cases himp
  | eof | label | name | comment | lastComment | text | impliedClosing | param | emptyClosing
  | separator | closing => cases hk

/-- Outside of calls no parenthesis is read that opens a list. -/
theorem Mode.Reads.kind_of_topLevel {t : Text} {r : Reading} (h : topLevel.Reads t r) :
    r.lexeme.kind ≠ .opening := by
  intro hk
  cases h <;> cases hk

/-- **An advance makes the note of its token.** -/
theorem Cursor.StandsIn.note?_token {c next : Cursor} {s : Text} {l : Lexeme} {p : Position}
    (h : c.StandsIn s) (hadv : c.advance = .read l p next) (file : Option String) :
    (l.token p file).note? s = l.dropped?.map (Note.dropped · (p.after l.lead)) := by
  obtain ⟨rfl, -, hreads⟩ := advance_eq_read_iff.mp hadv
  have hsyn := hreads.isSynthetic_token c.settle.place file
  by_cases himplied : l.kind = .opening ∧ l.implied = true
  · obtain ⟨hlead, hdropped⟩ := hreads.dropped?_eq himplied.1 himplied.2
    -- the token starts where the cursor has settled, in front of all that is left
    have hchar : s[c.settle.place.offset]? = c.settle.rest.head? := by
      rw [h.settle.rest_eq, List.head?_drop]
    rw [Token.note?, if_pos ⟨himplied.1, hsyn.trans himplied.2⟩, Lexeme.location_token, hlead,
      Position.after_nil, Location.start_ofSpan, Int.toNat_natCast, hchar, hdropped]
    rfl
  · -- any other token drops nothing: it opens no list, or its parenthesis is written
    have hnone : l.dropped? = none := if_neg himplied
    have hwritten : ¬ (l.kind = .opening ∧ (l.token c.settle.place file).isSynthetic = true) :=
      fun hopening => himplied ⟨hopening.1, hsyn.symm.trans hopening.2⟩
    rw [hnone]
    exact if_neg hwritten

/-- What a lexer notes on an advance is the log of the one token it reads. -/
theorem Cursor.StandsIn.notes_eq_log {c next : Cursor} {s : Text} {l : Lexeme} {p : Position}
    (h : c.StandsIn s) (hadv : c.advance = .read l p next) (src : Source) :
    src.notes l p = src.log s [l.token p src.file] := by
  rw [Source.notes, Source.log, List.filterMap_cons, h.note?_token hadv, List.filterMap_nil]
  cases l.dropped? <;> rfl

/-! ### Operations lead along runs -/

/-- **A lexer leads to another one with some notes**: every run that ends in the first goes on to
the second, and the notes are those of the tokens on the way. -/
def Lexer.Leads (src : Source) (s : Text) (l l' : Lexer) (notes : List Note) : Prop :=
  ∀ ts, Lexer.Run src s ts l → ∃ more, Lexer.Run src s (ts ++ more) l' ∧ notes = src.log s more

namespace Lexer

variable {src : Source} {s : Text} {l l' l'' : Lexer} {notes notes' : List Note}

/-- A lexer that stays makes no note. -/
theorem Leads.refl (l : Lexer) : Leads src s l l [] := by
  intro ts hrun
  refine ⟨[], ?_, src.log_nil s |>.symm⟩
  rw [List.append_nil]
  exact hrun

/-- Notes are made in the order of the tokens. -/
theorem Leads.trans (h : Leads src s l l' notes) (h' : Leads src s l' l'' notes') :
    Leads src s l l'' (notes ++ notes') := by
  intro ts hrun
  obtain ⟨more, hmore, rfl⟩ := h ts hrun
  obtain ⟨more', hmore', rfl⟩ := h' _ hmore
  refine ⟨more ++ more', ?_, (src.log_append s more more').symm⟩
  rw [← List.append_assoc]
  exact hmore'

/-- **A pop makes the note of the token that it produces**, and none if it fails. -/
theorem leads_pop (l : Lexer) : Leads src s l l.pop.lexer l.pop.notes := by
  intro ts hrun
  obtain ⟨hsrc, -, hcur⟩ := hrun.cursor
  cases hadv : l.cursor.advance with
  | read lexeme p next =>
    -- the cursor stands in the script, so the character behind the name can be looked up there
    have hpop := pop_of_read hadv
    have hrun' := hrun.popped (congrArg Move.fault hpop)
    rw [hpop] at hrun' ⊢
    refine ⟨_, hrun', ?_⟩
    rw [hsrc]
    exact hcur.standsIn.notes_eq_log hadv src
  | stuck e c =>
    -- nothing was read, so the run goes on without a token
    have hpop := pop_of_stuck hadv
    have hrun' := hrun.failed (congrArg Move.fault hpop)
    rw [hpop] at hrun' ⊢
    exact ⟨[], by rw [List.append_nil]; exact hrun', src.log_nil s |>.symm⟩

/-! Every other operation is pops in a row, and stops at the first that fails or at the end. -/

/-- Pops in a row make the notes of all the tokens they produce. -/
theorem leads_popMany (n : Nat) (l : Lexer) :
    Leads src s l (l.popMany n).lexer (l.popMany n).notes := by
  induction n generalizing l with
  | zero => exact .refl l
  | succ n ih =>
    cases hf : l.pop.fault with
    | some f =>
      rw [popMany_succ_of_fault hf]
      exact leads_pop l
    | none =>
      rw [popMany_succ_of_ok hf]
      exact (leads_pop l).trans (ih l.pop.lexer)

/-- Each token that is taken is popped, and this makes the note of the one behind it. -/
theorem leads_take (n : Nat) (l : Lexer) : Leads src s l (l.take n).lexer (l.take n).notes := by
  induction n generalizing l with
  | zero => exact .refl l
  | succ n ih =>
    rw [take]
    split
    · -- the end is the front, and is not popped
      exact .refl l
    · split
      · exact leads_pop l
      · exact (leads_pop l).trans (ih l.pop.lexer)

/-- Draining makes the notes of all tokens up to the end or the fault. -/
theorem leads_drain (l : Lexer) : Leads src s l l.drain.lexer l.drain.notes := by
  fun_induction drain l with
  | case1 l he => exact .refl l
  | case2 l he f hf => exact leads_pop l
  | case3 l he hf ih => exact (leads_pop l).trans ih

/-- Tokenizing does the same. -/
theorem leads_tokenize (l : Lexer) : Leads src s l l.tokenize.lexer l.tokenize.notes := by
  fun_induction tokenize l with
  | case1 l he => exact .refl l
  | case2 l he f hf => exact leads_pop l
  | case3 l he hf ih => exact (leads_pop l).trans ih

theorem leads_next (l : Lexer) : Leads src s l l.next.lexer l.next.notes := by
  rw [next]
  split
  · exact .refl l
  · split <;> exact leads_pop l

/-- A reader that has served a token pops the lexer once, unless that token was the end. -/
theorem leads_reader (r : Reader) (l : Lexer) :
    Leads src s l (r.next l).2.lexer (r.next l).2.notes := by
  cases r with
  | fresh | finished => exact .refl l
  | behind last =>
    rw [Reader.next]
    split
    · exact .refl l
    · split <;> exact leads_pop l

/-- No note is due for the first token. -/
theorem log_of_ofText (h : Lexer.ofText src s = .ok l) : src.log s [l.front] = [] := by
  obtain ⟨lexeme, p, next, hadv, rfl⟩ := ofText_eq_ok_iff.mp h
  obtain ⟨-, -, hreads⟩ := Cursor.advance_eq_read_iff.mp hadv
  have hnone : (lexeme.token p src.file).note? s = none :=
    Token.note?_of_kind_ne hreads.kind_of_topLevel s
  rw [Source.log, List.filterMap_cons_none hnone, List.filterMap_nil, ite_self]

end Lexer

end Dialogue
