import Dialogue.Proofs.Accounting
import Dialogue.Proofs.Faults
import Dialogue.Proofs.Patterns

/-!
# The protocol of tokens

Whoever consumes the tokens of a script one by one relies on the order in which they come. This
module states the order and shows that every run keeps it (`protocol_kept`), however many pops
failed and wherever the run stops.

* The front alone tells what may come next (`Lexer.FrontTellsMode`).
* The kinds so far are the start of a match of `Kind.streamPattern`. The invariant is that they can
  be completed by *everything* that the mode has ahead (`Cursor.Run.append_mem`). One token goes
  over from what is ahead to what has come, and the match stays the same.
* A parenthesis is synthetic exactly if its partner is, and then there is nothing between the two
  (`Paired`). What carries this is the state of the call that is still open (`Mode.Opened`): behind
  a synthetic parenthesis nothing but its partner can come.
* Nothing but parentheses is ever synthetic.
-/

namespace Dialogue

/-! ### The parts of the protocol -/

/-- **The front of a lexer tells its mode**, and each mode stands for certain fronts. -/
structure Lexer.FrontTellsMode (l : Lexer) : Prop where
  /-- Behind a name, and only there, an opening parenthesis is due. -/
  afterName : l.cursor.mode = .afterName ↔ l.front.kind = .name
  /-- Behind a parenthesis that the script writes and behind a comma, a parameter is due. -/
  inList : l.cursor.mode = .inList ↔
    l.front.kind = .opening ∧ l.front.isSynthetic = false ∨ l.front.kind = .separator
  /-- Behind a synthetic parenthesis, its partner is due. -/
  impliedClose : l.cursor.mode = .impliedClose ↔
    l.front.kind = .opening ∧ l.front.isSynthetic = true
  /-- Behind a parameter, a comma or the closing parenthesis is due. -/
  afterParam : l.cursor.mode = .afterParam ↔ l.front.kind = .param
  /-- Behind all other tokens, reading is outside of calls. -/
  topLevel : l.cursor.mode = .topLevel ↔
    l.front.kind ∈ [Kind.text, .comment, .label, .closing, .eof]

/-- **Parentheses are paired**: an opening one is synthetic exactly if the closing one that comes
next is, and then nothing is between them. -/
def Paired (ts : List Token) : Prop :=
  ∀ us o vs c ws, ts = us ++ o :: (vs ++ c :: ws) → o.kind = .opening → c.kind = .closing →
    (∀ t ∈ vs, t.kind ≠ .closing) →
    (o.isSynthetic = true ↔ c.isSynthetic = true) ∧ (o.isSynthetic = true → vs = [])

/-- A token that may be synthetic: a parenthesis of a call. -/
def Token.IsParenthesis (t : Token) : Prop :=
  t.kind = .opening ∧ t.value = ['('] ∨ t.kind = .closing ∧ t.value = [')']

/-! ### One rule at a time -/

namespace Mode

variable {m : Mode} {t : Text} {r : Reading}

/-- Whatever is implied is a parenthesis. -/
theorem Reads.isParenthesis (h : m.Reads t r) (himp : r.lexeme.implied = true) (p : Position)
    (file : Option String) : (r.lexeme.token p file).IsParenthesis := by
  cases h with
  | impliedOpening | lastOpening => exact .inl ⟨rfl, rfl⟩
  | impliedClosing => exact .inr ⟨rfl, rfl⟩
  | eof | label | name | comment | lastComment | text | opening | param | emptyClosing | separator
  | closing => cases himp

/-- **The state of an open call**: its opening parenthesis `o` and the tokens behind it. A synthetic
parenthesis has nothing behind it yet. -/
def Opened (m : Mode) (o : Token) (vs : List Token) : Prop :=
  o.isSynthetic = true ∧ vs = [] ∧ m = .impliedClose ∨
    o.isSynthetic = false ∧ (m = .inList ∨ m = .afterParam)

/-- A call is opened. -/
theorem Reads.opened (h : m.Reads t r) (hk : r.lexeme.kind = .opening) (p : Position)
    (file : Option String) : r.mode.Opened (r.lexeme.token p file) [] := by
  rw [Opened, h.isSynthetic_token]
  cases h with
  | opening => exact .inr ⟨rfl, .inl rfl⟩
  | impliedOpening | lastOpening => exact .inl ⟨rfl, rfl, rfl⟩
  | eof | label | name | comment | lastComment | text | impliedClosing | param | emptyClosing
  | separator | closing => cases hk

/-- A call that is not closed stays open, and its parenthesis is one that the script writes. -/
theorem Opened.read {o : Token} {vs : List Token} (ho : m.Opened o vs) (h : m.Reads t r)
    (hk : r.lexeme.kind ≠ .closing) (v : Token) : r.mode.Opened o (vs ++ [v]) := by
  rcases ho with ⟨-, -, rfl⟩ | ⟨hsyn, rfl | rfl⟩
  · cases h with
    | impliedClosing => exact absurd rfl hk
  · cases h with
    | param => exact .inr ⟨hsyn, .inr rfl⟩
    | emptyClosing => exact absurd rfl hk
  · cases h with
    | separator => exact .inr ⟨hsyn, .inl rfl⟩
    | closing => exact absurd rfl hk

/-- A call is closed by a parenthesis that is synthetic exactly if the opening one is. -/
theorem Opened.closed {o : Token} {vs : List Token} (ho : m.Opened o vs) (h : m.Reads t r)
    (p : Position) (file : Option String) :
    (o.isSynthetic = true ↔ (r.lexeme.token p file).isSynthetic = true) ∧
      (o.isSynthetic = true → vs = []) := by
  rw [h.isSynthetic_token]
  rcases ho with ⟨hsyn, hvs, rfl⟩ | ⟨hsyn, rfl | rfl⟩
  · cases h with
    | impliedClosing => exact ⟨iff_of_true hsyn rfl, fun _ => hvs⟩
  -- a call that the script writes is closed by a parenthesis that it writes
  · refine ⟨?_, by simp [hsyn]⟩
    cases h <;> simp [hsyn]
  · refine ⟨?_, by simp [hsyn]⟩
    cases h <;> simp [hsyn]

end Mode

/-! ### Along a run -/

namespace Cursor

variable {file : Option String} {s : Text} {ts : List Token} {c : Cursor}

/-- What may still come at a cursor, as a pattern: what its mode has ahead or, behind the end, the
end again. -/
def ahead (ts : List Token) (c : Cursor) : RegularExpression Kind :=
  if ∃ t ∈ ts.getLast?, t.kind = .eof then (RegularExpression.char Kind.eof).star
  else c.mode.ahead (.char .eof * (RegularExpression.char Kind.eof).star)

/-- Behind the end, only the end is read. -/
theorem Run.kind_of_eof (h : Run file s ts c) {l : Lexeme} {p : Position} {next : Cursor}
    (hadv : c.advance = .read l p next) (hlast : ∃ t ∈ ts.getLast?, t.kind = .eof) :
    l.kind = .eof := by
  obtain ⟨t, ht, hk⟩ := hlast
  obtain ⟨-, -, hreads⟩ := advance_eq_read_iff.mp hadv
  have hmode : c.mode = .topLevel := by
    rw [h.mode_eq, Option.mem_def.mp ht, Option.elim_some, Mode.behind_eq_iff, hk]
    simp
  have hrest : c.settle.rest = [] := by rw [settle, h.rest_of_eof ht hk]; rfl
  rw [hmode, hrest] at hreads
  exact (congrArg (·.lexeme.kind) (Except.ok.inj hreads.read_eq)).symm

/-- **Along every run, the kinds so far are completed by everything that is ahead.** -/
theorem Run.append_mem (h : Run file s ts c) :
    ∀ w ∈ (c.ahead ts).matches', ts.map Token.kind ++ w ∈ Kind.streamPattern.matches' := by
  induction h with
  | start => exact fun w hw => hw
  | @read ts c next l p hrun hadv ih =>
    obtain ⟨-, -, hreads⟩ := advance_eq_read_iff.mp hadv
    intro w hw
    -- the token goes over from what was ahead to what has come
    rw [List.map_append, List.append_assoc]
    refine ih (l.kind :: w) ?_
    rw [ahead, List.getLast?_concat] at hw
    by_cases hk : l.kind = .eof
    · rw [if_pos ⟨_, rfl, hk⟩] at hw
      rw [ahead, hk]
      split
      · -- the end once more
        exact append_mem_star rfl hw
      · -- the end for the first time, which is outside of calls
        rw [(hreads.of_eof hk).1]
        exact mem_star_mul_of_mem (cons_mem_char_mul.mpr hw)
    · have hbefore : ¬ ∃ t ∈ ts.getLast?, t.kind = .eof := mt (hrun.kind_of_eof hadv) hk
      rw [if_neg (by simpa using hk)] at hw
      rw [ahead, if_neg hbefore]
      exact hreads.cons_mem_ahead hk hw
  | stuck _ hadv ih =>
    obtain ⟨rfl, -⟩ := advance_eq_stuck_iff.mp hadv
    exact ih

/-- **Along every run, the kinds so far are the start of a match.** -/
theorem Run.kinds_isPrefix (h : Run file s ts c) :
    ∃ w ∈ Kind.streamPattern.matches', ts.map Token.kind <+: w := by
  obtain ⟨v, hv⟩ : ∃ v, v ∈ (c.ahead ts).matches' := by
    rw [ahead]
    split
    · exact ⟨[], Language.nil_mem_kstar _⟩
    · exact c.mode.exists_mem_ahead (cons_mem_char_mul.mpr (Language.nil_mem_kstar _))
  exact ⟨_, h.append_mem v hv, List.prefix_append _ _⟩

/-- **Along every run, a call without a closing parenthesis is open** in the mode of the cursor. -/
theorem Run.opened (h : Run file s ts c) {us : List Token} {o : Token} {vs : List Token}
    (hts : ts = us ++ o :: vs) (hk : o.kind = .opening) (hvs : ∀ t ∈ vs, t.kind ≠ .closing) :
    c.mode.Opened o vs := by
  induction h generalizing vs with
  | start => simp at hts
  | @read ts c next l p _ hadv ih =>
    obtain ⟨-, -, hreads⟩ := advance_eq_read_iff.mp hadv
    rcases eq_append_cons_of_concat hts with ⟨-, rfl, rfl⟩ | ⟨ws, rfl, hcut⟩
    · exact hreads.opened hk p file
    · have hopen := ih hcut fun t ht => hvs t (List.mem_append_left _ ht)
      exact hopen.read hreads (hvs _ (List.mem_append_right _ List.mem_cons_self)) _
  | stuck _ hadv ih =>
    obtain ⟨rfl, -⟩ := advance_eq_stuck_iff.mp hadv
    exact ih hts hvs

/-- **Along every run, parentheses are paired.** -/
theorem Run.paired (h : Run file s ts c) : Paired ts := by
  induction h with
  | start => exact fun us o vs c ws hts => by simp at hts
  | @read ts c next l p hrun hadv ih =>
    obtain ⟨-, -, hreads⟩ := advance_eq_read_iff.mp hadv
    intro us o vs d ws hts ho hd hvs
    rw [← List.cons_append, ← List.append_assoc] at hts
    rcases eq_append_cons_of_concat hts with ⟨hcut, rfl, -⟩ | ⟨ws', -, hcut⟩
    · -- the new token closes a call that was open
      exact (hrun.opened hcut.symm ho hvs).closed hreads p file
    · rw [List.append_assoc, List.cons_append] at hcut
      exact ih us o vs d ws' hcut ho hd hvs
  | stuck _ _ ih => exact ih

/-- **Along every run, only parentheses are synthetic.** -/
theorem Run.isParenthesis (h : Run file s ts c) :
    ∀ t ∈ ts, t.isSynthetic = true → t.IsParenthesis := by
  induction h with
  | start => exact fun t ht => absurd ht List.not_mem_nil
  | @read ts c next l p _ hadv ih =>
    obtain ⟨-, -, hreads⟩ := advance_eq_read_iff.mp hadv
    intro t ht hsyn
    rcases List.mem_append.mp ht with ht | ht
    · exact ih t ht hsyn
    · obtain rfl := List.mem_singleton.mp ht
      rw [hreads.isSynthetic_token] at hsyn
      exact hreads.isParenthesis hsyn p file
  | stuck _ _ ih => exact ih

end Cursor

/-- **Along every run, the front tells the mode.** -/
theorem Lexer.Run.frontTellsMode {src : Source} {s : Text} {ts : List Token} {l : Lexer}
    (h : Lexer.Run src s ts l) : l.FrontTellsMode := by
  obtain ⟨-, hlast, hcur⟩ := h.cursor
  have hmode : l.cursor.mode = Mode.behind l.front := by
    rw [hcur.mode_eq, hlast, Option.elim_some]
  constructor <;> rw [hmode, Mode.behind_eq_iff]

/-- **Every run keeps the protocol.** At the end of every run of a lexer on a script, no matter how
many pops failed, the front tells the mode; the kinds of the tokens so far are the start of a match
of items and ends; parentheses are paired; and nothing but parentheses is synthetic. -/
theorem protocol_kept (src : Source) (s : Text) (ts : List Token) (l : Lexer)
    (h : Lexer.Run src s ts l) :
    l.FrontTellsMode ∧
      (∃ w ∈ Kind.streamPattern.matches', ts.map Token.kind <+: w) ∧
      Paired ts ∧
      ∀ t ∈ ts, t.isSynthetic = true → t.IsParenthesis := by
  obtain ⟨-, -, hcur⟩ := h.cursor
  exact ⟨h.frontTellsMode, hcur.kinds_isPrefix, hcur.paired, hcur.isParenthesis⟩

/-- A run that stops in the middle of a call, behind a call without parentheses and in front of the
end of the script. -/
theorem protocol_kept_open_call :
    ∃ ts l, Lexer.Run ⟨none, true⟩ ['@', ' ', '@', 'f', '(', 'x'] ts l ∧
      l.pop.fault ≠ none ∧ l.cursor.mode = .afterParam ∧
      ts.map Token.kind = [.name, .opening, .closing, .name, .opening, .param] ∧
      (∃ w ∈ Kind.streamPattern.matches', ts.map Token.kind <+: w) ∧ Paired ts := by
  have hopen : Lexer.ofText ⟨none, true⟩ ['@', ' ', '@', 'f', '(', 'x'] =
      .ok ⟨⟨none, true⟩, ⟨⟨1, 1, 2⟩, [' ', '@', 'f', '(', 'x'], .afterName⟩,
        ⟨.name, [], .ofSpan ⟨1, 1, 2⟩ 0 none⟩⟩ := rfl
  have hcall := ((Lexer.Run.opened hopen).popped rfl).popped rfl
  have hrun := ((hcall.popped rfl).popped rfl).popped rfl
  obtain ⟨-, hkinds, hpaired, -⟩ := protocol_kept _ _ _ _ hrun
  exact ⟨_, _, hrun, by decide, rfl, rfl, hkinds, hpaired⟩

end Dialogue
