import Dialogue.Proofs.Runs
import Dialogue.Script

/-!
# The words of a script

A word is a token without its place: a kind and a value. Which words a script has does not depend on
the file it came from, on the settings or on where a word stands, and here it is freed from all
three. `Mode.Yields m t ws` says of a mode and a bare text that reading on to the end gives the
words `ws`; it is built from the rules of reading, one rule and the layout before it at a time.

Tokenizing a text under any settings succeeds with tokens of the words `ws` exactly when the text
yields `ws` outside of calls (`Config.tokenize_ok_iff_yields`).
-/

namespace Dialogue

/-- **A word**: a token without its place. -/
abbrev Word := Kind × Text

/-- The word of a lexeme. -/
def Lexeme.word (l : Lexeme) : Word :=
  (l.kind, l.value)

/-- The word of a token. -/
def Token.word (t : Token) : Word :=
  (t.kind, t.value)

@[simp] theorem Lexeme.word_token (l : Lexeme) (p : Position) (file : Option String) :
    (l.token p file).word = l.word := rfl

/-- **Reading on to the end**: the words that a text gives from a mode on. -/
inductive Mode.Yields : Mode → Text → List Word → Prop
  /-- The end of the script is read. -/
  | last {m : Mode} {g t : Text} {r : Reading} : (∀ c ∈ g, m.isLayout c = true) → m.Reads t r →
      r.lexeme.kind = .eof → Yields m (g ++ t) [r.lexeme.word]
  /-- A word is read, and others behind it. -/
  | more {m : Mode} {g t : Text} {r : Reading} {ws : List Word} :
      (∀ c ∈ g, m.isLayout c = true) → m.Reads t r → r.lexeme.kind ≠ .eof →
      Yields r.mode r.rest ws → Yields m (g ++ t) (r.lexeme.word :: ws)

/-! ### One advance of a text that yields words -/

namespace Cursor

theorem advance_of_reads {m : Mode} {g t : Text} {r : Reading}
    (hg : ∀ d ∈ g, m.isLayout d = true) (h : m.Reads t r) (p : Position) :
    (⟨p, g ++ t, m⟩ : Cursor).advance = .read r.lexeme (p.after g)
      ⟨(p.after g).after r.lexeme.consumed, r.rest, r.mode⟩ := by
  -- a text that a rule applies to starts with no layout, so the layout is `g` and no more
  have hlayout : (⟨p, g ++ t, m⟩ : Cursor).layout = g := Text.takeWhile_run hg h.settled
  have hrest : (⟨p, g ++ t, m⟩ : Cursor).settle.rest = t := Text.dropWhile_run hg h.settled
  have hplace : (⟨p, g ++ t, m⟩ : Cursor).settle.place = p.after g := by
    rw [settle, hlayout]
  refine advance_eq_read_iff.mpr ⟨hplace.symm, rfl, ?_⟩
  rw [hrest]
  exact h

end Cursor

/-- **The words of a lexer**: the front, and unless it is the end the words of the text behind. -/
def Lexer.Yields (l : Lexer) (ws : List Word) : Prop :=
  (l.isEmpty = true ∧ ws = [l.front.word]) ∨
    (l.isEmpty = false ∧ ∃ ws', ws = l.front.word :: ws' ∧ l.cursor.mode.Yields l.cursor.rest ws')

theorem Lexeme.isEmpty_token (l : Lexeme) (src : Source) (p : Position) (next : Cursor) :
    (⟨src, next, l.token p src.file⟩ : Lexer).isEmpty = true ↔ l.kind = .eof := by
  rw [Lexer.isEmpty, Token.isEnd, kind_token, beq_iff_eq]

/-- **A text yields words exactly when an advance reads the first of them** and the lexer that has
it in front yields them all. -/
theorem Cursor.yields_iff (src : Source) (c : Cursor) (ws : List Word) :
    c.mode.Yields c.rest ws ↔ ∃ l p next, c.advance = .read l p next ∧
      (⟨src, next, l.token p src.file⟩ : Lexer).Yields ws := by
  refine ⟨?_, ?_⟩
  · intro h
    obtain ⟨place, rest, mode⟩ := c
    cases h with
    | last hg hr hk =>
      refine ⟨_, _, _, advance_of_reads hg hr place, .inl ⟨?_, rfl⟩⟩
      exact (Lexeme.isEmpty_token ..).mpr hk
    | more hg hr hk hws =>
      refine ⟨_, _, _, advance_of_reads hg hr place, .inr ⟨?_, _, rfl, hws⟩⟩
      exact Bool.eq_false_iff.mpr fun he => hk ((Lexeme.isEmpty_token ..).mp he)
  · rintro ⟨l, p, next, hadv, hcase⟩
    obtain ⟨-, -, hreads⟩ := advance_eq_read_iff.mp hadv
    -- the text is cut where the cursor settles
    have hg : ∀ d ∈ c.layout, c.mode.isLayout d = true := fun _ => isLayout_of_mem_layout
    rw [← c.layout_append_settle]
    rcases hcase with ⟨he, rfl⟩ | ⟨he, ws', rfl, hws⟩
    · exact .last hg hreads ((Lexeme.isEmpty_token ..).mp he)
    · refine .more hg hreads (fun hk => ?_) hws
      exact absurd ((Lexeme.isEmpty_token ..).mpr hk) (Bool.eq_false_iff.mp he)

/-! ### Tokenizing gives the words -/

theorem Delivery.result_cons_eq_ok_iff {d : Delivery} {t : Token} {notes : List Note}
    {ts : List Token} :
    (d.cons t notes).result = .ok ts ↔ ∃ ts', d.result = .ok ts' ∧ ts = t :: ts' := by
  rw [result, result, fault_cons]
  cases d.fault with
  | some f => simp
  | none => simp [eq_comm]

namespace Lexer

variable {l : Lexer} {ws : List Word}

/-- Before the end, a lexer that can be popped yields its front and what it yields then. -/
theorem yields_iff_of_pop (he : l.isEmpty = false) (hf : l.pop.fault = none) :
    l.Yields ws ↔ ∃ ws', ws = l.front.word :: ws' ∧ l.pop.lexer.Yields ws' := by
  cases hadv : l.cursor.advance with
  | stuck e c =>
    rw [pop_of_stuck hadv] at hf
    cases hf
  | read lexeme p next =>
    -- the words of the text behind the front are those of the lexer that was popped
    have hbehind : ∀ ws', l.cursor.mode.Yields l.cursor.rest ws' ↔ l.pop.lexer.Yields ws' := by
      intro ws'
      rw [Cursor.yields_iff l.source l.cursor, hadv, pop_of_read hadv]
      refine ⟨?_, ?_⟩
      · rintro ⟨_, _, _, hread, hws⟩
        cases hread
        exact hws
      · intro hws
        exact ⟨_, _, _, rfl, hws⟩
    simp only [Yields, he, Bool.false_eq_true, false_and, true_and, false_or, hbehind]

theorem not_yields_of_fault {f : Fault} (he : l.isEmpty = false) (hf : l.pop.fault = some f) :
    ¬ l.Yields ws := by
  rintro (⟨he', -⟩ | ⟨-, ws', -, hws⟩)
  · rw [he] at he'
    cases he'
  · obtain ⟨lexeme, p, next, hadv, -⟩ := (Cursor.yields_iff l.source l.cursor ws').mp hws
    rw [pop_of_read hadv] at hf
    cases hf

/-- **Tokenizing a lexer gives tokens of exactly the words that it yields.** -/
theorem tokenize_ok_iff_yields (l : Lexer) (ws : List Word) :
    (∃ ts, l.tokenize.result = .ok ts ∧ ts.map Token.word = ws) ↔ l.Yields ws := by
  -- Along the recursion of `tokenize`: at the end, stuck, or one pop further.
  fun_induction tokenize l generalizing ws with
  | case1 l he =>
    simp [Delivery.result, Yields, he, eq_comm]
  | case2 l he f hf =>
    have hyields : ¬ l.Yields ws := not_yields_of_fault (Bool.eq_false_iff.mpr he) hf
    simp [Delivery.result, hyields]
  | case3 l he hf ih =>
    rw [yields_iff_of_pop (Bool.eq_false_iff.mpr he) hf]
    refine ⟨?_, ?_⟩
    · rintro ⟨ts, hts, rfl⟩
      obtain ⟨ts', hts', rfl⟩ := Delivery.result_cons_eq_ok_iff.mp hts
      exact ⟨_, List.map_cons, (ih _).mp ⟨ts', hts', rfl⟩⟩
    · rintro ⟨ws', rfl, hws⟩
      obtain ⟨ts', hts', rfl⟩ := (ih _).mpr hws
      exact ⟨_, Delivery.result_cons_eq_ok_iff.mpr ⟨ts', hts', rfl⟩, List.map_cons⟩

end Lexer

/-- **Tokenizing a text gives tokens of exactly the words that it yields**, whatever the settings
and the file. -/
theorem Config.tokenize_ok_iff_yields (c : Config) (s : Text) (file : Option String)
    (ws : List Word) :
    (∃ ts, (c.tokenize s file).1 = .ok ts ∧ ts.map Token.word = ws) ↔
      Mode.topLevel.Yields s ws := by
  have hopen := Cursor.yields_iff (c.source file) (Cursor.ofText s) ws
  change Mode.topLevel.Yields s ws ↔ _ at hopen
  rw [hopen, Config.tokenize, openText]
  cases hl : Lexer.ofText (c.source file) s with
  | error f =>
    -- the first advance is stuck, so neither side has any words
    obtain ⟨e, cur, hadv, -⟩ := Lexer.ofText_eq_error_iff.mp hl
    simp [hadv]
  | ok l =>
    obtain ⟨lexeme, p, next, hadv, rfl⟩ := Lexer.ofText_eq_ok_iff.mp hl
    rw [Lexer.tokenize_ok_iff_yields, hadv]
    refine ⟨?_, ?_⟩
    · intro hws
      exact ⟨_, _, _, rfl, hws⟩
    · rintro ⟨_, _, _, hread, hws⟩
      cases hread
      exact hws

end Dialogue
