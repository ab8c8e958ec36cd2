import Dialogue.Proofs.Course
import Dialogue.Proofs.Grammar

/-!
# How many tokens a script has

Reading a script comes to an end, and this module says when. A script of `n` characters has at most
`3 * (n + 1) / 2` tokens before the end or the first fault, and for every `n` but zero there is a
script that has as many (`reading_ends`).

The length of what is left does not tell how many tokens may come: the two parentheses of a call
that is written without them consume nothing, or one character between them. What does tell is the
*allowance* of a mode (`Mode.allowance`), in which a token costs two. It comes to three for each
character that is left and a little more, and inside of a call it includes what the call still owes;
but where nothing is left outside of calls there is no allowance either. This last point is what
makes the bound exact: the call mark at the very end of a script has three tokens to itself, and all
others share theirs with the character that is dropped behind them.

Passing over layout outside of calls is done in turns: the blanks, then one parenthesis, and again.
The turns come to an end too, and where they end is where a cursor settles
(`Layout.turns_dropWhile`).
-/

namespace Dialogue

/-! ### Turns over layout -/

namespace Layout

/-- **One turn over the layout outside of calls**: the blanks are passed over, and if there is a
parenthesis behind them, so is that, and there is another turn. -/
def turn (t : Text) : Option Text :=
  match t.dropWhile isBlank with
  | [] => none
  | c :: r => if isParen c then some r else none

/-- **Turn after turn**, so many of them until there is no other. -/
inductive Turns : Nat → Text → Text → Prop
  /-- There is no parenthesis behind the blanks. -/
  | stop {t : Text} : turn t = none → Turns 0 t (t.dropWhile isBlank)
  /-- There is one, and what comes behind it is passed over likewise. -/
  | again {n : Nat} {t r u : Text} : turn t = some r → Turns n r u → Turns (n + 1) t u

/-- Blanks are layout, so all layout can be passed over from behind the blanks. -/
theorem dropWhile_blanks (t : Text) : t.dropWhile Mode.topLevel.isLayout =
    (t.dropWhile isBlank).dropWhile Mode.topLevel.isLayout := by
  have hblank : ∀ c ∈ t.takeWhile isBlank, Mode.topLevel.isLayout c = true := by
    intro c hc
    simp [Mode.isLayout, Text.of_mem_takeWhile hc]
  calc t.dropWhile Mode.topLevel.isLayout
      = (t.takeWhile isBlank ++ t.dropWhile isBlank).dropWhile Mode.topLevel.isLayout := by
        rw [List.takeWhile_append_dropWhile]
    _ = (t.dropWhile isBlank).dropWhile Mode.topLevel.isLayout :=
        List.dropWhile_append_of_pos hblank

/-- The last turn passes over blanks only, and then no layout is left. -/
theorem dropWhile_of_turn_eq_none {t : Text} (h : turn t = none) :
    t.dropWhile isBlank = t.dropWhile Mode.topLevel.isLayout := by
  rw [dropWhile_blanks]
  cases hb : t.dropWhile isBlank with
  | nil => rfl
  | cons c r =>
    have hparen : isParen c = false := by simpa [turn, hb] using h
    have hlayout : ¬ Mode.topLevel.isLayout c = true := by
      simp [Mode.isLayout, hparen, Text.dropWhile_head hb]
    rw [List.dropWhile_cons_of_neg hlayout]

/-- Every other turn takes a parenthesis away, which is layout too, and so shortens the text. -/
theorem dropWhile_of_turn_eq_some {t r : Text} (h : turn t = some r) :
    t.dropWhile Mode.topLevel.isLayout = r.dropWhile Mode.topLevel.isLayout ∧
      r.length < t.length := by
  rw [dropWhile_blanks]
  have hlen := Text.length_dropWhile_le isBlank t
  cases hb : t.dropWhile isBlank with
  | nil => simp [turn, hb] at h
  | cons c u =>
    obtain ⟨hparen, rfl⟩ : isParen c = true ∧ u = r := by simpa [turn, hb] using h
    rw [hb, List.length_cons] at hlen
    exact ⟨List.dropWhile_cons_of_pos (by simp [Mode.isLayout, hparen]), hlen⟩

/-- **The turns come to an end**, after no more of them than there are characters, and with all
layout passed over. -/
theorem turns_dropWhile (t : Text) :
    ∃ n ≤ t.length, Turns n t (t.dropWhile Mode.topLevel.isLayout) := by
  -- each turn leaves a shorter text
  induction hlen : t.length using Nat.strongRecOn generalizing t with
  | ind len ih =>
    cases h : turn t with
    | none =>
      refine ⟨0, Nat.zero_le _, ?_⟩
      rw [← dropWhile_of_turn_eq_none h]
      exact .stop h
    | some r =>
      obtain ⟨hrest, hlt⟩ := dropWhile_of_turn_eq_some h
      obtain ⟨n, hn, hturns⟩ := ih r.length (hlen ▸ hlt) r rfl
      refine ⟨n + 1, by omega, ?_⟩
      rw [hrest]
      exact .again h hturns

end Layout

/-! ### The allowance -/

/-- **The allowance of a mode** before so many characters: what the tokens that may still come can
cost, at two each. -/
def Mode.allowance : Mode → Nat → Nat
  | topLevel, n => if n = 0 then 0 else 3 * n + 3
  | afterName, n => 3 * n + 4
  | impliedClose, n => if n = 0 then 2 else 3 * n + 5
  | inList, n | afterParam, n => 3 * n + 3

namespace Mode

variable {m : Mode} {t : Text} {r : Reading}

theorem allowance_mono (m : Mode) {n k : Nat} (h : n ≤ k) : m.allowance n ≤ m.allowance k := by
  cases m <;> grind [allowance]

/-- **Every rule of reading pays for its token**, except for the end. -/
theorem Reads.allowance_lt (h : m.Reads t r) (hk : r.lexeme.kind ≠ .eof) :
    r.mode.allowance r.rest.length + 2 ≤ m.allowance t.length := by
  cases h with
  | eof => exact absurd rfl hk
  | @label v r hv | @param v r hv =>
    -- the word has a character, which is worth three
    have := List.length_pos_iff.mpr hv
    grind [allowance]
  | name | comment | lastComment | text | opening | impliedOpening | lastOpening | impliedClosing
  | emptyClosing | separator | closing =>
    -- a mark is worth three as well; a parenthesis that is supplied is paid by what the call owes
    grind [allowance]

end Mode

/-- The allowance of a cursor. -/
def Cursor.allowance (c : Cursor) : Nat :=
  c.mode.allowance c.rest.length

namespace Cursor

variable {file : Option String} {s : Text} {ts : List Token} {c next : Cursor} {l : Lexeme}
  {p : Position}

/-- Passing over layout costs nothing. -/
theorem allowance_settle_le (c : Cursor) : c.settle.allowance ≤ c.allowance :=
  c.mode.allowance_mono (Text.length_dropWhile_le _ _)

/-- An advance pays for its token, unless that is the end. -/
theorem allowance_of_read (h : c.advance = .read l p next) (hk : l.kind ≠ .eof) :
    next.allowance + 2 ≤ c.allowance := by
  obtain ⟨-, -, hreads⟩ := advance_eq_read_iff.mp h
  exact Nat.le_trans (hreads.allowance_lt hk) c.allowance_settle_le

/-- Behind the end there is no allowance. -/
theorem allowance_of_eof (h : c.advance = .read l p next) (hk : l.kind = .eof) :
    next.allowance = 0 := by
  obtain ⟨-, -, hreads⟩ := advance_eq_read_iff.mp h
  obtain ⟨place, rest, mode⟩ := next
  obtain ⟨-, -, heq⟩ := hreads.of_eof hk
  cases heq
  rfl

/-- At the start of a script the allowance is at most twice the bound. -/
theorem allowance_ofText_le (s : Text) : (Cursor.ofText s).allowance ≤ 3 * (s.length + 1) := by
  change Mode.topLevel.allowance s.length ≤ _
  grind [Mode.allowance]

end Cursor

/-! ### What the tokens of a run cost -/

/-- The number of tokens other than the end. -/
def properCount (ts : List Token) : Nat :=
  ts.countP fun t => !t.isEnd

@[simp] theorem properCount_nil : properCount [] = 0 := rfl

theorem properCount_cons_of_isEnd {t : Token} (h : t.isEnd = true) (ts : List Token) :
    properCount (t :: ts) = properCount ts :=
  List.countP_cons_of_neg (by simp [h])

theorem properCount_cons_of_not_isEnd {t : Token} (h : ¬ t.isEnd = true) (ts : List Token) :
    properCount (t :: ts) = properCount ts + 1 :=
  List.countP_cons_of_pos (by simpa using h)

theorem properCount_append (ts us : List Token) :
    properCount (ts ++ us) = properCount ts + properCount us :=
  List.countP_append

/-- **Along every run, the tokens have cost no more than the allowance has shrunk.** -/
theorem Cursor.Run.allowance_le {file : Option String} {s : Text} {ts : List Token} {c : Cursor}
    (h : Run file s ts c) :
    2 * properCount ts + c.allowance ≤ (Cursor.ofText s).allowance := by
  induction h with
  | start => exact Nat.le_of_eq (Nat.zero_add _)
  | @read ts c next l p _ hadv ih =>
    rw [properCount_append]
    by_cases hk : l.kind = .eof
    · -- the end does not count, and behind it the allowance is used up
      have hend : (l.token p file).isEnd = true := beq_iff_eq.mpr hk
      rw [properCount_cons_of_isEnd hend, allowance_of_eof hadv hk, properCount_nil]
      omega
    · have hend : ¬ (l.token p file).isEnd = true := mt beq_iff_eq.mp hk
      have := allowance_of_read hadv hk
      rw [properCount_cons_of_not_isEnd hend, properCount_nil]
      omega
  | @stuck ts c c' e _ hadv ih =>
    -- no token, but the layout is passed over
    obtain ⟨rfl, -⟩ := advance_eq_stuck_iff.mp hadv
    have := c.allowance_settle_le
    omega

/-! ### Where popping ends -/

/-- The allowance of a lexer: its front is still to be paid for, unless it is the end. -/
def Lexer.allowance (l : Lexer) : Nat :=
  if l.isEmpty then 0 else l.cursor.allowance + 2

/-- **A delivery has ended**: with a fault, or at the end of the script. -/
def Delivery.Ended (d : Delivery) : Prop :=
  d.fault ≠ none ∨ d.lexer.isEmpty = true

namespace Lexer

variable {src : Source} {s : Text} {l : Lexer} {f : Fault}

/-- A lexer that has just read its front has no more allowance than the cursor had before it. -/
theorem allowance_of_read {c next : Cursor} {lexeme : Lexeme} {p : Position}
    (h : c.advance = .read lexeme p next) (src : Source) :
    (⟨src, next, lexeme.token p src.file⟩ : Lexer).allowance ≤ c.allowance := by
  rw [allowance]
  split
  · exact Nat.zero_le _
  · next he => exact Cursor.allowance_of_read h fun hk => he ((lexeme.isEmpty_token ..).mpr hk)

/-- **Every pop that succeeds pays for the front that it takes away.** -/
theorem allowance_pop (he : ¬ l.isEmpty = true) (hf : l.pop.fault = none) :
    l.pop.lexer.allowance + 2 ≤ l.allowance := by
  cases hadv : l.cursor.advance with
  | stuck e c =>
    rw [pop_of_stuck hadv] at hf
    cases hf
  | read lexeme p next =>
    rw [pop_of_read hadv, allowance.eq_def l, if_neg he]
    exact Nat.add_le_add_right (allowance_of_read hadv l.source) 2

theorem allowance_of_ofText (h : Lexer.ofText src s = .ok l) :
    l.allowance ≤ 3 * (s.length + 1) := by
  obtain ⟨lexeme, p, next, hadv, rfl⟩ := ofText_eq_ok_iff.mp h
  exact Nat.le_trans (allowance_of_read hadv src) (Cursor.allowance_ofText_le s)

/-- **Popping ends** within the allowance: some pop fails, or the end becomes the front. -/
theorem exists_popMany_ends (l : Lexer) :
    ∃ k, 2 * k ≤ l.allowance ∧
      ((l.popMany k).fault ≠ none ∨ (l.popMany k).lexer.isEmpty = true) := by
  -- along the recursion of `tokenize`, which pops as long as it can
  fun_induction tokenize l with
  | case1 l he => exact ⟨0, Nat.zero_le _, .inr he⟩
  | case2 l he f hf =>
    refine ⟨1, ?_, .inl ?_⟩
    · rw [allowance, if_neg he]
      omega
    · rw [popMany_succ_of_fault hf, hf]
      exact Option.some_ne_none f
  | case3 l he hf ih =>
    obtain ⟨k, hk, hends⟩ := ih
    have := allowance_pop he hf
    refine ⟨k + 1, by omega, ?_⟩
    rw [popMany_succ_of_ok hf]
    exact hends

/-- Tokenizing goes on until it has to end. -/
theorem ended_tokenize (l : Lexer) : l.tokenize.Ended := by
  fun_induction tokenize l with
  | case1 l he => exact .inr he
  | case2 l he f hf => exact .inl (Option.some_ne_none f)
  | case3 l he hf ih => exact ih

/-- What is tokenized is paid for from the allowance, the token before a fault included. -/
theorem properCount_tokenize (l : Lexer) : 2 * properCount l.tokenize.tokens ≤ l.allowance := by
  fun_induction tokenize l with
  | case1 l he =>
    rw [properCount_cons_of_isEnd he]
    exact Nat.zero_le _
  | case2 l he f hf =>
    rw [properCount_cons_of_not_isEnd he, properCount_nil, allowance, if_neg he]
    omega
  | case3 l he hf ih =>
    have := allowance_pop he hf
    rw [Delivery.tokens_cons, properCount_cons_of_not_isEnd he]
    omega

theorem ended_drain (l : Lexer) : l.drain.Ended := by
  fun_induction drain l with
  | case1 l he => exact .inr he
  | case2 l he f hf => exact .inl (Option.some_ne_none f)
  | case3 l he hf ih => exact ih

/-- Draining delivers no more: neither the end nor the token before a fault. -/
theorem length_drain (l : Lexer) : 2 * l.drain.tokens.length ≤ l.allowance := by
  fun_induction drain l with
  | case1 l he => exact Nat.zero_le _
  | case2 l he f hf => exact Nat.zero_le _
  | case3 l he hf ih =>
    have := allowance_pop he hf
    rw [Delivery.tokens_cons, List.length_cons]
    omega

end Lexer

/-! ### Scripts with as many tokens as there can be

Call marks and nothing else: of each two, the second is dropped. -/

/-- The words of so many calls without names and parentheses, and of the end. -/
def bareCalls : Nat → List Word
  | 0 => [(.eof, [])]
  | k + 1 => (.name, []) :: (.opening, ['(']) :: (.closing, [')']) :: bareCalls k

theorem countP_bareCalls (k : Nat) :
    (bareCalls k).countP (fun w => !(w.1 == .eof)) = 3 * k := by
  induction k with
  | zero => rfl
  | succ k ih =>
    rw [bareCalls, List.countP_cons_of_pos rfl, List.countP_cons_of_pos rfl,
      List.countP_cons_of_pos rfl, ih]
    omega

/-- An odd number of call marks is a script of bare calls; the last drops nothing. -/
theorem script_callMarks (k : Nat) :
    Script (List.replicate (2 * k + 1) '@') (bareCalls (k + 1)) := by
  have hempty : IsGap [] := List.forall_mem_nil _
  induction k with
  | zero => exact .lastCall (g := []) (n := []) hempty (List.forall_mem_nil _) (.eof hempty)
  | succ k ih =>
    exact .bareCall (g := []) (n := []) (c := '@') hempty (List.forall_mem_nil _) (by decide)
      (by decide) ih

theorem properCount_of_words {ts : List Token} {ws : List Word} (h : ts.map Token.word = ws) :
    properCount ts = ws.countP fun w => !(w.1 == .eof) := by
  rw [← h, List.countP_map]
  rfl

/-- A script is tokenized into as many tokens as it has words. -/
theorem Script.exists_tokens {s : Text} {ws : List Word} (h : Script s ws) (conf : Config)
    (file : Option String) :
    ∃ ts, (conf.tokenize s file).1 = .ok ts ∧
      properCount ts = ws.countP fun w => !(w.1 == .eof) := by
  obtain ⟨ts, hts, hwords⟩ := (conf.tokenize_ok_iff_yields s file ws).mpr h.yields
  exact ⟨ts, hts, properCount_of_words hwords⟩

/-! ### The bound -/

/-- **Reading ends, within a bound that is exact.** Passing over layout outside of calls ends after
finitely many turns. On a script of `n` characters, no run has more than `3 * (n + 1) / 2` tokens
other than the end; popping fails or gets to the end with no more pops than that; tokenizing and
draining do so too and deliver no more than that. The bound is met for every `n` but zero: by call
marks only if `n` is odd, and by a label character and then call marks if `n` is even. -/
theorem reading_ends (conf : Config) (file : Option String) :
    (∀ c : Cursor, c.mode = .topLevel → ∃ n ≤ c.rest.length, Layout.Turns n c.rest c.settle.rest) ∧
    (∀ s ts l, Lexer.Run (conf.source file) s ts l → properCount ts ≤ 3 * (s.length + 1) / 2) ∧
    (∀ s l, conf.openText s file = .ok l →
      (∃ k ≤ 3 * (s.length + 1) / 2,
        (l.popMany k).fault ≠ none ∨ (l.popMany k).lexer.isEmpty = true) ∧
      (l.tokenize.Ended ∧ properCount l.tokenize.tokens ≤ 3 * (s.length + 1) / 2) ∧
      (l.drain.Ended ∧ l.drain.tokens.length ≤ 3 * (s.length + 1) / 2)) ∧
    (∀ n, n % 2 = 1 → ∃ ts, (conf.tokenize (List.replicate n '@') file).1 = .ok ts ∧
      properCount ts = 3 * (n + 1) / 2) ∧
    (∀ n c, n % 2 = 0 → 0 < n → isLabel c = true →
      ∃ ts, (conf.tokenize (c :: List.replicate (n - 1) '@') file).1 = .ok ts ∧
        properCount ts = 3 * (n + 1) / 2) := by
  refine ⟨?_, ?_, ?_, ?_, ?_⟩
  · rintro ⟨place, rest, mode⟩ rfl
    exact Layout.turns_dropWhile rest
  · intro s ts l hrun
    have hcost := hrun.cursor.2.2.allowance_le
    have hbound := Cursor.allowance_ofText_le s
    omega
  · intro s l hl
    have hbound := Lexer.allowance_of_ofText hl
    refine ⟨?_, ⟨l.ended_tokenize, ?_⟩, ⟨l.ended_drain, ?_⟩⟩
    · obtain ⟨k, hk, hends⟩ := l.exists_popMany_ends
      exact ⟨k, by omega, hends⟩
    · have := l.properCount_tokenize
      omega
    · have := l.length_drain
      omega
  · intro n hn
    obtain ⟨k, rfl⟩ : ∃ k, n = 2 * k + 1 := ⟨n / 2, by omega⟩
    obtain ⟨ts, hts, hcount⟩ := (script_callMarks k).exists_tokens conf file
    rw [countP_bareCalls] at hcount
    exact ⟨ts, hts, by omega⟩
  · intro n c hn hpos hc
    obtain ⟨k, rfl⟩ : ∃ k, n = 2 * k + 2 := ⟨n / 2 - 1, by omega⟩
    have hscript : Script (c :: List.replicate (2 * k + 1) '@')
        ((.label, [c]) :: bareCalls (k + 1)) :=
      .label (g := []) (v := [c]) (List.forall_mem_nil _) (List.cons_ne_nil _ _)
        (List.forall_mem_singleton.mpr hc) (Text.stops_cons.mpr (by decide)) (script_callMarks k)
    obtain ⟨ts, hts, hcount⟩ := hscript.exists_tokens conf file
    rw [List.countP_cons_of_pos rfl, countP_bareCalls] at hcount
    exact ⟨ts, hts, by omega⟩

/-- A label character and one call mark: four tokens, as many as two characters can have. In front
of them, parentheses are passed over turn by turn. -/
theorem reading_ends_label_and_mark :
    ∃ l, Config.default.openText ['a', '@'] none = .ok l ∧
      Lexer.Run ⟨none, true⟩ ['a', '@'] [l.front] l ∧ properCount [l.front] ≤ 4 ∧
      (∃ k ≤ 4, (l.popMany k).fault ≠ none ∨ (l.popMany k).lexer.isEmpty = true) ∧
      l.drain.tokens.length ≤ 4 ∧
      (∃ ts, (Config.default.tokenize ['a', '@'] none).1 = .ok ts ∧ properCount ts = 4) ∧
      (∃ ts, (Config.default.tokenize ['@', '@', '@'] none).1 = .ok ts ∧ properCount ts = 6) ∧
      ∃ n ≤ 6, Layout.Turns n [' ', '(', ')', ' ', 'a', '@'] ['a', '@'] := by
  have hl : Config.default.openText ['a', '@'] none =
      .ok ⟨⟨none, true⟩, ⟨⟨1, 1, 2⟩, ['@'], .topLevel⟩,
        ⟨.label, ['a'], .ofSpan .origin 1 none⟩⟩ := rfl
  have hrun : Lexer.Run ⟨none, true⟩ ['a', '@'] _ _ := .opened hl
  obtain ⟨hturns, hruns, hends, hodd, heven⟩ := reading_ends .default none
  obtain ⟨hpops, -, hdrain⟩ := hends _ _ hl
  exact ⟨_, hl, hrun, hruns _ _ _ hrun, hpops, hdrain.2, heven 2 'a' rfl (by decide) (by decide),
    hodd 3 rfl, hturns ⟨.origin, [' ', '(', ')', ' ', 'a', '@'], .topLevel⟩ rfl⟩

end Dialogue
