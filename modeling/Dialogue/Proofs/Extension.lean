import Dialogue.Proofs.Course

/-!
# Extending a script

Reading looks one character ahead: a run ends at the first character that does not go on with it,
and nothing behind that character has a say. So what has been read while the script still had
something left does not depend on how the script goes on. Here a script is *extended* by a text put
behind it. A lexer on the script and a lexer on the extended script are at the same place, with the
same front and in the same mode, as long as the former has something left (`Lexer.popMany_extend`,
`Lexer.tokenize_extend`).

The rules of reading carry the argument. A rule that leaves something of the text applies to the
extended text as well, since what stops its run is still there (`Mode.Reads.append`); and what is
stuck before the end of the text is stuck for good (`Mode.Fails.append`). Only where nothing is left
does it matter what comes behind. There, a text that breaks every run (`Text.BreaksRuns`), such as
one that starts with a line feed, leaves all rules in force but three, which have the end of the
text in them (`Mode.Reads.append_or_atEnd`).

The result is that tokens and faults are stable (`prefix_stable`): a script that goes on can change
neither the tokens that were produced with something left, nor a fault, unless the fault is that the
script ends too early.
-/

namespace Dialogue

/-! ### Rules on extended texts -/

namespace Text

variable {p : Char → Bool} {t z : Text}

theorem Stops.append (h : Stops p t) (hz : t ≠ [] ∨ Stops p z) : Stops p (t ++ z) := by
  cases t with
  | cons c t => exact h
  | nil =>
    rcases hz with hne | hz
    · exact absurd rfl hne
    · exact hz

/-- **A text breaks runs** when no label, no free text and no parameter goes on with it. -/
structure BreaksRuns (z : Text) : Prop where
  /-- A label ends before it. -/
  label : Stops Dialogue.isLabel z
  /-- Free text ends before it. -/
  text : Stops Dialogue.isText z
  /-- A parameter ends before it. -/
  param : Stops Dialogue.isParam z

theorem breaksRuns_lineFeed (t : Text) : BreaksRuns ('\n' :: t) where
  label := stops_cons.mpr (by decide)
  text := stops_cons.mpr (by decide)
  param := stops_cons.mpr (by decide)

/-- Passing over a class of characters is not changed by what is put behind the text, unless the
text ends in the class and the class goes on. -/
theorem takeWhile_append_and_dropWhile_append (hz : t.dropWhile p ≠ [] ∨ Stops p z) :
    (t ++ z).takeWhile p = t.takeWhile p ∧ (t ++ z).dropWhile p = t.dropWhile p ++ z := by
  obtain ⟨v, r, rfl, hv, hr⟩ := exists_run p t
  rw [dropWhile_run hv hr] at hz
  have hstops : Stops p (r ++ z) := hr.append hz
  rw [takeWhile_run hv hr, dropWhile_run hv hr, List.append_assoc, takeWhile_run hv hstops,
    dropWhile_run hv hstops]
  exact ⟨rfl, rfl⟩

end Text

namespace Mode

variable {m : Mode} {t z : Text} {r : Reading} {e : Cause}

/-- **Putting a text behind keeps every rule but three**, if something is left or the text breaks
runs. The three are the end of the script, a comment on the last line and a name at the end. -/
theorem Reads.append_or_atEnd (h : m.Reads t r) (hz : r.rest ≠ [] ∨ z.BreaksRuns) :
    m.Reads (t ++ z) ⟨r.lexeme, r.mode, r.rest ++ z⟩ ∨ r.rest = [] ∧
      (r.lexeme.kind = .eof ∨
        (∃ v, t = ';' :: v ∧ (∀ c ∈ v, c ≠ '\n') ∧ m = .topLevel ∧ r.mode = .topLevel ∧
          r.lexeme = ⟨.comment, v, [';'], false, []⟩) ∨
        (t = [] ∧ m = .afterName ∧ r.mode = .impliedClose ∧
          r.lexeme = ⟨.opening, ['('], [], true, []⟩)) := by
  cases h with
  | eof => exact .inr ⟨rfl, .inl rfl⟩
  | lastComment hv => exact .inr ⟨rfl, .inr (.inl ⟨_, rfl, hv, rfl, rfl, rfl⟩)⟩
  | lastOpening => exact .inr ⟨rfl, .inr (.inr ⟨rfl, rfl, rfl, rfl⟩)⟩
  -- what stops a run goes on to stop it
  | label hv hall hr =>
    rw [List.append_assoc]
    exact .inl (.label hv hall (hr.append (hz.imp_right Text.BreaksRuns.label)))
  | name hall hr =>
    rw [List.cons_append, List.append_assoc]
    exact .inl (.name hall (hr.append (hz.imp_right Text.BreaksRuns.label)))
  | text hall hr hb hp hcomma hsemi =>
    rw [List.cons_append, List.append_assoc]
    exact .inl (.text hall (hr.append (hz.imp_right Text.BreaksRuns.text)) hb hp hcomma hsemi)
  | param hv hall hr =>
    rw [List.append_assoc]
    exact .inl (.param hv hall (hr.append (hz.imp_right Text.BreaksRuns.param)))
  -- a line feed ends a comment whatever follows
  | comment hv =>
    rw [List.cons_append, List.append_assoc]
    exact .inl (.comment hv)
  -- and the others look at one character only
  | opening => exact .inl .opening
  | impliedOpening hc => exact .inl (.impliedOpening hc)
  | impliedClosing => exact .inl .impliedClosing
  | emptyClosing => exact .inl .emptyClosing
  | separator => exact .inl .separator
  | closing => exact .inl .closing

/-- **A rule that leaves something applies to every longer text.** -/
theorem Reads.append (h : m.Reads t r) (hr : r.rest ≠ []) (z : Text) :
    m.Reads (t ++ z) ⟨r.lexeme, r.mode, r.rest ++ z⟩ := by
  rcases h.append_or_atEnd (.inl hr) with hreads | ⟨hnil, -⟩
  · exact hreads
  · exact absurd hnil hr

/-- **What is stuck before the end is stuck in every longer text.** -/
theorem Fails.append (h : m.Fails t e) (ht : t ≠ []) (z : Text) : m.Fails (t ++ z) e := by
  cases h with
  | strayComma => exact .strayComma
  | commaInList => exact .commaInList
  | junkAfterParam hb hcomma hparen => exact .junkAfterParam hb hcomma hparen
  | endInList => exact absurd rfl ht
  | endAfterParam => exact absurd rfl ht

/-- Something is left exactly when the cause is not the end of the script. -/
theorem Fails.ne_nil_iff (h : m.Fails t e) : t ≠ [] ↔ e.isEnd = false := by
  cases h <;> simp [Cause.isEnd]

end Mode

/-! ### Advances on extended texts -/

/-- A cursor on an extended script. -/
def Cursor.extend (z : Text) (c : Cursor) : Cursor :=
  { c with rest := c.rest ++ z }

namespace Cursor

variable {c c' next : Cursor} {l : Lexeme} {p : Position} {e : Cause} {s z : Text}

theorem settle_extend (hz : c.settle.rest ≠ [] ∨ c.mode.Settled z) :
    (c.extend z).settle = c.settle.extend z := by
  obtain ⟨htake, hdrop⟩ := Text.takeWhile_append_and_dropWhile_append hz
  change (⟨c.place.after ((c.rest ++ z).takeWhile c.mode.isLayout),
    (c.rest ++ z).dropWhile c.mode.isLayout, c.mode⟩ : Cursor) = _
  rw [htake, hdrop]
  rfl

theorem settle_rest_of_read (h : c.advance = .read l p next) :
    c.settle.rest = l.consumed ++ next.rest := by
  obtain ⟨-, -, hreads⟩ := advance_eq_read_iff.mp h
  exact (Mode.consumed_read hreads.read_eq).symm

/-- **An advance does the same on a longer text**, if its rule is still in force there. -/
theorem advance_extend (h : c.advance = .read l p next)
    (hreads : c.mode.Reads (c.settle.rest ++ z) ⟨l, next.mode, next.rest ++ z⟩) :
    (c.extend z).advance = .read l p (next.extend z) := by
  -- the layout does not go on, because the rule starts behind it
  have hz : c.settle.rest ≠ [] ∨ c.mode.Settled z := by
    by_cases hnil : c.settle.rest = []
    · have hsettled := hreads.settled
      rw [hnil] at hsettled
      exact .inr hsettled
    · exact .inl hnil
  obtain ⟨hp, hplace, -⟩ := advance_eq_read_iff.mp h
  refine advance_eq_read_iff.mpr ⟨?_, hplace, ?_⟩
  · rw [settle_extend hz]
    exact hp
  · rw [settle_extend hz]
    exact hreads

theorem advance_extend_of_read (h : c.advance = .read l p next) (hr : next.rest ≠ []) (z : Text) :
    (c.extend z).advance = .read l p (next.extend z) := by
  obtain ⟨-, -, hreads⟩ := advance_eq_read_iff.mp h
  exact advance_extend h (hreads.append hr z)

theorem advance_extend_of_stuck (h : c.advance = .stuck e c') (hr : c'.rest ≠ []) (z : Text) :
    (c.extend z).advance = .stuck e (c'.extend z) := by
  obtain ⟨rfl, hfails⟩ := advance_eq_stuck_iff.mp h
  have hextended := settle_extend (z := z) (.inl hr)
  refine advance_eq_stuck_iff.mpr ⟨hextended.symm, ?_⟩
  rw [hextended]
  exact hfails.append hr z

/-- A cursor in a script has something left exactly when it is before the end. -/
theorem StandsIn.offset_lt_iff (h : c.StandsIn s) : c.place.offset < s.length ↔ c.rest ≠ [] := by
  obtain ⟨t, rfl, hp⟩ := h
  rw [offset_of_place hp, List.length_append, ← List.length_pos_iff]
  omega

end Cursor

/-! ### Lexers on extended texts -/

/-- A lexer on an extended script. -/
def Lexer.extend (z : Text) (l : Lexer) : Lexer :=
  { l with cursor := l.cursor.extend z }

/-- What a move of a lexer comes to on an extended script. -/
def Move.extend (z : Text) (m : Move) : Move :=
  { m with lexer := m.lexer.extend z }

/-- A delivery from an extended script. -/
def Delivery.extend (z : Text) (d : Delivery) : Delivery :=
  { d with lexer := d.lexer.extend z }

namespace Lexer

variable {src : Source} {a s z : Text} {l : Lexer} {f : Fault}

theorem ofText_append_of_ok (h : Lexer.ofText src a = .ok l) (hr : l.cursor.rest ≠ []) (z : Text) :
    Lexer.ofText src (a ++ z) = .ok (l.extend z) := by
  obtain ⟨lexeme, p, next, hadv, rfl⟩ := ofText_eq_ok_iff.mp h
  exact ofText_eq_ok_iff.mpr ⟨lexeme, p, _, Cursor.advance_extend_of_read hadv hr z, rfl⟩

theorem pop_extend (hr : l.pop.lexer.cursor.rest ≠ []) (z : Text) :
    (l.extend z).pop = l.pop.extend z := by
  cases hadv : l.cursor.advance with
  | read lexeme p next =>
    rw [pop_of_read hadv] at hr ⊢
    exact pop_of_read (Cursor.advance_extend_of_read hadv hr z)
  | stuck e c =>
    rw [pop_of_stuck hadv] at hr ⊢
    exact pop_of_stuck (Cursor.advance_extend_of_stuck hadv hr z)

/-! Reading goes on, so if something is left in the end, something was left all the time. -/

theorem rest_pop_suffix (l : Lexer) : l.pop.lexer.cursor.rest <:+ l.cursor.rest := by
  have hsettle : l.cursor.settle.rest <:+ l.cursor.rest := List.dropWhile_suffix _
  cases hadv : l.cursor.advance with
  | read lexeme p next =>
    rw [pop_of_read hadv]
    refine List.IsSuffix.trans ?_ hsettle
    rw [Cursor.settle_rest_of_read hadv]
    exact List.suffix_append _ _
  | stuck e c =>
    rw [pop_of_stuck hadv, (Cursor.advance_eq_stuck_iff.mp hadv).1]
    exact hsettle

theorem rest_popMany_suffix (n : Nat) (l : Lexer) :
    (l.popMany n).lexer.cursor.rest <:+ l.cursor.rest :=
  popMany_induction (P := fun l' => l'.cursor.rest <:+ l.cursor.rest)
    (fun l' h => l'.rest_pop_suffix.trans h) (List.suffix_refl _) n

theorem rest_tokenize_suffix (l : Lexer) : l.tokenize.lexer.cursor.rest <:+ l.cursor.rest :=
  tokenize_induction (P := fun l' => l'.cursor.rest <:+ l.cursor.rest)
    (fun l' h => l'.rest_pop_suffix.trans h) (List.suffix_refl _)

theorem rest_popMany_antitone {k n : Nat} (hk : k ≤ n) (l : Lexer) :
    (l.popMany n).lexer.cursor.rest <:+ (l.popMany k).lexer.cursor.rest := by
  induction k generalizing n l with
  | zero => exact rest_popMany_suffix n l
  | succ k ih =>
    obtain ⟨n, rfl⟩ : ∃ n', n = n' + 1 := ⟨n - 1, by omega⟩
    cases hf : l.pop.fault with
    | some f =>
      have hsame : l.popMany (n + 1) = l.popMany (k + 1) := by
        rw [popMany_succ_of_fault hf, popMany_succ_of_fault hf]
      exact hsame ▸ List.suffix_refl _
    | none =>
      rw [popMany_succ_of_ok hf, popMany_succ_of_ok hf]
      exact ih (Nat.le_of_succ_le_succ hk) l.pop.lexer

/-- **Pops that leave something do the same on every longer script.** -/
theorem popMany_extend {n : Nat} (hr : (l.popMany n).lexer.cursor.rest ≠ []) (z : Text) :
    (l.extend z).popMany n = (l.popMany n).extend z := by
  induction n generalizing l with
  | zero => rfl
  | succ n ih =>
    cases hf : l.pop.fault with
    | some f =>
      rw [popMany_succ_of_fault hf] at hr ⊢
      have hpop := pop_extend hr z
      rw [popMany_succ_of_fault (f := f) (by rw [hpop]; exact hf), hpop]
    | none =>
      rw [popMany_succ_of_ok hf] at hr ⊢
      have hpop := pop_extend ((rest_popMany_suffix n _).ne_nil hr) z
      rw [popMany_succ_of_ok (by rw [hpop]; exact hf), hpop]
      change ((l.pop.lexer.extend z).popMany n).behind l.pop.notes = _
      rw [ih hr]
      rfl

/-- **Tokens that leave something are the same on every longer script**, up to a fault. -/
theorem tokenize_extend (hr : l.tokenize.lexer.cursor.rest ≠ []) (z : Text) :
    (l.extend z).tokenize = l.tokenize.extend z := by
  fun_induction tokenize l with
  | case1 l he => exact tokenize_of_isEmpty he
  | case2 l he f hf =>
    have hpop := pop_extend hr z
    rw [tokenize_of_fault (l := l.extend z) (f := f) he (by rw [hpop]; exact hf), hpop]
    rfl
  | case3 l he hf ih =>
    have hpop := pop_extend (l.pop.lexer.rest_tokenize_suffix.ne_nil hr) z
    rw [tokenize_of_pop (l := l.extend z) he (by rw [hpop]; exact hf), hpop]
    change Delivery.cons _ _ (l.pop.lexer.extend z).tokenize = _
    rw [ih hr]
    rfl

/-! ### Where lexers stand -/

theorem standsIn_pop (h : l.cursor.StandsIn s) : l.pop.lexer.cursor.StandsIn s := by
  cases hadv : l.cursor.advance with
  | read lexeme p next =>
    rw [pop_of_read hadv]
    exact h.read hadv
  | stuck e c =>
    rw [pop_of_stuck hadv, (Cursor.advance_eq_stuck_iff.mp hadv).1]
    exact h.settle

theorem standsIn_of_ofText (h : Lexer.ofText src a = .ok l) : l.cursor.StandsIn a := by
  obtain ⟨lexeme, p, next, hadv, rfl⟩ := ofText_eq_ok_iff.mp h
  exact (Cursor.standsIn_ofText a).read hadv

/-- A lexer that failed is left where the rules say that it is stuck. -/
theorem fails_of_tokenize (h : l.tokenize.fault = some f) :
    l.tokenize.lexer.cursor.mode.Fails l.tokenize.lexer.cursor.rest f.cause := by
  fun_induction tokenize l with
  | case1 l he => cases h
  | case2 l he f' hf =>
    cases h
    obtain ⟨e, c, hadv, rfl⟩ := exists_stuck_of_fault hf
    obtain ⟨rfl, hfails⟩ := Cursor.advance_eq_stuck_iff.mp hadv
    rw [pop_of_stuck hadv]
    exact hfails
  | case3 l he hf ih => exact ih h

end Lexer

/-- **Tokens and faults are stable.** Let a script be extended by any text. If no lexer can be
opened on the script, or if tokenizing fails later, and the cursor is then before the end of the
script, the same happens on the extended script, with the same tokens and the same fault; and the
cursor is before the end exactly if the fault is not that the script ends too early. If a lexer was
opened and popped without failure, and its cursor is then before the end of the script, then the
same number of pops on the extended script succeeds as well, has had the same fronts, and leads to
the same mode and place. -/
theorem prefix_stable (src : Source) (a z : Text) :
    (∀ f, Lexer.ofText src a = .error f →
      (f.place.offset < a.length ↔ f.cause.isEnd = false) ∧
      (f.place.offset < a.length → Lexer.ofText src (a ++ z) = .error f)) ∧
    ∀ l, Lexer.ofText src a = .ok l →
      (∀ n, (l.popMany n).fault = none → (l.popMany n).lexer.cursor.place.offset < a.length →
        ∃ l', Lexer.ofText src (a ++ z) = .ok l' ∧ (l'.popMany n).fault = none ∧
          (∀ k ≤ n, (l'.popMany k).lexer.front = (l.popMany k).lexer.front) ∧
          (l'.popMany n).lexer.cursor.mode = (l.popMany n).lexer.cursor.mode ∧
          (l'.popMany n).lexer.cursor.place = (l.popMany n).lexer.cursor.place) ∧
      (∀ f, l.tokenize.fault = some f →
        (l.tokenize.lexer.cursor.place.offset < a.length ↔ f.cause.isEnd = false) ∧
        (l.tokenize.lexer.cursor.place.offset < a.length →
          ∃ l', Lexer.ofText src (a ++ z) = .ok l' ∧ l'.tokenize.tokens = l.tokenize.tokens ∧
            l'.tokenize.fault = some f)) := by
  refine ⟨fun f hf => ?_, fun l hl => ⟨fun n hok hlt => ?_, fun f hf => ?_⟩⟩
  · obtain ⟨e, c, hadv, rfl⟩ := Lexer.ofText_eq_error_iff.mp hf
    obtain ⟨rfl, hfails⟩ := Cursor.advance_eq_stuck_iff.mp hadv
    have hleft := (Cursor.standsIn_ofText a).settle.offset_lt_iff
    refine ⟨hleft.trans hfails.ne_nil_iff, fun hlt => ?_⟩
    have hextended := Cursor.advance_extend_of_stuck hadv (hleft.mp hlt) z
    exact Lexer.ofText_eq_error_iff.mpr ⟨e, _, hextended, rfl⟩
  · have hin : (l.popMany n).lexer.cursor.StandsIn a :=
      Lexer.popMany_induction (P := fun l => l.cursor.StandsIn a) (fun _ => Lexer.standsIn_pop)
        (Lexer.standsIn_of_ofText hl) n
    have hr := hin.offset_lt_iff.mp hlt
    have hopen := Lexer.ofText_append_of_ok hl ((Lexer.rest_popMany_suffix n l).ne_nil hr) z
    refine ⟨l.extend z, hopen, ?_, fun k hk => ?_, ?_, ?_⟩
    · rw [Lexer.popMany_extend hr]
      exact hok
    · -- if something is left after all pops, something was left after the first of them
      rw [Lexer.popMany_extend ((Lexer.rest_popMany_antitone hk l).ne_nil hr)]
      rfl
    · rw [Lexer.popMany_extend hr]
      rfl
    · rw [Lexer.popMany_extend hr]
      rfl
  · have hin : l.tokenize.lexer.cursor.StandsIn a :=
      Lexer.tokenize_induction (P := fun l => l.cursor.StandsIn a) (fun _ => Lexer.standsIn_pop)
        (Lexer.standsIn_of_ofText hl)
    have hleft := hin.offset_lt_iff
    refine ⟨hleft.trans (Lexer.fails_of_tokenize hf).ne_nil_iff, fun hlt => ?_⟩
    have hr := hleft.mp hlt
    have hopen := Lexer.ofText_append_of_ok hl (l.rest_tokenize_suffix.ne_nil hr) z
    refine ⟨l.extend z, hopen, ?_, ?_⟩
    · rw [Lexer.tokenize_extend hr]
      rfl
    · rw [Lexer.tokenize_extend hr]
      exact hf

/-- A stray comma on the second line stays at fault when a letter is put behind it. -/
theorem prefix_stable_stray_comma :
    ∃ l, Lexer.ofText ⟨none, true⟩ ['A', '\n', ','] = .ok l ∧
      l.tokenize.lexer.cursor.place.offset < 3 ∧
      ∃ l', Lexer.ofText ⟨none, true⟩ ['A', '\n', ',', 'B'] = .ok l' ∧
        l'.tokenize.tokens = l.tokenize.tokens ∧
        l'.tokenize.fault = some ⟨.strayComma, ⟨2, 2, 1⟩, none⟩ := by
  have hopen : Lexer.ofText ⟨none, true⟩ ['A', '\n', ','] =
      .ok ⟨⟨none, true⟩, ⟨⟨1, 1, 2⟩, ['\n', ','], .topLevel⟩,
        ⟨.label, ['A'], .ofSpan .origin 1 none⟩⟩ := rfl
  have hdelivery := Lexer.tokenize_of_fault
    (l := ⟨⟨none, true⟩, ⟨⟨1, 1, 2⟩, ['\n', ','], .topLevel⟩,
      ⟨.label, ['A'], .ofSpan .origin 1 none⟩⟩)
    (f := ⟨.strayComma, ⟨2, 2, 1⟩, none⟩) (by decide) rfl
  have hbefore := (congrArg (fun d => d.lexer.cursor.place.offset < 3) hdelivery).mpr
    (by decide)
  have hfault := congrArg Delivery.fault hdelivery
  exact ⟨_, hopen, hbefore,
    (((prefix_stable ⟨none, true⟩ ['A', '\n', ','] ['B']).2 _ hopen).2 _ hfault).2 hbefore⟩

end Dialogue
