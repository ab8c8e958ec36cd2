import Dialogue.Cursor

/-!
# The rules of reading

What may stand at the front of a text is said here once more, by rules instead of by a function.
`Mode.Reads m t r` has one rule for each way in which a lexeme can be read, and `Mode.Fails m t e`
one for each way in which none can. A rule shows the text cut into the lexeme and what is behind it,
and it says what makes the cut the only one: a run of a class of characters is followed by a text
that does not go on with the class (`Text.Stops`).

On settled texts the rules are exactly what `Mode.read` does (`Mode.read_eq_ok_iff`,
`Mode.read_eq_error_iff`), and one advance of a cursor is its layout followed by one rule
(`Cursor.advance_eq_read_iff`, `Cursor.advance_eq_stuck_iff`). Everything that is proved about runs
of a lexer goes through these four statements, so that the branches of `Mode.read` are looked at in
this module only.
-/

namespace Dialogue

/-! ### Texts that stop a run -/

/-- **A text stops a class of characters** when it does not start with one of them. -/
def Text.Stops (p : Char → Bool) (t : Text) : Prop :=
  ∀ c ∈ t.head?, p c = false

namespace Text

variable {p : Char → Bool} {c : Char} {t v : Text}

@[simp] theorem stops_nil : Stops p [] := by
  intro c hc
  cases hc

@[simp] theorem stops_cons : Stops p (c :: t) ↔ p c = false := by
  simp [Stops]

theorem stops_dropWhile (p : Char → Bool) (t : Text) : Stops p (t.dropWhile p) := by
  cases h : t.dropWhile p with
  | nil => exact stops_nil
  | cons c r => exact stops_cons.mpr (dropWhile_head h)

theorem Stops.takeWhile_eq (h : Stops p t) : t.takeWhile p = [] := by
  cases t with
  | nil => rfl
  | cons c t => exact List.takeWhile_cons_of_neg (by rw [stops_cons.mp h]; simp)

theorem Stops.dropWhile_eq (h : Stops p t) : t.dropWhile p = t := by
  cases t with
  | nil => rfl
  | cons c t => exact List.dropWhile_cons_of_neg (by rw [stops_cons.mp h]; simp)

theorem takeWhile_run (hv : ∀ c ∈ v, p c = true) (ht : Stops p t) : (v ++ t).takeWhile p = v := by
  rw [List.takeWhile_append_of_pos hv, ht.takeWhile_eq, List.append_nil]

theorem dropWhile_run (hv : ∀ c ∈ v, p c = true) (ht : Stops p t) : (v ++ t).dropWhile p = t := by
  rw [List.dropWhile_append_of_pos hv, ht.dropWhile_eq]

theorem of_mem_takeWhile (h : c ∈ t.takeWhile p) : p c = true :=
  List.all_eq_true.mp List.all_takeWhile c h

/-- **Every text is a longest run and a text that stops it.** -/
theorem exists_run (p : Char → Bool) (t : Text) :
    ∃ v r, t = v ++ r ∧ (∀ c ∈ v, p c = true) ∧ Stops p r :=
  ⟨t.takeWhile p, t.dropWhile p, List.takeWhile_append_dropWhile.symm, fun _ => of_mem_takeWhile,
    stops_dropWhile p t⟩

/-- A text behind a character of a class goes on with the run that the character starts. -/
theorem exists_run_cons (hc : p c = true) (t : Text) :
    ∃ v r, t = v ++ r ∧ (∀ d ∈ c :: v, p d = true) ∧ Stops p r := by
  obtain ⟨v, r, rfl, hv, hr⟩ := exists_run p t
  refine ⟨v, r, rfl, ?_, hr⟩
  intro d hd
  rcases List.mem_cons.mp hd with rfl | hd
  · exact hc
  · exact hv d hd

end Text

/-! ### Classes that have no character in common

Label characters lie strictly between the two groups of blanks, and the parentheses are neither. -/

theorem toNat_of_isAlphanum {c : Char} (h : c.isAlphanum = true) :
    48 ≤ c.toNat ∧ c.toNat ≤ 122 := by
  rcases Bool.or_eq_true_iff.mp h with hletter | hdigit
  · rcases Bool.or_eq_true_iff.mp hletter with hupper | hlower
    · have hrange : 'A'.val ≤ c.val ∧ c.val ≤ 'Z'.val := of_decide_eq_true hupper
      have hlo := UInt32.le_iff_toNat_le.mp hrange.1
      have hhi := UInt32.le_iff_toNat_le.mp hrange.2
      exact ⟨Nat.le_trans (by decide) hlo, Nat.le_trans hhi (by decide)⟩
    · obtain ⟨hlo, hhi⟩ := Bool.and_eq_true_iff.mp hlower
      have hlo := UInt32.le_iff_toNat_le.mp (of_decide_eq_true hlo)
      have hhi := UInt32.le_iff_toNat_le.mp (of_decide_eq_true hhi)
      exact ⟨Nat.le_trans (by decide) hlo, hhi⟩
  · obtain ⟨hlo, hhi⟩ := Char.isDigit_iff_toNat.mp hdigit
    exact ⟨hlo, Nat.le_trans hhi (by decide)⟩

theorem toNat_of_isLabel {c : Char} (h : isLabel c = true) : 33 ≤ c.toNat ∧ c.toNat ≤ 122 := by
  simp only [isLabel, Bool.or_eq_true, beq_iff_eq] at h
  rcases h with (halnum | rfl) | rfl
  · have hrange := toNat_of_isAlphanum halnum
    omega
  · decide
  · decide

theorem toNat_of_isBlank {c : Char} (h : isBlank c = true) : c.toNat ≤ 32 ∨ 133 ≤ c.toNat := by
  simp only [isBlank, CodeRange.has, blankRanges, List.any_cons, List.any_nil,
    CodeRange.covers_iff, Bool.or_eq_true, Bool.false_eq_true, or_false] at h
  omega

theorem isBlank_of_isLabel {c : Char} (h : isLabel c = true) : isBlank c = false := by
  rw [Bool.eq_false_iff]
  intro hb
  have := toNat_of_isLabel h
  have := toNat_of_isBlank hb
  omega

theorem isParen_of_isLabel {c : Char} (h : isLabel c = true) : isParen c = false := by
  rw [Bool.eq_false_iff]
  intro hp
  simp only [isParen, Bool.or_eq_true, beq_iff_eq] at hp
  rcases hp with rfl | rfl <;> exact absurd h (by decide)

theorem isBlank_of_isParen {c : Char} (h : isParen c = true) : isBlank c = false := by
  simp only [isParen, Bool.or_eq_true, beq_iff_eq] at h
  rcases h with rfl | rfl <;> decide

/-! ### The rules -/

/-- **The ways to read a lexeme**, one rule for each. -/
inductive Mode.Reads : Mode → Text → Reading → Prop
  /-- The text is over. -/
  | eof : Reads .topLevel [] ⟨⟨.eof, [], [], false, []⟩, .topLevel, []⟩
  /-- A run of label characters. -/
  | label {v r : Text} : v ≠ [] → (∀ c ∈ v, isLabel c = true) → Text.Stops isLabel r →
      Reads .topLevel (v ++ r) ⟨⟨.label, v, [], false, []⟩, .topLevel, r⟩
  /-- The mark of a call and a run of label characters, possibly empty. -/
  | name {v r : Text} : (∀ c ∈ v, isLabel c = true) → Text.Stops isLabel r →
      Reads .topLevel ('@' :: (v ++ r)) ⟨⟨.name, v, ['@'], false, []⟩, .afterName, r⟩
  /-- The mark of a comment, and the line behind it with its end. -/
  | comment {v r : Text} : (∀ c ∈ v, c ≠ '\n') →
      Reads .topLevel (';' :: (v ++ '\n' :: r)) ⟨⟨.comment, v, [';'], false, ['\n']⟩, .topLevel, r⟩
  /-- The mark of a comment, and a line that the text ends in. -/
  | lastComment {v : Text} : (∀ c ∈ v, c ≠ '\n') →
      Reads .topLevel (';' :: v) ⟨⟨.comment, v, [';'], false, []⟩, .topLevel, []⟩
  /-- A run of text characters that does not start like anything else. -/
  | text {c : Char} {v r : Text} : (∀ d ∈ c :: v, isText d = true) → Text.Stops isText r →
      isBlank c = false → isParen c = false → c ≠ ',' → c ≠ ';' →
      Reads .topLevel (c :: (v ++ r)) ⟨⟨.text, c :: v, [], false, []⟩, .topLevel, r⟩
  /-- The parenthesis behind a name. -/
  | opening {r : Text} :
      Reads .afterName ('(' :: r) ⟨⟨.opening, ['('], [], false, []⟩, .inList, r⟩
  /-- No parenthesis behind a name, and one character dropped. -/
  | impliedOpening {c : Char} {r : Text} : c ≠ '(' →
      Reads .afterName (c :: r) ⟨⟨.opening, ['('], [], true, [c]⟩, .impliedClose, r⟩
  /-- A name that the text ends in. -/
  | lastOpening : Reads .afterName [] ⟨⟨.opening, ['('], [], true, []⟩, .impliedClose, []⟩
  /-- The closing parenthesis that goes with an implied opening one. -/
  | impliedClosing {r : Text} :
      Reads .impliedClose r ⟨⟨.closing, [')'], [], true, []⟩, .topLevel, r⟩
  /-- A run of parameter characters. -/
  | param {v r : Text} : v ≠ [] → (∀ c ∈ v, isParam c = true) → Text.Stops isParam r →
      Reads .inList (v ++ r) ⟨⟨.param, v, [], false, []⟩, .afterParam, r⟩
  /-- The parenthesis that closes a list where a parameter could start. -/
  | emptyClosing {r : Text} :
      Reads .inList (')' :: r) ⟨⟨.closing, [')'], [], false, []⟩, .topLevel, r⟩
  /-- The comma behind a parameter. -/
  | separator {r : Text} :
      Reads .afterParam (',' :: r) ⟨⟨.separator, [','], [], false, []⟩, .inList, r⟩
  /-- The parenthesis that closes a list behind a parameter. -/
  | closing {r : Text} :
      Reads .afterParam (')' :: r) ⟨⟨.closing, [')'], [], false, []⟩, .topLevel, r⟩

/-- **The ways to be stuck**, one rule for each. -/
inductive Mode.Fails : Mode → Text → Cause → Prop
  /-- A comma outside of a parameter list. -/
  | strayComma {r : Text} : Fails .topLevel (',' :: r) .strayComma
  /-- The text ends where a parameter could start. -/
  | endInList : Fails .inList [] .endInList
  /-- A comma where a parameter could start. -/
  | commaInList {r : Text} : Fails .inList (',' :: r) .commaInList
  /-- The text ends behind a parameter. -/
  | endAfterParam : Fails .afterParam [] .endAfterParam
  /-- Something else behind a parameter. -/
  | junkAfterParam {c : Char} {r : Text} : isBlank c = false → c ≠ ',' → c ≠ ')' →
      Fails .afterParam (c :: r) (.junkAfterParam c)

/-! ### The rules are what reading does -/

namespace Mode

variable {m : Mode} {t : Text} {r : Reading} {e : Cause}

theorem settled_cons {c : Char} (h : m.isLayout c = false) : m.Settled (c :: t) :=
  Text.stops_cons.mpr h

theorem settled_nil : m.Settled [] :=
  Text.stops_nil

theorem settled_of_isLayout (h : ∀ c, m.isLayout c = false) : m.Settled t :=
  fun c _ => h c

theorem isLayout_of_isLabel {c : Char} (h : isLabel c = true) : m.isLayout c = false := by
  cases m <;> simp [isLayout, isBlank_of_isLabel h, isParen_of_isLabel h]

/-- Whatever can be read starts behind the layout. -/
theorem Reads.settled (h : m.Reads t r) : m.Settled t := by
  cases h with
  | eof => exact settled_nil
  | @label v r hv hall =>
    obtain ⟨c, v, rfl⟩ := List.exists_cons_of_ne_nil hv
    exact settled_cons (isLayout_of_isLabel (hall c List.mem_cons_self))
  -- the marks of a call and of a comment are no layout
  | name | comment | lastComment => exact settled_cons (by decide)
  | text _ _ hb hp => exact settled_cons (by simp [isLayout, hb, hp])
  -- in these two modes there is no layout at all
  | opening | impliedOpening | lastOpening | impliedClosing =>
    exact settled_of_isLayout fun _ => rfl
  | @param v r hv hall =>
    obtain ⟨c, v, rfl⟩ := List.exists_cons_of_ne_nil hv
    have hc := hall c List.mem_cons_self
    refine settled_cons ?_
    simp only [isParam, Bool.and_eq_true, Bool.not_eq_true'] at hc
    exact hc.2
  | emptyClosing | separator | closing => exact settled_cons (by decide)

/-- Every rule is kept by reading. -/
theorem Reads.read_eq (h : m.Reads t r) : m.read t = .ok r := by
  cases h with
  | eof => rfl
  | @label v r hv hall hr =>
    -- the run that reading takes is the whole label, because what is behind it stops the run
    have htake := Text.takeWhile_run hall hr
    have hdrop := Text.dropWhile_run hall hr
    obtain ⟨c, v, rfl⟩ := List.exists_cons_of_ne_nil hv
    rw [List.cons_append] at htake hdrop ⊢
    rw [read, readTopLevel, if_pos (hall c List.mem_cons_self), Reading.label, htake, hdrop]
  | @name v r hall hr =>
    rw [read, readTopLevel, if_neg (by decide), if_pos rfl, Reading.name,
      Text.takeWhile_run hall hr, Text.dropWhile_run hall hr]
  | @comment v r hv =>
    have hall : ∀ c ∈ v, (c != '\n') = true := fun c hc => bne_iff_ne.mpr (hv c hc)
    have hr : Text.Stops (· != '\n') ('\n' :: r) := Text.stops_cons.mpr (by decide)
    rw [read, readTopLevel, if_neg (by decide), if_neg (by decide), if_pos rfl, Reading.comment,
      Text.takeWhile_run hall hr, Text.dropWhile_run hall hr]
    rfl
  | @lastComment v hv =>
    -- nothing is behind the line, and so there is no line feed to consume
    have hall : ∀ c ∈ v, (c != '\n') = true := fun c hc => bne_iff_ne.mpr (hv c hc)
    have htake := Text.takeWhile_run hall Text.stops_nil
    have hdrop := Text.dropWhile_run hall Text.stops_nil
    rw [List.append_nil] at htake hdrop
    rw [read, readTopLevel, if_neg (by decide), if_neg (by decide), if_pos rfl, Reading.comment,
      htake, hdrop]
    rfl
  | @text c v r hall hr hb hp hcomma hsemi =>
    -- a text character is neither a label character nor the mark of a call
    have hc := hall c List.mem_cons_self
    simp only [isText, Bool.and_eq_true, Bool.not_eq_true', bne_iff_ne] at hc
    have htake := Text.takeWhile_run hall hr
    have hdrop := Text.dropWhile_run hall hr
    rw [List.cons_append] at htake hdrop
    rw [read, readTopLevel, if_neg (by simp [hc.1.1]), if_neg hc.1.2, if_neg hsemi, if_neg hcomma,
      Reading.text, htake, hdrop]
  | opening => rfl
  | impliedOpening hc => rw [read, readAfterName, if_neg hc]; rfl
  | lastOpening => rfl
  | impliedClosing => rfl
  | @param v r hv hall hr =>
    have htake := Text.takeWhile_run hall hr
    have hdrop := Text.dropWhile_run hall hr
    obtain ⟨c, v, rfl⟩ := List.exists_cons_of_ne_nil hv
    rw [List.cons_append] at htake hdrop ⊢
    rw [read, readInList, if_pos (hall c List.mem_cons_self), Reading.param, htake, hdrop]
  | emptyClosing | separator | closing => rfl

theorem Fails.read_eq (h : m.Fails t e) : m.read t = .error e := by
  cases h with
  | strayComma | endInList | commaInList | endAfterParam => rfl
  | junkAfterParam _ hcomma hparen => rw [read, readAfterParam, if_neg hcomma, if_neg hparen]

/-- Wherever a text is stuck, it is stuck behind the layout. -/
theorem Fails.settled (h : m.Fails t e) : m.Settled t := by
  cases h with
  | strayComma | commaInList => exact settled_cons (by decide)
  | endInList | endAfterParam => exact settled_nil
  | junkAfterParam hb => exact settled_cons hb

/-! No settled text is left without a rule. The three modes in which there is a choice have a lemma
each; behind a name and behind an implied opening parenthesis something can always be read. -/

theorem topLevel_total (hs : topLevel.Settled t) :
    (∃ r, topLevel.Reads t r) ∨ ∃ e, topLevel.Fails t e := by
  cases t with
  | nil => exact .inl ⟨_, .eof⟩
  | cons c t =>
    have hl : isBlank c = false ∧ isParen c = false :=
      Bool.or_eq_false_iff.mp (Text.stops_cons.mp hs)
    by_cases hlabel : isLabel c = true
    · obtain ⟨v, r, rfl, hv, hr⟩ := Text.exists_run_cons hlabel t
      exact .inl ⟨_, .label (List.cons_ne_nil c v) hv hr⟩
    by_cases hat : c = '@'
    · subst hat
      obtain ⟨v, r, rfl, hv, hr⟩ := Text.exists_run isLabel t
      exact .inl ⟨_, .name hv hr⟩
    by_cases hsemi : c = ';'
    · subst hsemi
      obtain ⟨v, r, rfl, hv, hr⟩ := Text.exists_run (· != '\n') t
      have hline : ∀ d ∈ v, d ≠ '\n' := fun d hd => bne_iff_ne.mp (hv d hd)
      cases r with
      | nil => exact .inl ⟨_, by rw [List.append_nil]; exact .lastComment hline⟩
      | cons d r =>
        -- the run of a comment can be stopped by a line feed only
        obtain rfl : d = '\n' := by simpa using Text.stops_cons.mp hr
        exact .inl ⟨_, .comment hline⟩
    by_cases hcomma : c = ','
    · subst hcomma
      exact .inr ⟨_, .strayComma⟩
    -- whatever is left is a text character, since the line feed is a blank
    have hfeed : c ≠ '\n' := by
      rintro rfl
      exact absurd hl.1 (by decide)
    obtain ⟨v, r, rfl, hv, hr⟩ :=
      Text.exists_run_cons (p := isText) (c := c) (by simp [isText, hlabel, hat, hfeed]) t
    exact .inl ⟨_, .text hv hr hl.1 hl.2 hcomma hsemi⟩

theorem inList_total (hs : inList.Settled t) :
    (∃ r, inList.Reads t r) ∨ ∃ e, inList.Fails t e := by
  cases t with
  | nil => exact .inr ⟨_, .endInList⟩
  | cons c t =>
    have hb : isBlank c = false := Text.stops_cons.mp hs
    by_cases hparam : isParam c = true
    · obtain ⟨v, r, rfl, hv, hr⟩ := Text.exists_run_cons hparam t
      exact .inl ⟨_, .param (List.cons_ne_nil c v) hv hr⟩
    -- what is neither blank nor a parameter character is one of the two terminators
    have hterm : c = ',' ∨ c = ')' := by
      simpa [isParam, isTerminator, hb, Decidable.or_iff_not_imp_left] using hparam
    rcases hterm with rfl | rfl
    · exact .inr ⟨_, .commaInList⟩
    · exact .inl ⟨_, .emptyClosing⟩

theorem afterParam_total (hs : afterParam.Settled t) :
    (∃ r, afterParam.Reads t r) ∨ ∃ e, afterParam.Fails t e := by
  cases t with
  | nil => exact .inr ⟨_, .endAfterParam⟩
  | cons c t =>
    by_cases hcomma : c = ','
    · subst hcomma
      exact .inl ⟨_, .separator⟩
    by_cases hparen : c = ')'
    · subst hparen
      exact .inl ⟨_, .closing⟩
    exact .inr ⟨_, .junkAfterParam (Text.stops_cons.mp hs) hcomma hparen⟩

/-- **There is a rule for every settled text.** -/
theorem rules_total (hs : m.Settled t) : (∃ r, m.Reads t r) ∨ ∃ e, m.Fails t e := by
  cases m with
  | topLevel => exact topLevel_total hs
  | afterName =>
    cases t with
    | nil => exact .inl ⟨_, .lastOpening⟩
    | cons c t =>
      by_cases hc : c = '('
      · subst hc
        exact .inl ⟨_, .opening⟩
      · exact .inl ⟨_, .impliedOpening hc⟩
  | impliedClose => exact .inl ⟨_, .impliedClosing⟩
  | inList => exact inList_total hs
  | afterParam => exact afterParam_total hs

/-- **On settled texts, reading is what the rules say.** -/
theorem read_eq_ok_iff (hs : m.Settled t) : m.read t = .ok r ↔ m.Reads t r := by
  refine ⟨fun h => ?_, Reads.read_eq⟩
  -- some rule applies, and as reading keeps it, it is the one that was asked for
  rcases rules_total hs with ⟨r', hr⟩ | ⟨e, he⟩
  · obtain rfl : r' = r := Except.ok.inj (hr.read_eq.symm.trans h)
    exact hr
  · exact absurd (he.read_eq.symm.trans h) (by simp)

/-- **On settled texts, being stuck is what the rules say.** -/
theorem read_eq_error_iff (hs : m.Settled t) : m.read t = .error e ↔ m.Fails t e := by
  refine ⟨fun h => ?_, Fails.read_eq⟩
  rcases rules_total hs with ⟨r, hr⟩ | ⟨e', he⟩
  · exact absurd (hr.read_eq.symm.trans h) (by simp)
  · obtain rfl : e' = e := Except.error.inj (he.read_eq.symm.trans h)
    exact he

/-- The end is read at the top level with nothing left, and reading stays there. -/
theorem Reads.of_eof (h : m.Reads t r) (hk : r.lexeme.kind = .eof) :
    m = .topLevel ∧ t = [] ∧ r = ⟨⟨.eof, [], [], false, []⟩, .topLevel, []⟩ := by
  cases h with
  | eof => exact ⟨rfl, rfl, rfl⟩
  | label | name | comment | lastComment | text | opening | impliedOpening | lastOpening
  | impliedClosing | param | emptyClosing | separator | closing => cases hk

end Mode

/-! ### One advance is layout and one rule -/

namespace Cursor

variable {c c' next : Cursor} {l : Lexeme} {p : Position} {e : Cause}

theorem isLayout_of_mem_layout {d : Char} (h : d ∈ c.layout) : c.mode.isLayout d = true :=
  Text.of_mem_takeWhile h

/-- **An advance that reads** passes over the layout and follows one rule for reading. -/
theorem advance_eq_read_iff : c.advance = .read l p next ↔
    p = c.settle.place ∧ next.place = p.after l.consumed ∧
      c.mode.Reads c.settle.rest ⟨l, next.mode, next.rest⟩ := by
  rw [← Mode.read_eq_ok_iff c.settled_settle, advance]
  obtain ⟨place, rest, mode⟩ := next
  cases h : c.mode.read c.settle.rest with
  | error e => simp
  | ok r =>
    obtain ⟨l', mode', rest'⟩ := r
    simp only [Advance.read.injEq, Cursor.mk.injEq, Except.ok.injEq, Reading.mk.injEq]
    refine ⟨?_, ?_⟩
    · rintro ⟨rfl, rfl, rfl, rfl, rfl⟩
      exact ⟨rfl, rfl, rfl, rfl, rfl⟩
    · rintro ⟨rfl, rfl, rfl, rfl, rfl⟩
      exact ⟨rfl, rfl, rfl, rfl, rfl⟩

/-- **An advance that is stuck** passes over the layout and follows one rule for being stuck. -/
theorem advance_eq_stuck_iff : c.advance = .stuck e c' ↔
    c' = c.settle ∧ c.mode.Fails c.settle.rest e := by
  rw [← Mode.read_eq_error_iff c.settled_settle, advance]
  cases h : c.mode.read c.settle.rest with
  | error e' =>
    simp only [Advance.stuck.injEq, Except.error.injEq]
    exact ⟨fun ⟨he, hc⟩ => ⟨hc.symm, he⟩, fun ⟨hc, he⟩ => ⟨he, hc.symm⟩⟩
  | ok r => simp

/-- Where there is no layout, none is passed over. -/
theorem settle_of_settled (h : c.mode.Settled c.rest) : c.settle = c := by
  have hstops : Text.Stops c.mode.isLayout c.rest := h
  unfold settle layout
  rw [hstops.takeWhile_eq, hstops.dropWhile_eq]
  rfl

/-- Layout is passed over once and for all. -/
@[simp] theorem settle_settle (c : Cursor) : c.settle.settle = c.settle :=
  settle_of_settled c.settled_settle

/-- Where an advance was stuck, the next one is stuck in the same way. -/
theorem advance_of_stuck (h : c.advance = .stuck e c') : c'.advance = .stuck e c' := by
  obtain ⟨rfl, hfails⟩ := advance_eq_stuck_iff.mp h
  refine advance_eq_stuck_iff.mpr ⟨c.settle_settle.symm, ?_⟩
  rw [settle_settle]
  exact hfails

/-- **Beyond the end there is the end**, at the same place. -/
theorem advance_of_eof (h : c.advance = .read l p next) (hk : l.kind = .eof) :
    next.advance = .read l p next := by
  obtain ⟨-, hplace, hreads⟩ := advance_eq_read_iff.mp h
  obtain ⟨place, rest, mode⟩ := next
  obtain ⟨-, -, heq⟩ := hreads.of_eof hk
  cases heq
  cases hplace
  rfl

end Cursor

end Dialogue
