import Dialogue.Proofs.Lookahead
import Dialogue.Proofs.Protocol

/-!
# Spellings of the same script

Two scripts say the same when they have the same words in the same order and end in the same way, at
the end of the script or in a fault of the same category with the same message. This is their course
without its places (`Course.bare`). Of a cursor it is decided by the mode and the text that is left
(`Cursor.bare_course`), so it is best computed there, one rule at a time (`Mode.bare_of_reads`).

Two changes to a script leave what it says.

* **A call without parentheses** is a call with an empty list (`bare_call_is_empty_list`). The
  character that is dropped behind the name can be replaced by `()`, whatever it is, and whatever
  follows it is read as if the character had never been there.
* **Blanks between tokens** can be added (`blanks_between_tokens`), in every place where a token has
  just ended and neither a name nor a comment is in front of the place. Behind free text they have
  to start with a line feed, as any other blank would go on with the text.

Both compare the scripts from the place of the change on, and replay the run up to it. For blanks,
the run is followed to its end and not only to the token before (`Cursor.Run.withBlanks`): where a
script ends in a name, the blanks are put behind the supplied parentheses, and the first of them is
dropped to supply these.
-/

namespace Dialogue

/-! ### What a script says -/

/-- **A course without its places**: the words, and the category and the message of the fault. -/
def Course.bare (c : Course) : List Word × Option (Category × String) :=
  (c.tokens.map Token.word, c.fault.map fun f => (f.report.category, f.report.message))

theorem Course.bare_cons (t : Token) (c : Course) :
    (c.cons t).bare = (t.word :: c.bare.1, c.bare.2) := rfl

theorem Course.bare_behind (ts : List Token) (c : Course) :
    (c.behind ts).bare = (ts.map Token.word ++ c.bare.1, c.bare.2) := by
  unfold Course.bare Course.behind
  rw [List.map_append]

/-- What a text says in a mode, wherever it stands. -/
def Mode.bare (m : Mode) (t : Text) : List Word × Option (Category × String) :=
  ((⟨.origin, t, m⟩ : Cursor).course none).bare

namespace Cursor

variable {c d : Cursor} {file file' : Option String}

/-- Courses of the same text behind the layout differ in their places only. -/
theorem bare_course_congr (hmode : c.mode = d.mode) (hrest : c.settle.rest = d.settle.rest) :
    (c.course file).bare = (d.course file').bare := by
  fun_induction course file c generalizing d with
  | case1 c e c' hadv =>
    obtain ⟨rfl, hfails⟩ := advance_eq_stuck_iff.mp hadv
    rw [hmode, hrest] at hfails
    rw [course_of_stuck (advance_eq_stuck_iff.mpr ⟨rfl, hfails⟩)]
    rfl
  | case2 c l p next hadv hk =>
    obtain ⟨-, -, hreads⟩ := advance_eq_read_iff.mp hadv
    rw [hmode, hrest] at hreads
    have hd : d.advance = .read l d.settle.place
        ⟨d.settle.place.after l.consumed, next.rest, next.mode⟩ :=
      advance_eq_read_iff.mpr ⟨rfl, rfl, hreads⟩
    rw [course_of_eof hd hk]
    rfl
  | case3 c l p next hadv hk ih =>
    obtain ⟨-, -, hreads⟩ := advance_eq_read_iff.mp hadv
    rw [hmode, hrest] at hreads
    have hd : d.advance = .read l d.settle.place
        ⟨d.settle.place.after l.consumed, next.rest, next.mode⟩ :=
      advance_eq_read_iff.mpr ⟨rfl, rfl, hreads⟩
    have hnext := ih (d := ⟨d.settle.place.after l.consumed, next.rest, next.mode⟩) rfl rfl
    rw [course_of_read hd hk, Course.bare_cons, Course.bare_cons, hnext]
    rfl

/-- **What a cursor has to say** depends on its mode and on the text that is left. -/
theorem bare_course (c : Cursor) (file : Option String) :
    (c.course file).bare = c.mode.bare c.rest :=
  bare_course_congr rfl rfl

end Cursor

namespace Mode

variable {m : Mode} {g t : Text} {r : Reading}

theorem bare_of_reads (h : m.Reads t r) (hk : r.lexeme.kind ≠ .eof) :
    m.bare t = (r.lexeme.word :: (r.mode.bare r.rest).1, (r.mode.bare r.rest).2) := by
  have hadv := Cursor.advance_of_reads (g := []) (List.forall_mem_nil _) h .origin
  unfold Mode.bare
  rw [List.nil_append] at hadv
  rw [Cursor.course_of_read hadv hk, Course.bare_cons, Cursor.bare_course]
  rfl

/-- Layout says nothing. -/
theorem bare_layout (hg : ∀ d ∈ g, m.isLayout d = true) : m.bare (g ++ t) = m.bare t := by
  unfold Mode.bare
  rw [Cursor.course_congr (Cursor.settle_append_layout hg .origin), Cursor.bare_course]
  rfl

end Mode

/-- What a script says, from a run on it that is before the end. -/
theorem Cursor.Run.bare_eq {src : Source} {s : Text} {ts : List Token} {c : Cursor}
    (h : Run src.file s ts c) (hts : ∀ t ∈ ts, t.kind ≠ .eof) :
    (src.course s).bare =
      (ts.map Token.word ++ (c.mode.bare c.rest).1, (c.mode.bare c.rest).2) := by
  rw [Source.course_eq, h.course_eq hts, Course.bare_behind, Cursor.bare_course]

/-! ### Calls without parentheses -/

/-- Among these tokens is a name that starts at the offset. -/
def NameAt (i : Nat) (ts : List Token) : Prop :=
  ∃ t ∈ ts, t.kind = .name ∧ t.location.start = i

/-- **What stands behind a name decides all that differs.** If a script has a name at a place, it
can go on behind the name with every text that does not go on with the name; and if two such texts
say the same behind a name, the scripts do. -/
theorem bare_behind_name {src : Source} {u n z z' : Text} (hn : ∀ d ∈ n, isLabel d = true)
    (hz : Text.Stops isLabel z) (hz' : Text.Stops isLabel z')
    (hname : NameAt (u.length + 1) (src.course (u ++ '@' :: (n ++ z))).tokens)
    (hsame : Mode.afterName.bare z = Mode.afterName.bare z') :
    (src.course (u ++ '@' :: (n ++ z))).bare = (src.course (u ++ '@' :: (n ++ z'))).bare := by
  obtain ⟨t, ht, hk, hstart⟩ := hname
  obtain ⟨us, vs, hcut⟩ := List.append_of_mem ht
  have hcourse := Source.course_exchange hcut (.inl hk) hstart (.name hn hz) rfl Kind.noConfusion
  have hcourse' := Source.course_exchange hcut (.inl hk) hstart (.name hn hz') rfl Kind.noConfusion
  rw [hcourse, hcourse', Course.bare_behind, Course.bare_behind, Cursor.bare_course,
    Cursor.bare_course]
  show (_ ++ (Mode.afterName.bare z).1, (Mode.afterName.bare z).2) =
    (_ ++ (Mode.afterName.bare z').1, (Mode.afterName.bare z').2)
  rw [hsame]

theorem Mode.bare_emptyList (v : Text) : afterName.bare ('(' :: ')' :: v) =
    ((.opening, ['(']) :: (.closing, [')']) :: (topLevel.bare v).1, (topLevel.bare v).2) := by
  rw [bare_of_reads .opening Kind.noConfusion, bare_of_reads .emptyClosing Kind.noConfusion]
  rfl

theorem Mode.bare_dropped {c : Char} (hc : c ≠ '(') (v : Text) : afterName.bare (c :: v) =
    ((.opening, ['(']) :: (.closing, [')']) :: (topLevel.bare v).1, (topLevel.bare v).2) := by
  rw [bare_of_reads (.impliedOpening hc) Kind.noConfusion,
    bare_of_reads .impliedClosing Kind.noConfusion]
  rfl

theorem Mode.bare_lastName : afterName.bare [] =
    ((.opening, ['(']) :: (.closing, [')']) :: (topLevel.bare []).1, (topLevel.bare []).2) := by
  rw [bare_of_reads .lastOpening Kind.noConfusion, bare_of_reads .impliedClosing Kind.noConfusion]
  rfl

/-- **A call without parentheses is a call with an empty list.** If a script has the name `n` of a
call behind `u`, and the name is followed by a character other than the opening parenthesis, then
the script says the same as the one with `()` in the place of the character. If nothing follows the
name, it says the same as the one with `()` put behind it. -/
theorem bare_call_is_empty_list (src : Source) (u n : Text) (hn : ∀ d ∈ n, isLabel d = true) :
    (∀ (c : Char) (v : Text), isLabel c = false → c ≠ '(' →
      NameAt (u.length + 1) (src.course (u ++ '@' :: (n ++ c :: v))).tokens →
      (src.course (u ++ '@' :: (n ++ c :: v))).bare =
        (src.course (u ++ '@' :: (n ++ '(' :: ')' :: v))).bare) ∧
    (NameAt (u.length + 1) (src.course (u ++ '@' :: n)).tokens →
      (src.course (u ++ '@' :: n)).bare = (src.course (u ++ '@' :: (n ++ ['(', ')']))).bare) := by
  have hparen : ∀ v : Text, Text.Stops isLabel ('(' :: v) :=
    fun v => Text.stops_cons.mpr (by decide)
  refine ⟨?_, ?_⟩
  · intro c v hlabel hc hname
    apply bare_behind_name hn (Text.stops_cons.mpr hlabel) (hparen _) hname
    rw [Mode.bare_dropped hc, Mode.bare_emptyList]
  · intro hname
    rw [← List.append_nil n] at hname
    have hsame := bare_behind_name hn Text.stops_nil (hparen [')']) hname
      (by rw [Mode.bare_lastName, Mode.bare_emptyList])
    rwa [List.append_nil] at hsame

/-- A semicolon behind a name is dropped and starts no comment, so that the comma behind it is read,
and is stray, as it is behind an empty list. -/
theorem bare_call_is_empty_list_semicolon :
    NameAt 2 (Source.course ⟨none, true⟩ ['A', '@', 'f', ';', ',']).tokens ∧
      (Source.course ⟨none, true⟩ ['A', '@', 'f', ';', ',']).bare =
        (Source.course ⟨none, true⟩ ['A', '@', 'f', '(', ')', ',']).bare := by
  have hname : NameAt 2 (Source.course ⟨none, true⟩ ['A', '@', 'f', ';', ',']).tokens := by
    have hlabel : (Cursor.ofText ['A', '@', 'f', ';', ',']).advance =
      .read ⟨.label, ['A'], [], false, []⟩ .origin
        ⟨⟨1, 1, 2⟩, ['@', 'f', ';', ','], .topLevel⟩ := rfl
    have hcall : (⟨⟨1, 1, 2⟩, ['@', 'f', ';', ','], .topLevel⟩ : Cursor).advance =
      .read ⟨.name, ['f'], ['@'], false, []⟩ ⟨1, 1, 2⟩ ⟨⟨3, 1, 4⟩, [';', ','], .afterName⟩ := rfl
    rw [Source.course_eq, Cursor.course_of_read hlabel Kind.noConfusion,
      Cursor.course_of_read hcall Kind.noConfusion]
    exact ⟨_, List.mem_cons_of_mem _ List.mem_cons_self, rfl, rfl⟩
  have hlabels : ∀ d ∈ ['f'], isLabel d = true := List.forall_mem_singleton.mpr rfl
  exact ⟨hname, (bare_call_is_empty_list ⟨none, true⟩ ['A'] ['f'] hlabels).1 ';' [','] rfl
    (by decide) hname⟩

/-! ### Blanks between tokens -/

/-- **A token of this kind ends before these blanks**, if they are put behind it. A comment would
take them in, and so would free text, unless they start with a line feed. Behind the end of the
script nothing is read. -/
def Kind.EndsBefore (w : Text) : Kind → Prop
  | .comment | .eof => False
  | .text => w.head? = some '\n'
  | .label | .name | .opening | .param | .separator | .closing => True

theorem Text.Stops.behind_blanks {p : Char → Bool} {w t : Text} (h : Stops p t)
    (hw : ∀ d ∈ w, Dialogue.isBlank d = true) (hp : ∀ d, Dialogue.isBlank d = true → p d = false) :
    Stops p (w ++ t) := by
  cases w with
  | nil => exact h
  | cons d w => exact stops_cons.mpr (hp d (hw d List.mem_cons_self))

namespace Mode

variable {m : Mode} {t w : Text} {r : Reading} {e : Cause} {d : Char}

theorem isLayout_of_isBlank (hm : m ≠ .afterName) (hm' : m ≠ .impliedClose)
    (hd : isBlank d = true) : m.isLayout d = true := by
  cases m with
  | topLevel => exact Bool.or_eq_true_iff.mpr (.inl hd)
  | inList | afterParam => exact hd
  | afterName => exact absurd rfl hm
  | impliedClose => exact absurd rfl hm'

theorem Fails.isLayout_of_isBlank (h : m.Fails t e) (hd : isBlank d = true) :
    m.isLayout d = true := by
  apply Mode.isLayout_of_isBlank _ _ hd
  all_goals
    rintro rfl
    cases h

/-- **Blanks behind what was read leave its rule in force**, except for the two rules that consume
nothing and supply a parenthesis. -/
theorem Reads.before_blanks (h : m.Reads t r) (hw : ∀ d ∈ w, isBlank d = true)
    (hk : r.lexeme.kind.EndsBefore w) :
    (m.Reads (r.lexeme.consumed ++ (w ++ r.rest)) ⟨r.lexeme, r.mode, w ++ r.rest⟩ ∧
        r.lexeme.consumed ≠ []) ∨
      (m = .afterName ∧ t = []) ∨ m = .impliedClose := by
  have hlabel : ∀ d, isBlank d = true → isLabel d = false := by
    intro d hd
    rw [Bool.eq_false_iff]
    intro hl
    rw [isBlank_of_isLabel hl] at hd
    cases hd
  have hparam : ∀ d, isBlank d = true → isParam d = false := by
    intro d hd
    simp [isParam, hd]
  cases h with
  | eof => exact hk.elim
  | comment => exact hk.elim
  | lastComment => exact hk.elim
  | lastOpening => exact .inr (.inl ⟨rfl, rfl⟩)
  | impliedClosing => exact .inr (.inr rfl)
  | label hne hv hr =>
    refine .inl ⟨?_, by simpa [Lexeme.consumed, Lexeme.body] using hne⟩
    simpa [Lexeme.consumed, Lexeme.body] using Reads.label hne hv (hr.behind_blanks hw hlabel)
  | name hv hr =>
    refine .inl ⟨?_, by simp [Lexeme.consumed]⟩
    simpa [Lexeme.consumed, Lexeme.body] using Reads.name hv (hr.behind_blanks hw hlabel)
  | text hv hr hb hp hcomma hsemi =>
    -- a line feed is the one blank that is not a text character
    obtain ⟨w, rfl⟩ := List.head?_eq_some_iff.mp hk
    refine .inl ⟨?_, by simp [Lexeme.consumed, Lexeme.body]⟩
    simpa [Lexeme.consumed, Lexeme.body] using
      Reads.text hv (Text.stops_cons.mpr (by decide)) hb hp hcomma hsemi
  | param hne hv hr =>
    refine .inl ⟨?_, by simpa [Lexeme.consumed, Lexeme.body] using hne⟩
    simpa [Lexeme.consumed, Lexeme.body] using Reads.param hne hv (hr.behind_blanks hw hparam)
  | opening => exact .inl ⟨.opening, List.cons_ne_nil _ _⟩
  | impliedOpening hc => exact .inl ⟨.impliedOpening hc, List.cons_ne_nil _ _⟩
  | emptyClosing => exact .inl ⟨.emptyClosing, List.cons_ne_nil _ _⟩
  | separator => exact .inl ⟨.separator, List.cons_ne_nil _ _⟩
  | closing => exact .inl ⟨.closing, List.cons_ne_nil _ _⟩

/-- Where nothing is consumed and a parenthesis is supplied, it is supplied as well if blanks are
ahead. Behind a name, the first of them is dropped. -/
theorem Reads.supplied_before_blanks (h : m.Reads t r)
    (hm : (m = .afterName ∧ t = []) ∨ m = .impliedClose) (hw : ∀ d ∈ w, isBlank d = true) :
    ∃ r', m.Reads (w ++ t) r' ∧ r'.lexeme.word = r.lexeme.word ∧ r'.mode = r.mode ∧
      ∃ v, (∀ d ∈ v, isBlank d = true) ∧ r'.rest = v ++ r.rest := by
  rcases hm with ⟨rfl, rfl⟩ | rfl
  · cases h with
    | lastOpening =>
      cases w with
      | nil => exact ⟨_, .lastOpening, rfl, rfl, [], List.forall_mem_nil _, rfl⟩
      | cons d w =>
        have hd : d ≠ '(' := by
          rintro rfl
          exact absurd (hw _ List.mem_cons_self) (by decide)
        exact ⟨_, .impliedOpening hd, rfl, rfl, w, (List.forall_mem_cons.mp hw).2, rfl⟩
  · cases h with
    | impliedClosing => exact ⟨_, .impliedClosing, rfl, rfl, w, hw, rfl⟩

theorem Reads.consumed_of_supplied (h : m.Reads t r)
    (hm : (m = .afterName ∧ t = []) ∨ m = .impliedClose) :
    r.lexeme.consumed = [] ∧ r.rest = t ∧ ∀ d, m.isLayout d = false := by
  rcases hm with ⟨rfl, rfl⟩ | rfl
  · cases h with
    | lastOpening => exact ⟨rfl, rfl, fun _ => rfl⟩
  · cases h with
    | impliedClosing => exact ⟨rfl, rfl, fun _ => rfl⟩

end Mode

namespace Cursor

variable {file : Option String} {s w : Text} {ts : List Token} {c next : Cursor} {l : Lexeme}
  {p : Position}

/-- **A cursor can be had with blanks ahead** on another script: a run there has the same words, and
its cursor is in the same mode and has the same text behind blanks. -/
def Spaced (file : Option String) (s : Text) (ts : List Token) (c : Cursor) : Prop :=
  ∃ ts' c', Run file s ts' c' ∧ ts'.map Token.word = ts.map Token.word ∧ c'.mode = c.mode ∧
    ∃ v, (∀ d ∈ v, isBlank d = true) ∧ c'.rest = v ++ c.rest

/-- A parenthesis that is supplied out of nothing is supplied before blanks too. -/
theorem Spaced.supplied (h : Spaced file s ts c)
    (hm : (c.mode = .afterName ∧ c.rest = []) ∨ c.mode = .impliedClose)
    (hreads : c.mode.Reads c.rest ⟨l, next.mode, next.rest⟩) :
    Spaced file s (ts ++ [l.token p file]) next := by
  obtain ⟨ts', c', hrun, hwords, hmode, v, hv, hrest⟩ := h
  obtain ⟨r, hr, hword, hnext, hblanks⟩ := hreads.supplied_before_blanks hm hv
  rw [← hmode, ← hrest] at hr
  have hread := advance_of_reads (g := []) (List.forall_mem_nil _) hr c'.place
  refine ⟨_, _, hrun.read hread, ?_, hnext, hblanks⟩
  rw [List.map_append, List.map_append, hwords]
  exact congrArg (fun word => ts.map Token.word ++ [word]) hword

/-- **Blanks can be put in at the end of every run**, if its last token ends before them. -/
theorem Run.withBlanks (h : Run file s ts c) (hw : ∀ d ∈ w, isBlank d = true)
    (hlast : ∀ t ∈ ts.getLast?, t.kind.EndsBefore w) :
    Spaced file (s.take c.place.offset ++ (w ++ c.rest)) ts c := by
  induction h with
  | start => exact ⟨[], _, .start, rfl, rfl, w, hw, rfl⟩
  | @read ts c next l p hrun hadv ih =>
    obtain ⟨rfl, hplace, hreads⟩ := advance_eq_read_iff.mp hadv
    have hk : l.kind.EndsBefore w := hlast (l.token _ file) List.getLast?_concat
    rcases hreads.before_blanks hw hk with ⟨hnew, hne⟩ | hm
    · -- the token is read as before, on a script that goes on with the blanks
      have hahead : (l.consumed ++ (w ++ next.rest)).head? = c.settle.rest.head? := by
        rw [settle_rest_of_read hadv, List.head?_append_of_ne_nil _ hne,
          List.head?_append_of_ne_nil _ hne]
      rw [hrun.standsIn.take_of_read hadv, List.append_assoc]
      exact ⟨_, _, hrun.reread hnew hahead, rfl, rfl, w, hw, rfl⟩
    · -- nothing was consumed, so the blanks are behind the token before as well
      obtain ⟨hconsumed, hrest, hlayout⟩ := hreads.consumed_of_supplied hm
      have hsettle : c.settle = c := settle_of_settled (Mode.settled_of_isLayout hlayout)
      change next.rest = c.settle.rest at hrest
      rw [hsettle] at hreads hm hrest hplace
      change next.place = c.place.after l.consumed at hplace
      rw [hconsumed, Position.after_nil] at hplace
      rw [hplace, hrest]
      refine (ih ?_).supplied hm hreads
      intro t ht
      have hmode : Mode.behind t = c.mode := by
        rw [hrun.mode_eq, Option.mem_def.mp ht, Option.elim_some]
      rcases hm with ⟨hm, -⟩ | hm
      · rw [hm, Mode.behind_eq_iff] at hmode
        rw [hmode]
        trivial
      · rw [hm, Mode.behind_eq_iff] at hmode
        rw [hmode.1]
        trivial
  | @stuck ts c c' e hrun hadv ih =>
    obtain ⟨rfl, hfails⟩ := advance_eq_stuck_iff.mp hadv
    have hcut := c.layout_append_settle
    rw [hrun.standsIn.take_settle, List.append_assoc]
    by_cases hg : c.layout = []
    · -- there was nothing to pass over
      rw [hg, List.nil_append] at hcut ⊢
      rw [hcut]
      obtain ⟨ts', c', hrun', hwords, hmode, hblanks⟩ := ih hlast
      rw [← hcut] at hblanks
      exact ⟨ts', c', hrun', hwords, hmode, hblanks⟩
    · -- the blanks go on with the layout, and the cursor is stuck behind both
      have hrun' := hrun.exchange (z := c.layout ++ (w ++ c.settle.rest)) (by
        rw [← hcut, List.head?_append_of_ne_nil _ hg, List.head?_append_of_ne_nil _ hg])
      have hlayout : ∀ d ∈ c.layout ++ w, c.mode.isLayout d = true := by
        intro d hd
        rcases List.mem_append.mp hd with hd | hd
        · exact isLayout_of_mem_layout hd
        · exact hfails.isLayout_of_isBlank (hw d hd)
      have hstuck := advance_of_fails hlayout hfails c.place
      rw [List.append_assoc] at hstuck
      exact ⟨_, _, hrun'.stuck hstuck, rfl, rfl, [], List.forall_mem_nil _, rfl⟩

/-- Behind the end there is only the end, so a run with another last token has not read it. -/
theorem Run.kind_ne_eof (h : Run file s ts c) (hlast : ∀ t ∈ ts.getLast?, t.kind ≠ .eof) :
    ∀ t ∈ ts, t.kind ≠ .eof := by
  induction h with
  | start => exact List.forall_mem_nil _
  | @read ts c next l p hrun hadv ih =>
    have hk : l.kind ≠ .eof := hlast (l.token p file) List.getLast?_concat
    have hbefore : ∀ t ∈ ts.getLast?, t.kind ≠ .eof := by
      intro t ht heof
      exact hk (hrun.kind_of_eof hadv ⟨t, ht, heof⟩)
    exact List.forall_mem_append.mpr ⟨ih hbefore, List.forall_mem_singleton.mpr hk⟩
  | stuck _ _ ih => exact ih hlast

end Cursor

/-- **These blanks may follow a token**: a label, a written opening parenthesis, a parameter, a
comma or a closing parenthesis, or free text if the blanks start with a line feed. -/
def Token.MayPrecede (w : Text) (t : Token) : Prop :=
  t.kind ∈ [Kind.label, .param, .separator, .closing] ∨
    (t.kind = .opening ∧ t.isSynthetic = false) ∨ (t.kind = .text ∧ w.head? = some '\n')

namespace Token

variable {t : Token} {w : Text}

theorem MayPrecede.endsBefore (h : t.MayPrecede w) : t.kind.EndsBefore w := by
  rcases h with hk | ⟨hk, -⟩ | ⟨hk, hw⟩
  · simp only [List.mem_cons, List.not_mem_nil, or_false] at hk
    rcases hk with hk | hk | hk | hk <;> rw [hk] <;> trivial
  · rw [hk]
    trivial
  · rw [hk]
    exact hw

theorem MayPrecede.kind_ne_eof (h : t.MayPrecede w) : t.kind ≠ .eof := by
  intro hk
  have hends := h.endsBefore
  rw [hk] at hends
  exact hends

/-- Behind such a token, blanks are layout. -/
theorem MayPrecede.isLayout (h : t.MayPrecede w) {d : Char} (hd : isBlank d = true) :
    (Mode.behind t).isLayout d = true := by
  apply Mode.isLayout_of_isBlank _ _ hd
  · intro hm
    rw [Mode.behind_eq_iff] at hm
    rcases h with hk | ⟨hk, -⟩ | ⟨hk, -⟩ <;> rw [hm] at hk <;> simp at hk
  · intro hm
    obtain ⟨hm, hsyn⟩ := Mode.behind_eq_iff.mp hm
    rcases h with hk | ⟨-, hwritten⟩ | ⟨hk, -⟩
    · rw [hm] at hk
      simp at hk
    · rw [hsyn] at hwritten
      cases hwritten
    · rw [hm] at hk
      cases hk

end Token

theorem Token.kind_ne_of_words {ts ts' : List Token} {k : Kind}
    (hwords : ts'.map Token.word = ts.map Token.word) (hts : ∀ t ∈ ts, t.kind ≠ k) :
    ∀ t ∈ ts', t.kind ≠ k := by
  intro t' ht' hk
  have hmem : t'.word ∈ ts.map Token.word := hwords ▸ List.mem_map_of_mem ht'
  obtain ⟨t, ht, hword⟩ := List.mem_map.mp hmem
  have hkind : t.kind = t'.kind := congrArg Prod.fst hword
  exact hts t ht (hkind.trans hk)

/-- **Blanks between tokens say nothing.** Take any run of a lexer on a script, and blanks that may
follow its front. Putting them into the script where the cursor of the lexer is, no matter which and
how many, leaves what the script says. -/
theorem blanks_between_tokens (src : Source) (s : Text) (ts : List Token) (l : Lexer)
    (hrun : Lexer.Run src s ts l) (w : Text) (hw : ∀ d ∈ w, isBlank d = true)
    (hfront : l.front.MayPrecede w) :
    (src.course (s.take l.cursor.place.offset ++ (w ++ s.drop l.cursor.place.offset))).bare =
      (src.course s).bare := by
  obtain ⟨-, hlast, hcur⟩ := hrun.cursor
  have hfronts : ∀ t ∈ ts.getLast?, t = l.front := by
    intro t ht
    exact Option.some.inj ((Option.mem_def.mp ht).symm.trans hlast)
  have hmode : l.cursor.mode = Mode.behind l.front := by
    rw [hcur.mode_eq, hlast, Option.elim_some]
  have hts : ∀ t ∈ ts, t.kind ≠ .eof :=
    hcur.kind_ne_eof fun t ht => hfronts t ht ▸ hfront.kind_ne_eof
  obtain ⟨ts', c', hrun', hwords, hmode', v, hv, hrest⟩ :=
    hcur.withBlanks hw fun t ht => hfronts t ht ▸ hfront.endsBefore
  rw [← hcur.standsIn.rest_eq, hrun'.bare_eq (Token.kind_ne_of_words hwords hts),
    hcur.bare_eq hts, hwords, hmode', hrest]
  -- what differs now are the blanks, which are layout behind the front
  have hlayout : ∀ d ∈ v, l.cursor.mode.isLayout d = true := by
    intro d hd
    rw [hmode]
    exact hfront.isLayout (hv d hd)
  rw [Mode.bare_layout hlayout]

/-- A script that ends in a name, and a lexer with the supplied closing parenthesis in front. Of the
two blanks that are put in there, the first is dropped, and neither changes a word. -/
theorem blanks_between_tokens_last_name :
    ∃ ts l, Lexer.Run ⟨none, true⟩ ['@', 'f'] ts l ∧ l.front.kind = .closing ∧
      l.front.isSynthetic = true ∧ l.front.MayPrecede ['\u3000', '\n'] ∧
      (Source.course ⟨none, true⟩ ['@', 'f', '\u3000', '\n']).bare =
        (Source.course ⟨none, true⟩ ['@', 'f']).bare := by
  have hopen : Lexer.ofText ⟨none, true⟩ ['@', 'f'] =
      .ok ⟨⟨none, true⟩, ⟨⟨2, 1, 3⟩, [], .afterName⟩,
        ⟨.name, ['f'], .ofSpan ⟨1, 1, 2⟩ 1 none⟩⟩ := rfl
  have hrun := ((Lexer.Run.opened hopen).popped rfl).popped rfl
  have hblanks : ∀ d ∈ ['\u3000', '\n'], isBlank d = true :=
    List.forall_mem_cons.mpr ⟨rfl, List.forall_mem_singleton.mpr rfl⟩
  have hfront : Token.MayPrecede ['\u3000', '\n'] ⟨.closing, [')'], .ofSpan ⟨2, 1, 3⟩ 0 none⟩ :=
    .inl (by decide)
  have hsame := blanks_between_tokens _ _ _ _ hrun _ hblanks hfront
  exact ⟨_, _, hrun, rfl, rfl, hfront, hsame⟩

end Dialogue
