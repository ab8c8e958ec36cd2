import Dialogue.Proofs.Coordinates
import Dialogue.Proofs.Extension

/-!
# Joining scripts

Two scripts are joined by a line feed, and the tokens of the whole are those of the first, without
its end, and then those of the second, shifted to the lines behind the first
(`joined_by_lineFeed`). The line feed plays a part of its own in each of the ways in which the first
script can end. Behind a label or free text it ends the run. Behind a comment without one it becomes
the line feed of the comment. Behind anything else outside of calls it is layout. In one case it can
be seen: behind the name of a call without parentheses it is the character that is dropped, and the
supplied closing parenthesis, which stands behind the character that was dropped, moves to the next
line with it. `Kept` says what becomes of the tokens of the first script, and `EndsInName` tells
this case by these tokens.

The proof follows the course of a cursor in the first script. As long as something is left, or if
what was read is stopped by the line feed, the advance is the same in the whole
(`Cursor.advance_extend`). The other cases are the three rules that have the end of the text in
them, and from each of them the whole goes on at the start of the second script.
-/

namespace Dialogue

/-! ### Tokens before and behind the line feed -/

/-- A token, so many characters and lines further on. -/
def Token.shift (offset lines : Nat) (t : Token) : Token :=
  { t with location := { t.location with
      line := t.location.line + lines
      start := t.location.start + offset
      stop := t.location.stop + offset } }

/-- A fault, so many characters and lines further on. -/
def Fault.shift (offset lines : Nat) (f : Fault) : Fault :=
  { f with place := ⟨f.place.offset + offset, f.place.line + lines, f.place.column⟩ }

/-- A token that moves over a line feed: one character on, to the start of the next line. -/
def Token.toNextLine (t : Token) : Token :=
  { t with location := { t.location with
      line := t.location.line + 1
      column := 1
      start := t.location.start + 1
      stop := t.location.stop + 1 } }

theorem Token.toNextLine_ofSpan (kind : Kind) (value : Text) (p : Position)
    (file : Option String) : (⟨kind, value, .ofSpan p 0 file⟩ : Token).toNextLine =
      ⟨kind, value, .ofSpan (p.step '\n') 0 file⟩ := by
  simp [toNextLine, Location.ofSpan, Position.step]

/-- A token is an opening parenthesis that was supplied at the end of a script of this size. -/
def Token.OpensAtEnd (size : Nat) (t : Token) : Prop :=
  t.kind = .opening ∧ t.isSynthetic = true ∧ t.location.start = size

/-- **A script of this size ends in the name of a call**, told by its tokens: the last opening
parenthesis was supplied, at the end of the script. -/
def EndsInName (size : Nat) (ts : List Token) : Prop :=
  ∃ t ∈ (ts.filter (·.kind = .opening)).getLast?, t.isSynthetic = true ∧ t.location.start = size

/-- **What is kept of the tokens of a script** when a line feed and another script follow: all but
the end of the script. If the script ends in a name, the supplied parenthesis that closes this last
call is moved to the next line. -/
def Kept (size : Nat) (ts kept : List Token) : Prop :=
  (¬ EndsInName size ts ∧ ∃ eof : Token, eof.kind = .eof ∧ ts = kept ++ [eof]) ∨
  (EndsInName size ts ∧ ∃ (before : List Token) (opening closing eof : Token),
    ts = before ++ [opening, closing, eof] ∧ opening.OpensAtEnd size ∧
    closing.kind = .closing ∧ closing.isSynthetic = true ∧ closing.location.start = size ∧
    eof.kind = .eof ∧ kept = before ++ [opening, closing.toNextLine])

section Kept

variable {size : Nat} {t opening closing eof : Token} {ts kept : List Token}

theorem endsInName_cons (h : ¬ t.OpensAtEnd size) :
    EndsInName size (t :: ts) ↔ EndsInName size ts := by
  unfold EndsInName
  by_cases hk : t.kind = .opening
  · rw [List.filter_cons_of_pos (by simpa using hk), List.getLast?_cons]
    cases (ts.filter (·.kind = .opening)).getLast? with
    | some u => exact Iff.rfl
    | none =>
      -- then the token itself is the last opening parenthesis, and it is not at the end
      refine ⟨?_, fun ⟨u, hu, _⟩ => absurd hu (by simp)⟩
      rintro ⟨u, hu, hend⟩
      cases hu
      exact absurd ⟨hk, hend⟩ h
  · rw [List.filter_cons_of_neg (by simpa using hk)]

theorem Kept.last (hk : eof.kind = .eof) : Kept size [eof] [] := by
  refine .inl ⟨?_, eof, hk, rfl⟩
  rintro ⟨u, hu, -⟩
  rw [List.filter_cons_of_neg (by simp [hk])] at hu
  cases hu

theorem Kept.bareCall (ho : opening.OpensAtEnd size) (hc : closing.kind = .closing)
    (hsyn : closing.isSynthetic = true) (hstart : closing.location.start = size)
    (he : eof.kind = .eof) : Kept size [opening, closing, eof] [opening, closing.toNextLine] := by
  refine .inr ⟨⟨opening, ?_, ho.2⟩, [], opening, closing, eof, rfl, ho, hc, hsyn, hstart, he, rfl⟩
  rw [List.filter_cons_of_pos (by simpa using ho.1), List.filter_cons_of_neg (by simp [hc]),
    List.filter_cons_of_neg (by simp [he])]
  rfl

theorem Kept.cons (h : Kept size ts kept) (ht : ¬ t.OpensAtEnd size) :
    Kept size (t :: ts) (t :: kept) := by
  rcases h with ⟨hend, eof, he, rfl⟩ |
    ⟨hend, before, opening, closing, eof, rfl, ho, hc, hsyn, hstart, he, rfl⟩
  · exact .inl ⟨fun hends => hend ((endsInName_cons ht).mp hends), eof, he, rfl⟩
  · exact .inr ⟨(endsInName_cons ht).mpr hend, t :: before, opening, closing, eof, rfl, ho, hc,
      hsyn, hstart, he, rfl⟩

end Kept

/-! ### The course over the line feed -/

namespace Mode

variable {m : Mode} {t : Text} {r : Reading}

/-- A supplied opening parenthesis drops a character, if there is one. -/
theorem Reads.of_impliedOpening (h : m.Reads t r) (ht : t ≠ []) (hk : r.lexeme.kind = .opening)
    (hi : r.lexeme.implied = true) : r.lexeme.lead = [] ∧ 1 ≤ r.lexeme.consumed.length := by
  cases h with
  | impliedOpening => exact ⟨rfl, Nat.le_refl 1⟩
  | lastOpening => exact absurd rfl ht
  | opening => cases hi
  | eof | label | name | comment | lastComment | text | impliedClosing | param | emptyClosing
  | separator | closing => cases hk

end Mode

/-- A course, with the tokens that come before it. -/
def Course.behind (ts : List Token) (c : Course) : Course :=
  { c with tokens := ts ++ c.tokens }

namespace Cursor

variable {c next : Cursor} {l : Lexeme} {p : Position} {file : Option String} {b : Text}

/-- Where a cursor gets to once all the text is consumed. -/
def endPlace (c : Cursor) : Position :=
  c.place.after c.rest

/-- The cursor at the start of the text behind the line feed. -/
def onNextLine (c : Cursor) (b : Text) : Cursor :=
  ⟨c.endPlace.step '\n', b, .topLevel⟩

theorem endPlace_settle (c : Cursor) : c.settle.endPlace = c.endPlace := by
  unfold endPlace
  rw [← c.layout_append_settle, Position.after_append]
  rfl

/-- An advance does not change where the text ends. -/
theorem endPlace_of_read (h : c.advance = .read l p next) : next.endPlace = c.endPlace := by
  obtain ⟨rfl, hplace, -⟩ := advance_eq_read_iff.mp h
  rw [← endPlace_settle c, endPlace, endPlace, settle_rest_of_read h, hplace, Position.after_append]

theorem course_topLevel_nil (p : Position) (file : Option String) :
    (⟨p, [], .topLevel⟩ : Cursor).course file = ⟨[⟨.eof, [], .ofSpan p 0 file⟩], none⟩ := by
  have hadv : (⟨p, [], .topLevel⟩ : Cursor).advance =
      .read ⟨.eof, [], [], false, []⟩ p ⟨p, [], .topLevel⟩ := rfl
  exact course_of_eof hadv rfl

theorem course_impliedClose (p : Position) (t : Text) (file : Option String) :
    (⟨p, t, .impliedClose⟩ : Cursor).course file =
      ((⟨p, t, .topLevel⟩ : Cursor).course file).cons ⟨.closing, [')'], .ofSpan p 0 file⟩ := by
  have hadv := advance_of_reads (g := []) (fun _ hd => absurd hd List.not_mem_nil)
    (Mode.Reads.impliedClosing (r := t)) p
  exact course_of_read hadv Kind.noConfusion

theorem settle_append_layout {m : Mode} {g t : Text} (hg : ∀ d ∈ g, m.isLayout d = true)
    (p : Position) : (⟨p, g ++ t, m⟩ : Cursor).settle = (⟨p.after g, t, m⟩ : Cursor).settle := by
  change (⟨p.after ((g ++ t).takeWhile m.isLayout), (g ++ t).dropWhile m.isLayout, m⟩ : Cursor) = _
  rw [List.takeWhile_append_of_pos hg, List.dropWhile_append_of_pos hg, Position.after_append]
  rfl

/-- Where the end of the script was, the script behind the line feed starts. -/
theorem settle_extend_of_eof (h : c.advance = .read l p next) (hk : l.kind = .eof) (b : Text) :
    (c.extend ('\n' :: b)).settle = (c.onNextLine b).settle := by
  obtain ⟨-, -, hreads⟩ := advance_eq_read_iff.mp h
  obtain ⟨hmode, hrest, -⟩ := hreads.of_eof hk
  -- all that is left is layout, and the line feed goes on with it
  have hlayout : ∀ d ∈ c.rest ++ ['\n'], c.mode.isLayout d = true := by
    intro d hd
    rcases List.mem_append.mp hd with hd | hd
    · exact List.dropWhile_eq_nil_iff.mp hrest d hd
    · rw [List.mem_singleton.mp hd, hmode]
      decide
  calc (c.extend ('\n' :: b)).settle
      = (⟨c.place, (c.rest ++ ['\n']) ++ b, c.mode⟩ : Cursor).settle := by
        rw [List.append_assoc]
        rfl
    _ = (⟨c.place.after (c.rest ++ ['\n']), b, c.mode⟩ : Cursor).settle :=
        settle_append_layout hlayout c.place
    _ = (c.onNextLine b).settle := by
        rw [Position.after_append, hmode]
        rfl

/-- Only where nothing is left is an opening parenthesis supplied at the end. -/
theorem not_opensAtEnd_of_reads (h : c.advance = .read l p next) {t : Text} {r : Reading}
    (hreads : c.mode.Reads t r) (ht : t ≠ []) (hl : r.lexeme = l) :
    ¬ (l.token p file).OpensAtEnd c.endPlace.offset := by
  rintro ⟨hkind, hsyn, hstart⟩
  rw [Lexeme.isSynthetic_token, Bool.and_eq_true] at hsyn
  subst hl
  obtain ⟨hlead, hconsumed⟩ := hreads.of_impliedOpening ht hkind hsyn.1
  -- it stands before the character that it drops, and the end is behind that
  obtain ⟨-, hplace, -⟩ := advance_eq_read_iff.mp h
  rw [← endPlace_of_read h, endPlace, Position.offset_after, hplace, Position.offset_after,
    Lexeme.location_token, hlead, Location.start_ofSpan, Position.after_nil] at hstart
  omega

/-- A cursor with nothing left is at the end. -/
theorem eq_of_rest_nil (h : c.advance = .read l p next) (hr : next.rest = []) :
    next = ⟨c.endPlace, [], next.mode⟩ := by
  have hplace : next.place = c.endPlace := by
    rw [← endPlace_of_read h, endPlace, hr]
    rfl
  rw [← hplace, ← hr]

/-- A comment that the text ended in takes the line feed. -/
theorem advance_extend_of_lastComment {v : Text} (hp : p = c.settle.place) (hm : c.mode = .topLevel)
    (ht : c.settle.rest = ';' :: v) (hv : ∀ d ∈ v, d ≠ '\n') (b : Text) :
    (c.extend ('\n' :: b)).advance =
      .read ⟨.comment, v, [';'], false, ['\n']⟩ p (c.onNextLine b) := by
  have hne : c.settle.rest ≠ [] := by rw [ht]; exact List.cons_ne_nil _ _
  refine advance_eq_read_iff.mpr ⟨?_, ?_, ?_⟩
  · rw [settle_extend (.inl hne)]
    exact hp
  · change c.endPlace.step '\n' = p.after ((';' :: v) ++ ['\n'])
    rw [← endPlace_settle, endPlace, ht, hp, Position.after_append]
    rfl
  · rw [settle_extend (.inl hne)]
    change c.mode.Reads (c.settle.rest ++ '\n' :: b) _
    rw [hm, ht]
    exact .comment hv

/-- A name that the text ended in is followed by the line feed, which is dropped. -/
theorem advance_extend_of_lastOpening (hp : p = c.settle.place) (hm : c.mode = .afterName)
    (ht : c.settle.rest = []) (b : Text) :
    (c.extend ('\n' :: b)).advance =
      .read ⟨.opening, ['('], [], true, ['\n']⟩ p ⟨c.endPlace.step '\n', b, .impliedClose⟩ := by
  have hz : c.settle.rest ≠ [] ∨ c.mode.Settled ('\n' :: b) := by
    rw [hm]
    exact .inr (Mode.settled_of_isLayout fun _ => rfl)
  refine advance_eq_read_iff.mpr ⟨?_, ?_, ?_⟩
  · rw [settle_extend hz]
    exact hp
  · change c.endPlace.step '\n' = p.step '\n'
    rw [← endPlace_settle, endPlace, ht, hp]
    rfl
  · rw [settle_extend hz]
    change c.mode.Reads (c.settle.rest ++ '\n' :: b) _
    rw [hm, ht]
    exact .impliedOpening (by decide)

/-- **The course over the line feed**: what is kept of the tokens of the text, and then the course
of the text behind the line feed. -/
theorem course_extend_lineFeed (h : (c.course file).fault = none) (b : Text) :
    ∃ kept, Kept c.endPlace.offset (c.course file).tokens kept ∧
      (c.extend ('\n' :: b)).course file = ((c.onNextLine b).course file).behind kept := by
  fun_induction course file c with
  | case1 c e c' hadv => cases h
  | case2 c l p next hadv hk =>
    exact ⟨[], .last hk, course_congr (settle_extend_of_eof hadv hk b)⟩
  | case3 c l p next hadv hk ih =>
    obtain ⟨hp, -, hreads⟩ := advance_eq_read_iff.mp hadv
    rcases hreads.append_or_atEnd (.inr (Text.breaksRuns_lineFeed b)) with
      hsame | ⟨hnil, heof | ⟨v, ht, hv, hm, hm', rfl⟩ | ⟨ht, hm, hm', rfl⟩⟩
    · -- the line feed changes nothing here
      obtain ⟨kept, hkept, hcourse⟩ := ih h
      rw [endPlace_of_read hadv] at hkept
      have hopens : ¬ (l.token p file).OpensAtEnd c.endPlace.offset :=
        not_opensAtEnd_of_reads hadv hsame (by simp) rfl
      refine ⟨l.token p file :: kept, hkept.cons hopens, ?_⟩
      rw [course_of_read (advance_extend hadv hsame) hk, hcourse, onNextLine, endPlace_of_read hadv]
      rfl
    · exact absurd heof hk
    · have hnext := eq_of_rest_nil hadv hnil
      have hcomment : Kind.comment ≠ .eof := Kind.noConfusion
      change next.mode = .topLevel at hm'
      rw [hnext, hm', course_topLevel_nil]
      refine ⟨[_], (Kept.last rfl).cons fun hopens => absurd hopens.1 Kind.noConfusion, ?_⟩
      rw [course_of_read (advance_extend_of_lastComment hp hm ht hv b) hcomment]
      rfl
    · have hnext := eq_of_rest_nil hadv hnil
      have hopening : Kind.opening ≠ .eof := Kind.noConfusion
      change next.mode = .impliedClose at hm'
      rw [hnext, hm', course_impliedClose, course_topLevel_nil]
      have hend : c.endPlace = p := by
        rw [← endPlace_settle, endPlace, ht, hp]
        rfl
      refine ⟨[_, _], Kept.bareCall ⟨rfl, ?_, ?_⟩ rfl ?_ rfl rfl, ?_⟩
      · rw [Lexeme.isSynthetic_token]
        rfl
      · rw [hend]
        rfl
      · rw [Token.isSynthetic, Location.length_ofSpan]
        rfl
      · rw [course_of_read (advance_extend_of_lastOpening hp hm ht b) hopening, course_impliedClose,
          Token.toNextLine_ofSpan]
        rfl

end Cursor

/-! ### Whole scripts -/

theorem Position.step_after_origin (a : Text) :
    (origin.after a).step '\n' = ⟨a.length + 1, a.count '\n' + 1 + 1, 1⟩ := by
  have hoffset : (origin.after a).offset = a.length := by
    rw [offset_after]
    exact Nat.zero_add _
  rw [step, if_pos rfl, hoffset, (after_origin a).1, Nat.add_comm 1]

/-! Relocation to the start of a line leaves the columns, and is a shift by characters and lines. -/

theorem Token.relocate_lineStart {t : Token} {file : Option String} (hf : t.location.file = file)
    (offset lines : Nat) :
    t.relocate ⟨offset, lines + 1, 1⟩ file = t.shift offset lines := by
  subst hf
  simp [Token.relocate, Location.relocate, Token.shift]

theorem Fault.relocate_lineStart {f : Fault} {file : Option String} (hf : f.file = file)
    (offset lines : Nat) :
    f.relocate ⟨offset, lines + 1, 1⟩ file = f.shift offset lines := by
  subst hf
  simp [Fault.relocate, Position.relocate, Fault.shift]

/-- The course of a text at the start of a line is its own course, shifted. -/
theorem Cursor.course_lineStart (b : Text) (file : Option String) (offset lines : Nat) :
    (⟨⟨offset, lines + 1, 1⟩, b, .topLevel⟩ : Cursor).course file =
      ⟨((Cursor.ofText b).course file).tokens.map (Token.shift offset lines),
        ((Cursor.ofText b).course file).fault.map (Fault.shift offset lines)⟩ := by
  have hb : (⟨offset, lines + 1, 1⟩ : Position).Sound := ⟨Nat.le_add_left 1 lines, Nat.le_refl 1⟩
  obtain ⟨htokens, hfault⟩ := Cursor.file_course (Cursor.ofText b) file
  rw [← Cursor.relocate_ofText hb, Cursor.course_relocate hb Position.sound_origin, Course.relocate,
    Course.mk.injEq]
  refine ⟨List.map_congr_left fun t ht => Token.relocate_lineStart (htokens t ht) offset lines, ?_⟩
  cases hf : ((Cursor.ofText b).course file).fault with
  | none => rfl
  | some f => exact congrArg some (Fault.relocate_lineStart (hfault f hf) offset lines)

theorem Course.result_eq_ok_iff {c : Course} {ts : List Token} :
    c.result = .ok ts ↔ c.fault = none ∧ c.tokens = ts := by
  rw [result]
  cases c.fault <;> simp

theorem Course.result_eq_error_iff {c : Course} {f : Fault} :
    c.result = .error f ↔ c.fault = some f := by
  rw [result]
  cases c.fault <;> simp

/-- **Joining scripts by a line feed joins their tokens.** If the first script can be tokenized, the
tokens of the whole are what is kept of its tokens (`Kept`) and then the tokens of the second
script, shifted by the characters and the lines of the first one and the line feed. If the second
script cannot be tokenized, nor can the whole, and the fault is shifted likewise: cause and column
stay. -/
theorem joined_by_lineFeed (conf : Config) (file : Option String) (a b : Text) (ta : List Token)
    (ha : (conf.tokenize a file).1 = .ok ta) :
    ∃ kept, Kept a.length ta kept ∧
      (∀ tb, (conf.tokenize b file).1 = .ok tb →
        (conf.tokenize (a ++ '\n' :: b) file).1 =
          .ok (kept ++ tb.map (Token.shift (a.length + 1) (a.count '\n' + 1)))) ∧
      (∀ f, (conf.tokenize b file).1 = .error f →
        (conf.tokenize (a ++ '\n' :: b) file).1 =
          .error (f.shift (a.length + 1) (a.count '\n' + 1))) := by
  simp only [Config.tokenize_eq_course, Course.result_eq_ok_iff, Course.result_eq_error_iff] at ha ⊢
  obtain ⟨hfault, rfl⟩ := ha
  obtain ⟨kept, hkept, hcourse⟩ := Cursor.course_extend_lineFeed hfault b
  have hsize : (Cursor.ofText a).endPlace.offset = a.length := by
    rw [Cursor.endPlace, Position.offset_after]
    exact Nat.zero_add _
  rw [hsize] at hkept
  change (Cursor.ofText (a ++ '\n' :: b)).course file = Course.behind kept
    ((⟨(Position.origin.after a).step '\n', b, .topLevel⟩ : Cursor).course file) at hcourse
  rw [Position.step_after_origin, Cursor.course_lineStart] at hcourse
  rw [hcourse]
  refine ⟨kept, hkept, ?_, ?_⟩
  · rintro tb ⟨hok, rfl⟩
    exact ⟨congrArg (Option.map _) hok, rfl⟩
  · rintro f hf
    exact congrArg (Option.map _) hf

/-- A call at the very end of the first script, and a label in the second. -/
theorem joined_by_lineFeed_last_call :
    ∃ ta kept, (Config.default.tokenize ['@', 'f'] none).1 = .ok ta ∧ EndsInName 2 ta ∧
      Kept 2 ta kept ∧ (Config.default.tokenize ['@', 'f', '\n', 'B'] none).1 =
        .ok (kept ++ [⟨.label, ['B'], .ofSpan ⟨3, 2, 1⟩ 1 none⟩,
          ⟨.eof, [], .ofSpan ⟨4, 2, 2⟩ 0 none⟩]) := by
  have ha : (Config.default.tokenize ['@', 'f'] none).1 = .ok
      [⟨.name, ['f'], .ofSpan ⟨1, 1, 2⟩ 1 none⟩, ⟨.opening, ['('], .ofSpan ⟨2, 1, 3⟩ 0 none⟩,
        ⟨.closing, [')'], .ofSpan ⟨2, 1, 3⟩ 0 none⟩, ⟨.eof, [], .ofSpan ⟨2, 1, 3⟩ 0 none⟩] := by
    have hname : (Cursor.ofText ['@', 'f']).advance =
      .read ⟨.name, ['f'], ['@'], false, []⟩ .origin ⟨⟨2, 1, 3⟩, [], .afterName⟩ := rfl
    have hopening : (⟨⟨2, 1, 3⟩, [], .afterName⟩ : Cursor).advance =
      .read ⟨.opening, ['('], [], true, []⟩ ⟨2, 1, 3⟩ ⟨⟨2, 1, 3⟩, [], .impliedClose⟩ := rfl
    rw [Config.tokenize_eq_course, Cursor.course_of_read hname (by decide),
      Cursor.course_of_read hopening (by decide), Cursor.course_impliedClose,
      Cursor.course_topLevel_nil]
    rfl
  have hb : (Config.default.tokenize ['B'] none).1 = .ok
      [⟨.label, ['B'], .ofSpan .origin 1 none⟩, ⟨.eof, [], .ofSpan ⟨1, 1, 2⟩ 0 none⟩] := by
    have hlabel : (Cursor.ofText ['B']).advance =
      .read ⟨.label, ['B'], [], false, []⟩ .origin ⟨⟨1, 1, 2⟩, [], .topLevel⟩ := rfl
    rw [Config.tokenize_eq_course, Cursor.course_of_read hlabel (by decide),
      Cursor.course_topLevel_nil]
    rfl
  obtain ⟨kept, hkept, hjoined, -⟩ := joined_by_lineFeed Config.default none _ ['B'] _ ha
  exact ⟨_, kept, ha, ⟨_, rfl, rfl, rfl⟩, hkept, hjoined _ hb⟩

end Dialogue
