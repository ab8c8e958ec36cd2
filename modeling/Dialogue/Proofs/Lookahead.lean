import Dialogue.Proofs.Joining

/-!
# One character ahead

A rule of reading looks at what it consumes and at the first character behind it, and never further.
So a run can be *replayed* on a script that differs from the first one only behind the place that
the run has come to: as long as the two go on with the same character, or both end there, the same
tokens come out at the same places (`Cursor.Run.exchange`). What is read next may then be something
else, if it starts in the same way (`Cursor.Run.reread`).

This is how two scripts are compared that have a beginning in common. The tokens of the beginning
are those of a run, and the tokens of the whole are these and then the course of the cursor that the
run ends in (`Cursor.Run.course_eq`). Conversely, every token of a course is read at the end of a
run (`Cursor.Run.exists_of_course`). `Source.course` is the course of a whole script, as a lexer
that is opened on it delivers it.
-/

namespace Dialogue

/-! ### Rules and the character ahead -/

theorem Text.Stops.congr {p : Char → Bool} {t z : Text} (h : Stops p t)
    (hz : z.head? = t.head?) : Stops p z := by
  unfold Stops at h ⊢
  rw [hz]
  exact h

namespace Mode

variable {m : Mode} {t z : Text} {r : Reading} {e : Cause}

/-- **A rule applies whatever follows**, if it starts with the same character. -/
theorem Reads.exchange (h : m.Reads t r) (hz : z.head? = r.rest.head?) :
    m.Reads (r.lexeme.consumed ++ z) ⟨r.lexeme, r.mode, z⟩ := by
  cases h with
  -- three rules have the end of the text in them, and then nothing follows
  | eof =>
    obtain rfl := List.head?_eq_none_iff.mp hz
    exact .eof
  | lastComment hv =>
    obtain rfl := List.head?_eq_none_iff.mp hz
    simpa [Lexeme.consumed, Lexeme.body] using Reads.lastComment hv
  | lastOpening =>
    obtain rfl := List.head?_eq_none_iff.mp hz
    exact .lastOpening
  -- what stops a run is the character that follows it
  | label hne hv hr =>
    simpa [Lexeme.consumed, Lexeme.body] using Reads.label hne hv (hr.congr hz)
  | name hv hr => simpa [Lexeme.consumed, Lexeme.body] using Reads.name hv (hr.congr hz)
  | text hv hr hb hp hcomma hsemi =>
    simpa [Lexeme.consumed, Lexeme.body] using Reads.text hv (hr.congr hz) hb hp hcomma hsemi
  | param hne hv hr =>
    simpa [Lexeme.consumed, Lexeme.body] using Reads.param hne hv (hr.congr hz)
  -- and the others do not look ahead at all
  | comment hv => simpa [Lexeme.consumed, Lexeme.body] using Reads.comment (r := z) hv
  | opening => exact .opening
  | impliedOpening hc => exact .impliedOpening hc
  | impliedClosing => exact .impliedClosing
  | emptyClosing => exact .emptyClosing
  | separator => exact .separator
  | closing => exact .closing

/-- **What is stuck is stuck at one character**, whatever follows it. -/
theorem Fails.exchange (h : m.Fails t e) (hz : z.head? = t.head?) : m.Fails z e := by
  cases h with
  | endInList =>
    obtain rfl := List.head?_eq_none_iff.mp hz
    exact .endInList
  | endAfterParam =>
    obtain rfl := List.head?_eq_none_iff.mp hz
    exact .endAfterParam
  | strayComma =>
    obtain ⟨z, rfl⟩ := List.head?_eq_some_iff.mp hz
    exact .strayComma
  | commaInList =>
    obtain ⟨z, rfl⟩ := List.head?_eq_some_iff.mp hz
    exact .commaInList
  | junkAfterParam hb hcomma hparen =>
    obtain ⟨z, rfl⟩ := List.head?_eq_some_iff.mp hz
    exact .junkAfterParam hb hcomma hparen

end Mode

/-! ### Replaying a run -/

namespace Cursor

variable {file : Option String} {s t z : Text} {ts : List Token} {c next : Cursor} {l : Lexeme}
  {p : Position} {r : Reading} {e : Cause}

theorem advance_of_fails {m : Mode} {g : Text} (hg : ∀ d ∈ g, m.isLayout d = true)
    (h : m.Fails t e) (p : Position) :
    (⟨p, g ++ t, m⟩ : Cursor).advance = .stuck e ⟨p.after g, t, m⟩ := by
  have hsettle : (⟨p, g ++ t, m⟩ : Cursor).settle = ⟨p.after g, t, m⟩ := by
    rw [settle_append_layout hg]
    exact settle_of_settled h.settled
  rw [advance_eq_stuck_iff, hsettle]
  exact ⟨rfl, h⟩

theorem head?_append_congr (u : Text) (hz : z.head? = t.head?) :
    (u ++ z).head? = (u ++ t).head? := by
  rw [List.head?_append, List.head?_append, hz]

/-! How much of the script has been passed, once the layout and once a lexeme are behind. -/

theorem StandsIn.take_settle (h : c.StandsIn s) :
    s.take c.settle.place.offset = s.take c.place.offset ++ c.layout := by
  obtain ⟨u, rfl, hp⟩ := h
  have hoff : c.settle.place.offset = u.length + c.layout.length := by
    rw [Cursor.settle, Position.offset_after, offset_of_place hp]
  rw [hoff, offset_of_place hp, List.take_left, ← c.layout_append_settle, ← List.append_assoc,
    ← List.length_append, List.take_left]

theorem StandsIn.take_of_read (h : c.StandsIn s) (hadv : c.advance = .read l p next) :
    s.take next.place.offset = s.take c.settle.place.offset ++ l.consumed := by
  obtain ⟨u, hs, -, hp, hnext⟩ := h.exists_of_read hadv
  obtain ⟨rfl, -, -⟩ := advance_eq_read_iff.mp hadv
  rw [offset_of_place hp, offset_of_place hnext, hs, List.take_left,
    List.append_assoc (u ++ c.layout), List.take_left]

/-- **A run can be replayed** on every script that agrees with the first one up to the cursor and in
the character that is next. -/
theorem Run.exchange (h : Run file s ts c) (hz : z.head? = c.rest.head?) :
    Run file (s.take c.place.offset ++ z) ts { c with rest := z } := by
  induction h generalizing z with
  | start => exact .start
  | @read ts c next l p hrun hadv ih =>
    obtain ⟨rfl, hplace, hreads⟩ := advance_eq_read_iff.mp hadv
    -- before the advance, the layout and all that was consumed are still ahead
    have hbefore := ih (z := c.layout ++ (l.consumed ++ z)) (by
      rw [← c.layout_append_settle, settle_rest_of_read hadv]
      exact head?_append_congr _ (head?_append_congr _ hz))
    have hread := advance_of_reads (fun _ => isLayout_of_mem_layout) (hreads.exchange hz) c.place
    have hafter := hbefore.read hread
    change Run file _ (ts ++ [l.token c.settle.place file])
      ⟨c.settle.place.after l.consumed, z, next.mode⟩ at hafter
    rw [← hplace] at hafter
    rw [hrun.standsIn.take_of_read hadv, hrun.standsIn.take_settle, List.append_assoc,
      List.append_assoc]
    exact hafter
  | @stuck ts c c' e hrun hadv ih =>
    obtain ⟨rfl, hfails⟩ := advance_eq_stuck_iff.mp hadv
    have hbefore := ih (z := c.layout ++ z) (by
      rw [← c.layout_append_settle]
      exact head?_append_congr _ hz)
    rw [hrun.standsIn.take_settle, List.append_assoc]
    exact hbefore.stuck
      (advance_of_fails (fun _ => isLayout_of_mem_layout) (hfails.exchange hz) c.place)

/-- **A run can be replayed and go on differently**, if what is read then starts with the character
that was next behind the layout. -/
theorem Run.reread (h : Run file s ts c) (hr : c.mode.Reads t r)
    (ht : t.head? = c.settle.rest.head?) :
    Run file (s.take c.settle.place.offset ++ t) (ts ++ [r.lexeme.token c.settle.place file])
      ⟨c.settle.place.after r.lexeme.consumed, r.rest, r.mode⟩ := by
  have hrun := h.exchange (z := c.layout ++ t) (by
    rw [← c.layout_append_settle]
    exact head?_append_congr _ ht)
  rw [h.standsIn.take_settle, List.append_assoc]
  exact hrun.read (advance_of_reads (fun _ => isLayout_of_mem_layout) hr c.place)

/-! ### Runs and courses -/

/-- **The course of a script** is what a run has read, and then the course of its cursor. The run
must not have read the end, which is where a course ends. -/
theorem Run.course_eq (h : Run file s ts c) (hts : ∀ t ∈ ts, t.kind ≠ .eof) :
    (ofText s).course file = (c.course file).behind ts := by
  induction h with
  | start => rfl
  | @read ts c next l p _ hadv ih =>
    have hk : l.kind ≠ .eof := hts _ (List.mem_append_right _ List.mem_cons_self)
    rw [ih fun t ht => hts t (List.mem_append_left _ ht), course_of_read hadv hk]
    unfold Course.behind Course.cons
    rw [List.append_assoc]
    rfl
  | @stuck ts c c' e _ hadv ih =>
    obtain ⟨rfl, -⟩ := advance_eq_stuck_iff.mp hadv
    rw [ih hts, course_congr c.settle_settle]

/-- **Every token of a course is read at the end of a run.** -/
theorem Run.exists_of_course {us vs : List Token} {t : Token} (h : Run file s ts c)
    (hts : ∀ t ∈ ts, t.kind ≠ .eof) (hcut : (c.course file).tokens = us ++ t :: vs) :
    ∃ d l p next, Run file s (ts ++ us) d ∧ (∀ t ∈ ts ++ us, t.kind ≠ .eof) ∧
      d.advance = .read l p next ∧ t = l.token p file := by
  fun_induction course file c generalizing ts us with
  | case1 c e c' hadv => simp at hcut
  | case2 c l p next hadv hk =>
    obtain ⟨rfl, rfl, -⟩ : us = [] ∧ l.token p file = t ∧ vs = [] := by
      cases us with
      | nil => simpa using hcut
      | cons u us => simp at hcut
    rw [List.append_nil]
    exact ⟨c, l, p, next, h, hts, hadv, rfl⟩
  | case3 c l p next hadv hk ih =>
    cases us with
    | nil =>
      rw [List.append_nil]
      exact ⟨c, l, p, next, h, hts, hadv, (List.cons.inj hcut).1.symm⟩
    | cons u us =>
      -- the token comes later, behind one that is not the end either
      obtain ⟨rfl, hbehind⟩ := List.cons.inj hcut
      have hmore : ∀ t ∈ ts ++ [l.token p file], t.kind ≠ .eof :=
        List.forall_mem_append.mpr ⟨hts, List.forall_mem_singleton.mpr hk⟩
      have hlater := ih (h.read hadv) hmore hbehind
      rw [List.append_assoc] at hlater
      exact hlater

end Cursor

/-- **The course of a script**, as a lexer that is opened on it delivers it. -/
def Source.course (src : Source) (s : Text) : Course :=
  match Lexer.ofText src s with
  | .ok l => l.tokenize.course
  | .error f => ⟨[], some f⟩

theorem Source.course_eq (src : Source) (s : Text) :
    src.course s = (Cursor.ofText s).course src.file := by
  unfold Source.course
  cases h : Lexer.ofText src s with
  | ok l =>
    obtain ⟨lexeme, p, next, hadv, rfl⟩ := Lexer.ofText_eq_ok_iff.mp h
    exact Lexer.course_tokenize src hadv
  | error f =>
    obtain ⟨e, c, hadv, rfl⟩ := Lexer.ofText_eq_error_iff.mp h
    exact (Cursor.course_of_stuck hadv).symm

/-! ### Behind a common beginning

Names and comments have a mark in front, which is one character and decides what follows. So if the
mark is where two scripts part, it is read as a mark in both of them. -/

/-- Only outside of calls are there names and comments, and their mark is one character. -/
theorem Mode.Reads.of_marked {m : Mode} {t : Text} {r : Reading} (h : m.Reads t r)
    (hk : r.lexeme.kind = .name ∨ r.lexeme.kind = .comment) :
    m = .topLevel ∧ r.lexeme.lead.length = 1 := by
  cases h with
  | name | comment | lastComment => exact ⟨rfl, rfl⟩
  | eof | label | text | opening | impliedOpening | lastOpening | impliedClosing | param
  | emptyClosing | separator | closing => rcases hk with hk | hk <;> cases hk

theorem Cursor.StandsIn.eq_of_offset {c : Cursor} {u x : Text} (h : c.StandsIn (u ++ x))
    (hoff : c.place.offset = u.length) : c.rest = x ∧ c.place = Position.origin.after u := by
  obtain ⟨t, hcut, hp⟩ := h
  rw [offset_of_place hp] at hoff
  obtain ⟨rfl, rfl⟩ := List.append_inj hcut hoff.symm
  exact ⟨rfl, hp⟩

/-- **What a mark starts can be exchanged.** Let a script have a name or a comment with its mark
behind `u`. If the script goes on differently from the mark on, but with something that starts with
the same character, then it has the same tokens before the mark, the token of what is there now, and
the course of what follows. -/
theorem Source.course_exchange {src : Source} {u x : Text} {us vs : List Token} {t : Token}
    (hcut : (src.course (u ++ x)).tokens = us ++ t :: vs)
    (hk : t.kind = .name ∨ t.kind = .comment) (hstart : t.location.start = (u.length + 1 : Nat))
    {x' : Text} {r : Reading} (hr : Mode.topLevel.Reads x' r) (hx : x'.head? = x.head?)
    (hr' : r.lexeme.kind ≠ .eof) :
    src.course (u ++ x') = ((⟨(Position.origin.after u).after r.lexeme.consumed, r.rest,
      r.mode⟩ : Cursor).course src.file).behind
        (us ++ [r.lexeme.token (Position.origin.after u) src.file]) := by
  rw [Source.course_eq] at hcut ⊢
  obtain ⟨c, l, p, next, hrun, hus, hadv, rfl⟩ :=
    Cursor.Run.start.exists_of_course (List.forall_mem_nil _) hcut
  obtain ⟨rfl, -, hreads⟩ := Cursor.advance_eq_read_iff.mp hadv
  obtain ⟨hmode, hlead⟩ := hreads.of_marked hk
  -- the mark stands behind `u`, so this is where the cursor has settled
  have hoff : c.settle.place.offset = u.length := by
    rw [Lexeme.location_token, Location.start_ofSpan, Position.offset_after, hlead] at hstart
    omega
  obtain ⟨hrest, hplace⟩ := hrun.standsIn.settle.eq_of_offset hoff
  have hnew := hrun.reread (hmode.symm ▸ hr) (by rw [hrest, hx])
  rw [hoff, List.take_left, hplace] at hnew
  exact hnew.course_eq (List.forall_mem_append.mpr ⟨hus, List.forall_mem_singleton.mpr hr'⟩)

end Dialogue
