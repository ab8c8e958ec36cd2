import Dialogue.Proofs.Quoting
import Dialogue.Proofs.Runs

/-!
# Which fault comes when

Whether the next token can be read, and what is reported if it cannot, is told by two things: the
token that was produced last, and what comes up next in the script once blanks, and outside of calls
stray parentheses, are passed over (`upcoming`). `Classified` lists the conditions under which a
fault of each category and message is raised, in terms of these two alone, and says that there is no
other fault. It holds for opening a lexer and for the next pop at the end of every run
(`faults_classified`).

The mode of the cursor, which decides in the program, does not appear. It is a function of the last
token (`Cursor.Run.mode_eq`), so what remains is to compare the rules for being stuck in a mode with
the conditions on the last token (`Mode.fails_iff_due`). One thing the mode does not tell: behind
the end of the script a comma would be stray as well, but there is nothing left to read
(`Cursor.Run.rest_of_eof`).
-/

namespace Dialogue

/-! ### What comes up behind the last token -/

/-- Whether the last token leaves the script outside of calls. Nothing read yet counts as well. -/
def outsideCalls (last : Option Token) : Bool :=
  last.all fun t => t.kind ∈ [Kind.text, .comment, .label, .closing, .eof]

/-- **What comes up next**: the rest of the script behind the blanks, and outside of calls behind
stray parentheses too. -/
def upcoming (last : Option Token) (rest : Text) : Text :=
  if outsideCalls last then rest.dropWhile fun c => isBlank c || isParen c
  else rest.dropWhile isBlank

/-- A comma next would be stray. -/
def CommaIsStray (last : Option Token) : Prop :=
  ∀ t ∈ last, t.kind ∈ [Kind.text, .comment, .label, .closing]

/-- A parameter is due, or the end of its list. -/
def ParamIsDue (last : Option Token) : Prop :=
  ∃ t ∈ last, t.kind = .opening ∧ t.isSynthetic = false ∨ t.kind = .separator

/-- The last token is a parameter. -/
def BehindParam (last : Option Token) : Prop :=
  ∃ t ∈ last, t.kind = .param

/-! ### The conditions -/

/-- A fault of a category is raised with a message. -/
def Raises (fault : Option Fault) (category : Category) (message : String) : Prop :=
  ∃ f ∈ fault, f.report.category = category ∧ f.report.message = message

/-- **Faults are classified exactly**: for each category and message there is a condition on the
last token and what comes up next that is met exactly when the fault is raised. -/
structure Classified (last : Option Token) (next : Text) (fault : Option Fault) : Prop where
  /-- A stray comma is the only unexpected token. -/
  unexpected : (∃ f ∈ fault, f.report.category = .unexpected) ↔
    next.head? = some ',' ∧ CommaIsStray last
  /-- The one message for it. -/
  unexpected_message : ∀ f ∈ fault, f.report.category = .unexpected →
    f.report.message = "Unexpected token FUNCTION_PARAM_SEPARATOR"
  /-- The script ends where a parameter is due. -/
  endInList : Raises fault .malformed "Malformed function: got end of buffer, expecting ')'" ↔
    next = [] ∧ ParamIsDue last
  /-- A comma where a parameter is due. -/
  commaInList : Raises fault .malformed "Unexpected token in function parameter list" ↔
    next.head? = some ',' ∧ ParamIsDue last
  /-- The script ends behind a parameter. -/
  endAfterParam :
    Raises fault .malformed "Malformed function: got end of buffer, expecting ',' or ')'" ↔
      next = [] ∧ BehindParam last
  /-- Any character but a comma or a closing parenthesis behind a parameter. -/
  junkAfterParam : ∀ c,
    Raises fault .malformed
        ("Malformed function: got " ++ Text.quoted [c] ++ ", expecting ',' or ')'") ↔
      next.head? = some c ∧ c ≠ ',' ∧ c ≠ ')' ∧ BehindParam last
  /-- In all other cases there is no fault. -/
  none_iff : fault = none ↔
    ¬ (next.head? = some ',' ∧ CommaIsStray last) ∧
    ¬ ((next = [] ∨ next.head? = some ',') ∧ ParamIsDue last) ∧
    ¬ ((next = [] ∨ ∃ c, next.head? = some c ∧ c ≠ ',' ∧ c ≠ ')') ∧ BehindParam last)

/-- The condition for a cause. -/
def Cause.Due (last : Option Token) (next : Text) : Cause → Prop
  | strayComma => next.head? = some ',' ∧ CommaIsStray last
  | endInList => next = [] ∧ ParamIsDue last
  | commaInList => next.head? = some ',' ∧ ParamIsDue last
  | endAfterParam => next = [] ∧ BehindParam last
  | junkAfterParam c => next.head? = some c ∧ c ≠ ',' ∧ c ≠ ')' ∧ BehindParam last

/-- The category and the message of a fault tell its cause. -/
theorem raises_iff {fault : Option Fault} (e : Cause) :
    Raises fault e.category e.message ↔ fault.map Fault.cause = some e := by
  rw [Option.map_eq_some_iff]
  refine ⟨?_, ?_⟩
  · rintro ⟨f, hf, -, hmessage⟩
    exact ⟨f, hf, Cause.message_injective hmessage⟩
  · rintro ⟨f, hf, rfl⟩
    exact ⟨f, hf, rfl, rfl⟩

/-- Only a stray comma is reported as an unexpected token. -/
theorem Cause.category_eq_unexpected_iff {e : Cause} :
    e.category = .unexpected ↔ e = .strayComma := by
  cases e <;> simp [category]

/-- **Where each cause has its condition, faults are classified.** -/
theorem classified_of_due {last : Option Token} {next : Text} {fault : Option Fault}
    (h : ∀ e, fault.map Fault.cause = some e ↔ e.Due last next) : Classified last next fault where
  unexpected := by
    rw [show (next.head? = some ',' ∧ CommaIsStray last) = Cause.strayComma.Due last next from rfl,
      ← h, Option.map_eq_some_iff]
    exact exists_congr fun f => and_congr_right fun _ => Cause.category_eq_unexpected_iff
  unexpected_message := by
    intro f _ hf
    have hcause : f.cause = .strayComma := Cause.category_eq_unexpected_iff.mp hf
    rw [Fault.report, hcause]
    rfl
  endInList := (raises_iff .endInList).trans (h .endInList)
  commaInList := (raises_iff .commaInList).trans (h .commaInList)
  endAfterParam := (raises_iff .endAfterParam).trans (h .endAfterParam)
  junkAfterParam := fun c => (raises_iff (.junkAfterParam c)).trans (h (.junkAfterParam c))
  none_iff := by
    -- there are no causes but the five
    have hnone : fault = none ↔ ∀ e : Cause, ¬ e.Due last next := by
      rw [← Option.map_eq_none_iff (f := Fault.cause), Option.eq_none_iff_forall_ne_some]
      exact forall_congr' fun e => not_congr (h e)
    rw [hnone]
    refine ⟨?_, ?_⟩
    · intro hdue
      refine ⟨hdue .strayComma, ?_, ?_⟩
      · rintro ⟨hend | hcomma, hlast⟩
        · exact hdue .endInList ⟨hend, hlast⟩
        · exact hdue .commaInList ⟨hcomma, hlast⟩
      · rintro ⟨hend | ⟨c, hc, hne, hne'⟩, hlast⟩
        · exact hdue .endAfterParam ⟨hend, hlast⟩
        · exact hdue (.junkAfterParam c) ⟨hc, hne, hne', hlast⟩
    · rintro ⟨hstray, hlist, hparam⟩ e hdue
      cases e with
      | strayComma => exact hstray hdue
      | endInList => exact hlist ⟨.inl hdue.1, hdue.2⟩
      | commaInList => exact hlist ⟨.inr hdue.1, hdue.2⟩
      | endAfterParam => exact hparam ⟨.inl hdue.1, hdue.2⟩
      | junkAfterParam c =>
        obtain ⟨hc, hne, hne', hlast⟩ := hdue
        exact hparam ⟨.inr ⟨c, hc, hne, hne'⟩, hlast⟩

/-! ### The last token in place of the mode -/

section LastToken

variable {last : Option Token}

/-! Each condition on the last token is a mode behind it. -/

theorem outsideCalls_iff : outsideCalls last = true ↔
    last.elim Mode.topLevel Mode.behind = .topLevel := by
  cases last with
  | none => simp [outsideCalls]
  | some t =>
    rw [outsideCalls, Option.all_some, decide_eq_true_iff, Option.elim_some, Mode.behind_eq_iff]

theorem commaIsStray_iff : CommaIsStray last ↔
    last.elim Mode.topLevel Mode.behind = .topLevel ∧ ∀ t ∈ last, t.kind ≠ .eof := by
  rw [← outsideCalls_iff, outsideCalls, CommaIsStray]
  cases last with
  | none => simp
  | some t =>
    -- the two lists of kinds differ by the end of the script
    simp only [Option.mem_def, Option.some.injEq, forall_eq', Option.all_some, decide_eq_true_iff]
    cases t.kind <;> simp

theorem paramIsDue_iff : ParamIsDue last ↔ last.elim Mode.topLevel Mode.behind = .inList := by
  cases last with
  | none => simp [ParamIsDue]
  | some t =>
    rw [ParamIsDue, Option.elim_some, Mode.behind_eq_iff]
    simp

theorem behindParam_iff : BehindParam last ↔
    last.elim Mode.topLevel Mode.behind = .afterParam := by
  cases last with
  | none => simp [BehindParam]
  | some t =>
    rw [BehindParam, Option.elim_some, Mode.behind_eq_iff]
    simp

end LastToken

namespace Mode

/-- **The rules for being stuck, read as conditions.** -/
theorem fails_iff {m : Mode} {t : Text} {e : Cause} : m.Fails t e ↔
    match e with
    | .strayComma => t.head? = some ',' ∧ m = .topLevel
    | .endInList => t = [] ∧ m = .inList
    | .commaInList => t.head? = some ',' ∧ m = .inList
    | .endAfterParam => t = [] ∧ m = .afterParam
    | .junkAfterParam c =>
      t.head? = some c ∧ c ≠ ',' ∧ c ≠ ')' ∧ m = .afterParam ∧ isBlank c = false := by
  refine ⟨?_, ?_⟩
  · intro h
    cases h with
    | strayComma | endInList | commaInList | endAfterParam => exact ⟨rfl, rfl⟩
    | junkAfterParam hb hcomma hparen => exact ⟨rfl, hcomma, hparen, rfl, hb⟩
  · intro h
    cases e with
    | strayComma =>
      obtain ⟨ht, rfl⟩ := h
      obtain ⟨r, rfl⟩ := List.head?_eq_some_iff.mp ht
      exact .strayComma
    | endInList =>
      obtain ⟨rfl, rfl⟩ := h
      exact .endInList
    | commaInList =>
      obtain ⟨ht, rfl⟩ := h
      obtain ⟨r, rfl⟩ := List.head?_eq_some_iff.mp ht
      exact .commaInList
    | endAfterParam =>
      obtain ⟨rfl, rfl⟩ := h
      exact .endAfterParam
    | junkAfterParam c =>
      obtain ⟨ht, hcomma, hparen, rfl, hb⟩ := h
      obtain ⟨r, rfl⟩ := List.head?_eq_some_iff.mp ht
      exact .junkAfterParam hb hcomma hparen

/-- In every mode that has layout, what comes up is what is behind the layout. -/
theorem upcoming_eq {last : Option Token} (rest : Text)
    (hname : last.elim topLevel behind ≠ afterName)
    (himplied : last.elim topLevel behind ≠ impliedClose) :
    upcoming last rest = rest.dropWhile (last.elim topLevel behind).isLayout := by
  cases hm : last.elim topLevel behind with
  | topLevel => rw [upcoming, if_pos (outsideCalls_iff.mpr hm)]; rfl
  | inList | afterParam =>
    have hinside : ¬ outsideCalls last = true := by
      rw [outsideCalls_iff, hm]
      decide
    rw [upcoming, if_neg hinside]
    rfl
  | afterName => exact absurd hm hname
  | impliedClose => exact absurd hm himplied

/-- **Being stuck in the mode behind the last token is what the conditions say**, as long as nothing
is left behind the end of the script. -/
theorem fails_iff_due {last : Option Token} {rest : Text} {e : Cause}
    (heof : ∀ t ∈ last, t.kind = .eof → rest = []) :
    (last.elim topLevel behind).Fails
        (rest.dropWhile (last.elim topLevel behind).isLayout) e ↔
      e.Due last (upcoming last rest) := by
  rw [fails_iff]
  -- Every condition fixes a mode that has layout, so that both sides look at the same text.
  cases e with
  | strayComma =>
    simp only [Cause.Due, commaIsStray_iff]
    refine ⟨?_, ?_⟩
    · rintro ⟨hcomma, hm⟩
      rw [upcoming_eq rest (by simp [hm]) (by simp [hm])]
      refine ⟨hcomma, hm, fun t ht hk => ?_⟩
      -- behind the end of the script there is no comma
      rw [heof t ht hk] at hcomma
      cases hcomma
    · rintro ⟨hcomma, hm, -⟩
      rw [upcoming_eq rest (by simp [hm]) (by simp [hm])] at hcomma
      exact ⟨hcomma, hm⟩
  | endInList | commaInList =>
    simp only [Cause.Due, paramIsDue_iff]
    exact and_congr_left fun hm => by rw [upcoming_eq rest (by simp [hm]) (by simp [hm])]
  | endAfterParam =>
    simp only [Cause.Due, behindParam_iff]
    exact and_congr_left fun hm => by rw [upcoming_eq rest (by simp [hm]) (by simp [hm])]
  | junkAfterParam c =>
    simp only [Cause.Due, behindParam_iff]
    refine ⟨?_, ?_⟩
    · rintro ⟨hc, hcomma, hparen, hm, -⟩
      rw [upcoming_eq rest (by simp [hm]) (by simp [hm])]
      exact ⟨hc, hcomma, hparen, hm⟩
    · rintro ⟨hc, hcomma, hparen, hm⟩
      rw [upcoming_eq rest (by simp [hm]) (by simp [hm])] at hc
      refine ⟨hc, hcomma, hparen, hm, ?_⟩
      -- what is behind the blanks does not start with one
      have hstops := Text.stops_dropWhile (last.elim topLevel behind).isLayout rest c hc
      rw [hm] at hstops
      exact hstops

end Mode

/-! ### Faults along a run -/

theorem Mode.Reads.rest_of_eof {m : Mode} {u : Text} {r : Reading} (h : m.Reads u r)
    (hk : r.lexeme.kind = .eof) : r.rest = [] := by
  cases h with
  | eof => rfl
  | label | name | comment | lastComment | text | opening | impliedOpening | lastOpening
  | impliedClosing | param | emptyClosing | separator | closing => cases hk

/-- Only a parameter leads behind a parameter. It consumes no more than it covers, and it is the
longest that there is. -/
theorem Mode.Reads.of_afterParam {m : Mode} {u : Text} {r : Reading} (h : m.Reads u r)
    (hm : r.mode = .afterParam) :
    r.lexeme.trail = [] ∧ Text.Stops isParam r.rest := by
  cases h with
  | param _ _ hr => exact ⟨rfl, hr⟩
  | eof | label | name | comment | lastComment | text | opening | impliedOpening | lastOpening
  | impliedClosing | emptyClosing | separator | closing => cases hm

namespace Cursor

variable {file : Option String} {s : Text} {ts : List Token} {c : Cursor} {t : Token}

/-- **Behind the end of a script nothing is left.** -/
theorem Run.rest_of_eof (h : Run file s ts c) (ht : t ∈ ts.getLast?) (hk : t.kind = .eof) :
    c.rest = [] := by
  induction h with
  | start => cases ht
  | @read ts c next l p _ hadv _ =>
    obtain ⟨-, -, hreads⟩ := advance_eq_read_iff.mp hadv
    rw [List.getLast?_concat] at ht
    cases ht
    exact hreads.rest_of_eof hk
  | stuck _ hadv ih =>
    -- passing over layout in nothing leaves nothing
    obtain ⟨rfl, -⟩ := advance_eq_stuck_iff.mp hadv
    rw [settle, ih ht]
    rfl

/-- **At the end of every run, the cursor is stuck exactly when the conditions say so.** -/
theorem Run.stuck_iff_due (h : Run file s ts c) {e : Cause} :
    (∃ c', c.advance = .stuck e c') ↔ e.Due ts.getLast? (upcoming ts.getLast? c.rest) := by
  rw [← Mode.fails_iff_due fun t ht hk => h.rest_of_eof ht hk, ← h.mode_eq]
  refine ⟨?_, ?_⟩
  · rintro ⟨c', hadv⟩
    exact (advance_eq_stuck_iff.mp hadv).2
  · intro hfails
    exact ⟨c.settle, advance_eq_stuck_iff.mpr ⟨rfl, hfails⟩⟩

/-- **Behind a parameter only blanks have been passed over**, and the script does not go on with the
parameter. -/
theorem Run.behind_param (h : Run file s ts c) (hm : c.mode = .afterParam) :
    ∃ u w, s = u ++ w ++ c.rest ∧ (∀ t ∈ ts.getLast?, t.location.stop = (u.length : Int)) ∧
      (∀ d ∈ w, isBlank d = true) ∧ Text.Stops isParam (w ++ c.rest) := by
  induction h with
  | start => cases hm
  | @read ts c next l p hrun hadv _ =>
    obtain ⟨u, hs, -, rfl, -⟩ := hrun.standsIn.exists_of_read hadv
    obtain ⟨-, -, hreads⟩ := advance_eq_read_iff.mp hadv
    obtain ⟨htrail, hstops⟩ := hreads.of_afterParam hm
    -- directly behind the parameter nothing has been passed over yet
    refine ⟨u ++ c.layout ++ l.consumed, [], by rw [List.append_nil]; exact hs, ?_, ?_, hstops⟩
    · intro t ht
      rw [List.getLast?_concat, Option.mem_some_iff] at ht
      have hlen := l.length_consumed
      rw [htrail, List.length_nil] at hlen
      have htotal : (u ++ c.layout ++ l.consumed).length =
        (u ++ c.layout).length + l.consumed.length := List.length_append
      rw [← ht, Lexeme.stop_token]
      omega
    · exact fun d hd => absurd hd List.not_mem_nil
  | @stuck ts c c' e hrun hadv ih =>
    obtain ⟨rfl, -⟩ := advance_eq_stuck_iff.mp hadv
    obtain ⟨u, w, hs, hstop, hw, hstops⟩ := ih hm
    -- the blanks that were passed over in vain come behind those that had been passed over before
    refine ⟨u, w ++ c.layout, ?_, hstop, ?_, ?_⟩
    · rw [List.append_assoc, List.append_assoc, layout_append_settle, ← List.append_assoc]
      exact hs
    · intro d hd
      rcases List.mem_append.mp hd with hd | hd
      · exact hw d hd
      · have hlayout := isLayout_of_mem_layout hd
        rw [settle_mode] at hm
        rw [hm] at hlayout
        exact hlayout
    · rw [List.append_assoc, layout_append_settle]
      exact hstops

end Cursor

namespace Lexer

variable {src : Source} {s : Text} {ts : List Token} {l : Lexer}

/-- The fault of opening a lexer, if there is one. -/
def openFault (src : Source) (s : Text) : Option Fault :=
  match Lexer.ofText src s with
  | .ok _ => none
  | .error f => some f

theorem cause_openFault {e : Cause} : (openFault src s).map Fault.cause = some e ↔
    ∃ c, (Cursor.ofText s).advance = .stuck e c := by
  rw [openFault, ofText]
  cases hadv : (Cursor.ofText s).advance with
  | read lexeme p next => simp
  | stuck e' c => simp [Source.fault]

theorem cause_pop {e : Cause} : l.pop.fault.map Fault.cause = some e ↔
    ∃ c, l.cursor.advance = .stuck e c := by
  cases hadv : l.cursor.advance with
  | read lexeme p next =>
    rw [pop_of_read hadv]
    simp
  | stuck e' c =>
    rw [pop_of_stuck hadv]
    simp [Source.fault]

end Lexer

/-- A character that is reported behind a parameter is not the one directly behind it: there is a
blank. -/
theorem Lexer.Run.blank_behind_param {src : Source} {s : Text} {ts : List Token} {l : Lexer}
    (h : Lexer.Run src s ts l) {c : Char} (hc : Cause.Due ts.getLast?
      (upcoming ts.getLast? (s.drop l.cursor.place.offset)) (.junkAfterParam c)) :
    ∃ t ∈ ts.getLast?, ∃ n : Nat, t.location.stop = n ∧ ∃ b, s[n]? = some b ∧ isBlank b = true := by
  obtain ⟨-, hlast, hcur⟩ := h.cursor
  rw [← hcur.standsIn.rest_eq, ← hcur.stuck_iff_due] at hc
  obtain ⟨c', hadv⟩ := hc
  obtain ⟨rfl, hfails⟩ := Cursor.advance_eq_stuck_iff.mp hadv
  obtain ⟨hhead, hcomma, hparen, hm, hblank⟩ := Mode.fails_iff.mp hfails
  -- the cursor that the failed pop leaves has passed over all that is behind the parameter
  obtain ⟨u, w, hs, hstop, hw, hstops⟩ := (hcur.stuck hadv).behind_param hm
  refine ⟨l.front, hlast, u.length, hstop l.front hlast, ?_⟩
  cases w with
  | nil =>
    -- then the parameter would have gone on with the character
    have hparam : isParam c = true := by
      simp [isParam, isTerminator, hblank, hcomma, hparen]
    exact absurd ((hstops c hhead).symm.trans hparam) (by decide)
  | cons b w =>
    refine ⟨b, ?_, hw b List.mem_cons_self⟩
    rw [hs, List.append_assoc, List.getElem?_append_right (Nat.le_refl _), Nat.sub_self]
    rfl

/-- **Faults are classified exactly.** Whether a lexer can be opened on a script, and whether the
next pop succeeds at the end of every run of a lexer on it, no matter how many pops failed, depends
on the last token and on what comes up next in the script as `Classified` says. Where a character is
reported behind a parameter, the parameter is followed by a blank. -/
theorem faults_classified (src : Source) (s : Text) :
    Classified none (upcoming none s) (Lexer.openFault src s) ∧
    ∀ ts l, Lexer.Run src s ts l →
      Classified ts.getLast? (upcoming ts.getLast? (s.drop l.cursor.place.offset)) l.pop.fault ∧
      ∀ c, Raises l.pop.fault .malformed
          ("Malformed function: got " ++ Text.quoted [c] ++ ", expecting ',' or ')'") →
        ∃ t ∈ ts.getLast?, ∃ n : Nat, t.location.stop = n ∧
          ∃ b, s[n]? = some b ∧ isBlank b = true := by
  refine ⟨classified_of_due fun e => ?_, fun ts l hrun => ?_⟩
  · -- opening is what comes next on the run without tokens
    have hstart : Cursor.Run src.file s [] (Cursor.ofText s) := .start
    exact Lexer.cause_openFault.trans hstart.stuck_iff_due
  · obtain ⟨-, -, hcur⟩ := hrun.cursor
    have hdue : ∀ e, l.pop.fault.map Fault.cause = some e ↔
        e.Due ts.getLast? (upcoming ts.getLast? (s.drop l.cursor.place.offset)) := by
      intro e
      rw [Lexer.cause_pop, hcur.stuck_iff_due, hcur.standsIn.rest_eq]
    refine ⟨classified_of_due hdue, fun c hc => ?_⟩
    exact hrun.blank_behind_param ((hdue _).mp ((raises_iff (.junkAfterParam c)).mp hc))

/-- Two parameters without a comma: behind the first one, the second is reported by its first
character. -/
theorem faults_classified_two_params :
    ∃ ts l, Lexer.Run ⟨none, true⟩ ['@', 'f', '(', 'a', ' ', 'b'] ts l ∧
      Raises l.pop.fault .malformed
        ("Malformed function: got " ++ Text.quoted ['b'] ++ ", expecting ',' or ')'") := by
  have hopen : Lexer.ofText ⟨none, true⟩ ['@', 'f', '(', 'a', ' ', 'b'] =
      .ok ⟨⟨none, true⟩, ⟨⟨2, 1, 3⟩, ['(', 'a', ' ', 'b'], .afterName⟩,
        ⟨.name, ['f'], .ofSpan ⟨1, 1, 2⟩ 1 none⟩⟩ := rfl
  have hrun := ((Lexer.Run.opened hopen).popped rfl).popped rfl
  refine ⟨_, _, hrun, ?_⟩
  rw [((faults_classified _ _).2 _ _ hrun).1.junkAfterParam]
  exact ⟨by decide, by decide, by decide, _, rfl, rfl⟩

end Dialogue
