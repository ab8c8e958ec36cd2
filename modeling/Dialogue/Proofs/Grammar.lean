import Dialogue.Proofs.Words

/-!
# The grammar of scripts

Which words a script has, said without any reading. `Script s ws` and `ParamList s ws` are two
relations between texts and lists of words that call each other: a script is a sequence of labels,
free text, comments and calls with gaps between them, and a call that writes its parenthesis goes on
with a parameter list, behind whose closing parenthesis the script goes on. Where a word is a run of
characters, the rule says that what follows does not go on with the run; that is the only place in
which the grammar looks ahead.

The grammar is exact (`tokenize_ok_iff_script`). Tokenizing a text succeeds with tokens of the words
`ws` if and only if `Script s ws`; so no text has two lists of words, and tokenizing fails for
exactly those texts that are no scripts.

The proof goes through `Mode.Yields`, in both directions by induction. A derivation of the grammar
covers one to three rules of reading, so completeness only has to put these in a row. For soundness
the invariant is `Mode.Expects`, which says of each of the five modes what is still missing to a
derivation of the grammar; in particular it holds the half of a call that is left behind its name.
-/

namespace Dialogue

/-- **A gap**: blanks and parentheses, as they stand between the words outside of calls. -/
def IsGap (g : Text) : Prop :=
  ∀ c ∈ g, isBlank c = true ∨ isParen c = true

/-- A text of blanks only, or an empty one. -/
def AllBlank (w : Text) : Prop :=
  ∀ c ∈ w, isBlank c = true

mutual

/-- **The scripts and their words.** -/
inductive Script : Text → List Word → Prop
  /-- Nothing but a gap is left. -/
  | eof {g : Text} : IsGap g → Script g [(.eof, [])]
  /-- A run of label characters. -/
  | label {g v r : Text} {ws : List Word} : IsGap g → v ≠ [] → (∀ c ∈ v, isLabel c = true) →
      Text.Stops isLabel r → Script r ws → Script (g ++ (v ++ r)) ((.label, v) :: ws)
  /-- A run of text characters that starts with none of the marks. -/
  | text {g v r : Text} {c : Char} {ws : List Word} : IsGap g → (∀ d ∈ c :: v, isText d = true) →
      isBlank c = false → c ∉ ['(', ')', ',', ';'] → Text.Stops isText r → Script r ws →
      Script (g ++ (c :: v ++ r)) ((.text, c :: v) :: ws)
  /-- A comment with the end of its line. -/
  | comment {g v r : Text} {ws : List Word} : IsGap g → '\n' ∉ v → Script r ws →
      Script (g ++ ';' :: (v ++ '\n' :: r)) ((.comment, v) :: ws)
  /-- A comment that the script ends in. -/
  | lastComment {g v : Text} {ws : List Word} : IsGap g → '\n' ∉ v → Script [] ws →
      Script (g ++ ';' :: v) ((.comment, v) :: ws)
  /-- A call with a parameter list. -/
  | call {g n r : Text} {ws : List Word} : IsGap g → (∀ c ∈ n, isLabel c = true) →
      ParamList r ws → Script (g ++ '@' :: (n ++ '(' :: r)) ((.name, n) :: (.opening, ['(']) :: ws)
  /-- A call without one: the character behind the name is passed over. -/
  | bareCall {g n r : Text} {c : Char} {ws : List Word} : IsGap g →
      (∀ c ∈ n, isLabel c = true) → isLabel c = false → c ≠ '(' → Script r ws →
      Script (g ++ '@' :: (n ++ c :: r))
        ((.name, n) :: (.opening, ['(']) :: (.closing, [')']) :: ws)
  /-- A call that the script ends in. -/
  | lastCall {g n : Text} {ws : List Word} : IsGap g → (∀ c ∈ n, isLabel c = true) → Script [] ws →
      Script (g ++ '@' :: n) ((.name, n) :: (.opening, ['(']) :: (.closing, [')']) :: ws)

/-- **The parameter lists**, with the script behind them, and their words. -/
inductive ParamList : Text → List Word → Prop
  /-- The list is closed where a parameter could start. -/
  | close {w r : Text} {ws : List Word} : AllBlank w → Script r ws →
      ParamList (w ++ ')' :: r) ((.closing, [')']) :: ws)
  /-- A parameter and a comma. -/
  | param {w v x r : Text} {ws : List Word} : AllBlank w → v ≠ [] →
      (∀ c ∈ v, isParam c = true) → AllBlank x → ParamList r ws →
      ParamList (w ++ (v ++ (x ++ ',' :: r))) ((.param, v) :: (.separator, [',']) :: ws)
  /-- A parameter, and the list is closed. -/
  | lastParam {w v x r : Text} {ws : List Word} : AllBlank w → v ≠ [] →
      (∀ c ∈ v, isParam c = true) → AllBlank x → Script r ws →
      ParamList (w ++ (v ++ (x ++ ')' :: r))) ((.param, v) :: (.closing, [')']) :: ws)

end

/-! ### Layout and gaps -/

theorem isGap_iff {g : Text} : IsGap g ↔ ∀ c ∈ g, Mode.topLevel.isLayout c = true := by
  simp only [IsGap, Mode.isLayout, Bool.or_eq_true]

theorem eq_nil_of_isLayout {m : Mode} {g : Text} (hm : ∀ c, m.isLayout c = false)
    (hg : ∀ c ∈ g, m.isLayout c = true) : g = [] := by
  cases g with
  | nil => rfl
  | cons c g =>
    have hc := hg c List.mem_cons_self
    rw [hm c] at hc
    cases hc

theorem stops_isParam_of_allBlank {x r : Text} {c : Char} (hx : AllBlank x)
    (hc : isParam c = false) : Text.Stops isParam (x ++ c :: r) := by
  cases x with
  | nil => exact Text.stops_cons.mpr hc
  | cons d x =>
    have hd := hx d List.mem_cons_self
    exact Text.stops_cons.mpr (by simp [isParam, hd])

/-! ### Completeness: what the grammar derives is read

Each rule of the grammar is followed by the rules of reading that it stands for. Between the name of
a call and its parameter list, and before an implied parenthesis, there is no layout. -/

/-- What a call without a parameter list yields behind its name and the character dropped. -/
theorem Mode.Yields.ofBareCall {r : Text} {ws : List Word} (h : Mode.topLevel.Yields r ws) :
    Mode.impliedClose.Yields r ((.closing, [')']) :: ws) :=
  .more (g := []) (by simp) .impliedClosing (by simp) h

/-- What a parameter list yields behind a parameter and some blanks. -/
theorem Mode.Yields.ofParam {w v r : Text} {ws : List Word} (hw : AllBlank w) (hv : v ≠ [])
    (hall : ∀ c ∈ v, isParam c = true) (hr : Text.Stops isParam r)
    (h : Mode.afterParam.Yields r ws) : Mode.inList.Yields (w ++ (v ++ r)) ((.param, v) :: ws) :=
  .more (m := .inList) hw (.param hv hall hr) (by simp) h

mutual

/-- Whatever the grammar derives as a script is read, word by word. -/
theorem Script.yields {s : Text} {ws : List Word} : Script s ws → Mode.topLevel.Yields s ws
  | .eof hg => by
    rw [← List.append_nil s]
    exact .last (isGap_iff.mp hg) .eof rfl
  | .label hg hv hall hr hws => .more (isGap_iff.mp hg) (.label hv hall hr) (by simp) hws.yields
  | .text (c := c) hg hall hb hc hr hws => by
    simp only [List.mem_cons, List.not_mem_nil, or_false, not_or] at hc
    obtain ⟨hopen, hclose, hcomma, hsemi⟩ := hc
    have hp : isParen c = false := by simp [isParen, hopen, hclose]
    exact .more (isGap_iff.mp hg) (.text hall hr hb hp hcomma hsemi) (by simp) hws.yields
  | .comment hg hv hws => by
    have hline : ∀ c ∈ _, c ≠ '\n' := fun c hc heq => hv (heq ▸ hc)
    exact .more (isGap_iff.mp hg) (.comment hline) (by simp) hws.yields
  | .lastComment hg hv hws => by
    have hline : ∀ c ∈ _, c ≠ '\n' := fun c hc heq => hv (heq ▸ hc)
    exact .more (isGap_iff.mp hg) (.lastComment hline) (by simp) hws.yields
  | .call (r := r) hg hn hws => by
    -- two words, with nothing between them
    have hstop : Text.Stops isLabel ('(' :: r) := Text.stops_cons.mpr (by decide)
    refine .more (isGap_iff.mp hg) (.name hn hstop) (by simp) ?_
    exact .more (g := []) (by simp) .opening (by simp) hws.yields
  | .bareCall hg hn hl hc hws => by
    -- three words, the last two of which are implied
    refine .more (isGap_iff.mp hg) (.name hn (Text.stops_cons.mpr hl)) (by simp) ?_
    exact .more (g := []) (by simp) (.impliedOpening hc) (by simp) (.ofBareCall hws.yields)
  | .lastCall (n := n) hg hn hws => by
    -- the rule for names cuts the text in two, here with nothing behind the name
    have hcut : Mode.topLevel.Reads ('@' :: n) ⟨⟨.name, n, ['@'], false, []⟩, .afterName, []⟩ := by
      have hname := Mode.Reads.name hn Text.stops_nil
      rw [List.append_nil] at hname
      exact hname
    refine .more (isGap_iff.mp hg) hcut (by simp) ?_
    exact .more (g := []) (by simp) .lastOpening (by simp) (.ofBareCall hws.yields)

/-- Whatever it derives as a parameter list is read behind an opening parenthesis. -/
theorem ParamList.yields {s : Text} {ws : List Word} :
    ParamList s ws → Mode.inList.Yields s ws
  | .close hw hws => .more (m := .inList) hw .emptyClosing (by simp) hws.yields
  | .param hw hv hall hx hws => by
    -- the parameter is stopped by the blanks behind it, or else by the comma
    refine .ofParam hw hv hall (stops_isParam_of_allBlank hx (by decide)) ?_
    exact .more (m := .afterParam) hx .separator (by simp) hws.yields
  | .lastParam hw hv hall hx hws => by
    refine .ofParam hw hv hall (stops_isParam_of_allBlank hx (by decide)) ?_
    exact .more (m := .afterParam) hx .closing (by simp) hws.yields

end

/-! ### Soundness: what is read is derived by the grammar -/

/-- **What a mode expects of a text and its words**, so that the grammar has a derivation. Outside
of calls and where a parameter could start, this is one. Behind a name and behind a parameter, the
text and the words are a derivation once the name or the parameter is put back in front of them. -/
def Mode.Expects : Mode → Text → List Word → Prop
  | topLevel, t, ws => Script t ws
  | afterName, t, ws => ∀ g n, IsGap g → (∀ c ∈ n, isLabel c = true) → Text.Stops isLabel t →
      Script (g ++ '@' :: (n ++ t)) ((.name, n) :: ws)
  | impliedClose, t, ws => ∃ ws', ws = (.closing, [')']) :: ws' ∧ Script t ws'
  | inList, t, ws => ParamList t ws
  | afterParam, t, ws => ∀ w v, AllBlank w → v ≠ [] → (∀ c ∈ v, isParam c = true) →
      ParamList (w ++ (v ++ t)) ((.param, v) :: ws)

/-! One word of each mode is put in front of what is expected behind it. -/

theorem Mode.Reads.expects_topLevel {g t : Text} {r : Reading} {ws : List Word} (hg : IsGap g)
    (h : topLevel.Reads t r) (hk : r.lexeme.kind ≠ .eof) (hws : r.mode.Expects r.rest ws) :
    Script (g ++ t) (r.lexeme.word :: ws) := by
  cases h with
  | eof => exact absurd rfl hk
  | label hv hall hr => exact .label hg hv hall hr hws
  -- the call is put together behind its name, where the gap and the name are still to come
  | name hall hr => exact hws g _ hg hall hr
  | comment hv => exact .comment hg (fun hmem => hv _ hmem rfl) hws
  | lastComment hv => exact .lastComment hg (fun hmem => hv _ hmem rfl) hws
  | @text d v r hall hr hb hp hcomma hsemi =>
    have hmarks : d ∉ ['(', ')', ',', ';'] := by
      simp only [isParen, Bool.or_eq_false_iff, beq_eq_false_iff_ne] at hp
      simp [hp.1, hp.2, hcomma, hsemi]
    exact .text hg hall hb hmarks hr hws

theorem Mode.Reads.expects_afterName {t : Text} {r : Reading} {ws : List Word}
    (h : afterName.Reads t r) (hws : r.mode.Expects r.rest ws) :
    afterName.Expects t (r.lexeme.word :: ws) := by
  intro g n hg hn hstop
  cases h with
  | opening => exact .call hg hn hws
  | impliedOpening hc =>
    obtain ⟨ws', rfl, hscript⟩ := hws
    exact .bareCall hg hn (Text.stops_cons.mp hstop) hc hscript
  | lastOpening =>
    obtain ⟨ws', rfl, hscript⟩ := hws
    rw [List.append_nil]
    exact .lastCall hg hn hscript

theorem Mode.Reads.expects_inList {w t : Text} {r : Reading} {ws : List Word} (hw : AllBlank w)
    (h : inList.Reads t r) (hws : r.mode.Expects r.rest ws) :
    ParamList (w ++ t) (r.lexeme.word :: ws) := by
  cases h with
  | param hv hall _ => exact hws w _ hw hv hall
  | emptyClosing => exact .close hw hws

theorem Mode.Reads.expects_afterParam {x t : Text} {r : Reading} {ws : List Word}
    (hx : AllBlank x) (h : afterParam.Reads t r) (hws : r.mode.Expects r.rest ws) :
    afterParam.Expects (x ++ t) (r.lexeme.word :: ws) := by
  intro w v hw hv hall
  cases h with
  | separator => exact .param hw hv hall hx hws
  | closing => exact .lastParam hw hv hall hx hws

/-- **What a text yields is what its mode expects.** -/
theorem Mode.Yields.expects {m : Mode} {t : Text} {ws : List Word} (h : m.Yields t ws) :
    m.Expects t ws := by
  -- The induction is on the words; what is expected behind a word is the induction hypothesis.
  induction h with
  | @last m g t r hg hr hk =>
    -- only outside of calls can the end of the script be read
    cases hr with
    | eof =>
      rw [List.append_nil]
      exact .eof (isGap_iff.mpr hg)
    | label | name | comment | lastComment | text | opening | impliedOpening | lastOpening
    | impliedClosing | param | emptyClosing | separator | closing => cases hk
  | @more m g t r ws hg hr hk _ ih =>
    cases m with
    | topLevel => exact hr.expects_topLevel (isGap_iff.mpr hg) hk ih
    | afterName =>
      -- there is no layout here, so the name and its parenthesis are next to each other
      rw [eq_nil_of_isLayout (fun _ => rfl) hg]
      exact hr.expects_afterName ih
    | impliedClose =>
      rw [eq_nil_of_isLayout (fun _ => rfl) hg]
      cases hr
      exact ⟨ws, rfl, ih⟩
    | inList => exact hr.expects_inList hg ih
    | afterParam => exact hr.expects_afterParam hg ih

/-! ### The grammar is exact -/

/-- Outside of calls, the words that are read and those that are derived are the same. -/
theorem yields_iff_script {s : Text} {ws : List Word} :
    Mode.topLevel.Yields s ws ↔ Script s ws :=
  ⟨Mode.Yields.expects, Script.yields⟩

/-- **The grammar of scripts is exact.** Under any settings and for any file, tokenizing a text
gives tokens of the words `ws` if and only if the grammar derives `ws` for it. Hence no text has two
lists of words, and tokenizing fails for exactly those texts that the grammar has no words for. -/
theorem tokenize_ok_iff_script (c : Config) (file : Option String) (s : Text) :
    (∀ ws, (∃ ts, (c.tokenize s file).1 = .ok ts ∧ ts.map Token.word = ws) ↔ Script s ws) ∧
      (∀ ws ws', Script s ws → Script s ws' → ws = ws') ∧
      ((∃ f, (c.tokenize s file).1 = .error f) ↔ ¬ ∃ ws, Script s ws) := by
  have hexact : ∀ ws,
      (∃ ts, (c.tokenize s file).1 = .ok ts ∧ ts.map Token.word = ws) ↔ Script s ws :=
    fun ws => (c.tokenize_ok_iff_yields s file ws).trans yields_iff_script
  refine ⟨hexact, ?_, ?_⟩
  · -- tokenizing is a function, so the words are the same
    intro ws ws' hws hws'
    obtain ⟨ts, hts, rfl⟩ := (hexact ws).mpr hws
    obtain ⟨ts', hts', rfl⟩ := (hexact ws').mpr hws'
    rw [Except.ok.inj (hts.symm.trans hts')]
  · refine ⟨?_, ?_⟩
    · rintro ⟨f, hf⟩ ⟨ws, hws⟩
      obtain ⟨ts, hts, -⟩ := (hexact ws).mpr hws
      cases hf.symm.trans hts
    · intro hnone
      cases hres : (c.tokenize s file).1 with
      | error f => exact ⟨f, rfl⟩
      | ok ts => exact absurd ⟨_, (hexact _).mp ⟨ts, hres, rfl⟩⟩ hnone

/-- The words of a short call, derived by the grammar and found by tokenizing. -/
theorem script_short_call :
    Script ['@', 'f', '(', ' ', 'x', ',', ')', ')']
        [(.name, ['f']), (.opening, ['(']), (.param, ['x']), (.separator, [',']),
          (.closing, [')']), (.eof, [])] ∧
      ∃ ts, (Config.default.tokenize ['@', 'f', '(', ' ', 'x', ',', ')', ')'] none).1 = .ok ts ∧
        ts.map Token.word = [(.name, ['f']), (.opening, ['(']), (.param, ['x']),
          (.separator, [',']), (.closing, [')']), (.eof, [])] := by
  have hspace : AllBlank [' '] := List.forall_mem_singleton.mpr (by decide)
  have hempty : AllBlank [] := List.forall_mem_nil _
  have hend : Script [')'] [(.eof, [])] := .eof (List.forall_mem_singleton.mpr (.inr (by decide)))
  have hclose : ParamList [')', ')'] [(.closing, [')']), (.eof, [])] :=
    .close (w := []) hempty hend
  have hlist : ParamList [' ', 'x', ',', ')', ')']
      [(.param, ['x']), (.separator, [',']), (.closing, [')']), (.eof, [])] :=
    .param (w := [' ']) (v := ['x']) (x := []) hspace (List.cons_ne_nil _ _)
      (List.forall_mem_singleton.mpr (by decide)) hempty hclose
  have hscript : Script ['@', 'f', '(', ' ', 'x', ',', ')', ')']
      [(.name, ['f']), (.opening, ['(']), (.param, ['x']), (.separator, [',']),
        (.closing, [')']), (.eof, [])] :=
    .call (g := []) (n := ['f']) (List.forall_mem_nil _)
      (List.forall_mem_singleton.mpr (by decide)) hlist
  exact ⟨hscript, ((tokenize_ok_iff_script .default none _).1 _).mpr hscript⟩

end Dialogue
