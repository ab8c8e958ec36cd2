import Dialogue.Proofs.Joining
import Dialogue.Proofs.Patterns

/-!
# The canonical text of words

Which lists of words are the words of some script? Those that are *well formed*: their kinds match
the pattern of a script, and each value is one that its kind admits (`WellFormed`). Nothing else is
needed, since every well-formed list can be written out (`canonicalText`): a label and free text get
a line feed behind them, a comment and a name their mark, and the rest is joined without anything in
between. Tokenizing the result gives the words back, and conversely the words of every script are
well formed (`canonical_text`). So writing out what was tokenized and tokenizing it again changes no
word; parentheses that a script had left out are written then, and no token is synthetic any more.

The first half follows the pattern of kinds: what is written of an item is read as that item,
whatever is written behind it (`Mode.Spells`). The second half follows the reading, rule by rule.
-/

namespace Dialogue

open RegularExpression (char)

/-! ### Well-formed lists of words -/

/-- **The values that a kind admits.** -/
def Kind.Admits : Kind → Text → Prop
  | text, v => v ≠ [] ∧ (∀ c ∈ v, isText c = true) ∧
      ∀ c ∈ v.head?, isBlank c = false ∧ c ∉ ['(', ')', ',', ';']
  | comment, v => '\n' ∉ v
  | label, v => v ≠ [] ∧ ∀ c ∈ v, isLabel c = true
  | name, v => ∀ c ∈ v, isLabel c = true
  | opening, v => v = ['(']
  | param, v => v ≠ [] ∧ ∀ c ∈ v, isParam c = true
  | separator, v => v = [',']
  | closing, v => v = [')']
  | eof, v => v = []

/-- All words have values that their kinds admit. -/
def Admitted (ws : List Word) : Prop :=
  ∀ w ∈ ws, w.1.Admits w.2

/-- **A list of words is well formed** when its kinds match the pattern of a script and its values
are admitted. -/
structure WellFormed (ws : List Word) : Prop where
  /-- The kinds follow each other as in a script. -/
  kinds : ws.map Prod.fst ∈ Kind.scriptPattern.matches'
  /-- The values fit the kinds. -/
  admitted : Admitted ws

/-- How a word is written. -/
def Kind.write : Kind → Text → Text
  | text, v | label, v => v ++ ['\n']
  | comment, v => ';' :: (v ++ ['\n'])
  | name, v => '@' :: v
  | opening, v | param, v | separator, v | closing, v | eof, v => v

/-- **The canonical text of some words**: one after the other, as they are written. -/
def canonicalText (ws : List Word) : Text :=
  ws.flatMap fun w => w.1.write w.2

@[simp] theorem admitted_nil : Admitted [] :=
  List.forall_mem_nil _

@[simp] theorem admitted_cons {k : Kind} {v : Text} {ws : List Word} :
    Admitted ((k, v) :: ws) ↔ k.Admits v ∧ Admitted ws :=
  List.forall_mem_cons

@[simp] theorem admitted_append {us ws : List Word} :
    Admitted (us ++ ws) ↔ Admitted us ∧ Admitted ws :=
  List.forall_mem_append

@[simp] theorem canonicalText_nil : canonicalText [] = [] := rfl

@[simp] theorem canonicalText_cons (k : Kind) (v : Text) (ws : List Word) :
    canonicalText ((k, v) :: ws) = k.write v ++ canonicalText ws :=
  List.flatMap_cons

@[simp] theorem canonicalText_append (us ws : List Word) :
    canonicalText (us ++ ws) = canonicalText us ++ canonicalText ws :=
  List.flatMap_append

/-! ### Spelling words -/

/-- **A text spells words** from a mode on: wherever it stands, it is read to the end, the tokens
have these words, and each of them is written in the text. -/
def Mode.Spells (m : Mode) (t : Text) (ws : List Word) : Prop :=
  ∀ p file, ((⟨p, t, m⟩ : Cursor).course file).fault = none ∧
    ((⟨p, t, m⟩ : Cursor).course file).tokens.map Token.word = ws ∧
    ∀ tk ∈ ((⟨p, t, m⟩ : Cursor).course file).tokens, tk.isSynthetic = false

namespace Mode.Spells

variable {m : Mode} {g t v : Text} {c : Char} {ws : List Word}

theorem eof : topLevel.Spells [] [(.eof, [])] := by
  intro p file
  rw [Cursor.course_topLevel_nil]
  refine ⟨rfl, rfl, fun tk htk => ?_⟩
  rw [List.mem_singleton.mp htk]
  simp [Token.isSynthetic]

/-- Layout in front of a text spells nothing. -/
theorem layout (hg : ∀ d ∈ g, m.isLayout d = true) (h : m.Spells t ws) : m.Spells (g ++ t) ws := by
  intro p file
  rw [Cursor.course_congr (Cursor.settle_append_layout hg p)]
  exact h (p.after g) file

/-- **One rule spells one word**, unless it supplies what is not written. -/
theorem reads {r : Reading} (h : m.Reads t r) (hk : r.lexeme.kind ≠ .eof)
    (himp : r.lexeme.implied = false) (hws : r.mode.Spells r.rest ws) :
    m.Spells t (r.lexeme.word :: ws) := by
  intro p file
  -- the rule applies without layout in front, and reading goes on behind what it consumes
  have hadv := Cursor.advance_of_reads (g := []) (List.forall_mem_nil _) h p
  rw [List.nil_append] at hadv
  obtain ⟨hfault, hwords, hwritten⟩ := hws (p.after r.lexeme.consumed) file
  rw [Cursor.course_of_read hadv hk]
  refine ⟨hfault, congrArg _ hwords, fun tk htk => ?_⟩
  rcases List.mem_cons.mp htk with rfl | htk
  · rw [Lexeme.isSynthetic_token, himp, Bool.false_and]
  · exact hwritten tk htk

/-- What stands on a line of its own. -/
theorem line (h : topLevel.Spells t ws) : topLevel.Spells ('\n' :: t) ws :=
  layout (g := ['\n']) (List.forall_mem_singleton.mpr (by decide)) h

/-- A label ends at the line feed behind it. -/
theorem label (hv : Kind.label.Admits v) (h : topLevel.Spells t ws) :
    topLevel.Spells (v ++ '\n' :: t) ((.label, v) :: ws) :=
  reads (.label hv.1 hv.2 (Text.stops_cons.mpr (by decide))) (by simp) rfl h.line

/-- Free text ends at the line feed, and nothing else starts with its first character. -/
theorem text (hv : Kind.text.Admits v) (h : topLevel.Spells t ws) :
    topLevel.Spells (v ++ '\n' :: t) ((.text, v) :: ws) := by
  obtain ⟨hne, hall, hhead⟩ := hv
  obtain ⟨c, v, rfl⟩ := List.exists_cons_of_ne_nil hne
  obtain ⟨hblank, hmarks⟩ := hhead c rfl
  simp only [List.mem_cons, List.not_mem_nil, or_false, not_or] at hmarks
  obtain ⟨hopen, hclose, hcomma, hsemi⟩ := hmarks
  have hparen : isParen c = false := by simp [isParen, hopen, hclose]
  have hstops : Text.Stops isText ('\n' :: t) := Text.stops_cons.mpr (by decide)
  exact reads (.text hall hstops hblank hparen hcomma hsemi) (by simp) rfl h.line

/-- A comment takes its line feed along. -/
theorem comment (hv : Kind.comment.Admits v) (h : topLevel.Spells t ws) :
    topLevel.Spells (';' :: (v ++ '\n' :: t)) ((.comment, v) :: ws) := by
  have hline : ∀ c ∈ v, c ≠ '\n' := fun c hc heq => hv (heq ▸ hc)
  exact reads (.comment hline) (by simp) rfl h

/-- A name and its parenthesis, which belong together: the parenthesis ends the name. -/
theorem call (hv : Kind.name.Admits v) (h : inList.Spells t ws) :
    topLevel.Spells ('@' :: (v ++ '(' :: t)) ((.name, v) :: (.opening, ['(']) :: ws) := by
  have hopening : afterName.Spells ('(' :: t) ((.opening, ['(']) :: ws) :=
    reads .opening (by simp) rfl h
  exact reads (.name hv (Text.stops_cons.mpr (by decide))) (by simp) rfl hopening

/-- A parameter ends at whatever cannot stand in one. -/
theorem param (hv : Kind.param.Admits v) (hc : isParam c = false)
    (h : afterParam.Spells (c :: t) ws) : inList.Spells (v ++ c :: t) ((.param, v) :: ws) :=
  reads (.param hv.1 hv.2 (Text.stops_cons.mpr hc)) (by simp) rfl h

theorem separator (h : inList.Spells t ws) :
    afterParam.Spells (',' :: t) ((.separator, [',']) :: ws) :=
  reads .separator (by simp) rfl h

theorem closing (h : topLevel.Spells t ws) :
    afterParam.Spells (')' :: t) ((.closing, [')']) :: ws) :=
  reads .closing (by simp) rfl h

theorem emptyClosing (h : topLevel.Spells t ws) :
    inList.Spells (')' :: t) ((.closing, [')']) :: ws) :=
  reads .emptyClosing (by simp) rfl h

end Mode.Spells

/-! ### What is written is read

By induction along the pattern. Behind a parameter the text goes on with a comma or a parenthesis,
which is what ends the parameter; so this is carried along. -/

theorem exists_of_kinds_cons {ws : List Word} {k : Kind} {ks : List Kind}
    (h : ws.map Prod.fst = k :: ks) : ∃ v us, ws = (k, v) :: us ∧ us.map Prod.fst = ks := by
  obtain ⟨⟨_, v⟩, us, rfl, rfl, hus⟩ := List.map_eq_cons_iff.mp h
  exact ⟨v, us, rfl, hus⟩

theorem exists_of_kinds_singleton {ws : List Word} {k : Kind} (h : ws.map Prod.fst = [k]) :
    ∃ v, ws = [(k, v)] := by
  obtain ⟨v, us, rfl, hus⟩ := exists_of_kinds_cons h
  exact ⟨v, by rw [List.map_eq_nil_iff.mp hus]⟩

section Written

variable {t : Text} {us ws : List Word}

/-- What is written behind a parameter is read as the tail of a list, and it ends the parameter. -/
theorem spells_tail (ht : Mode.topLevel.Spells t us) :
    ∀ ks ∈ Kind.tailPattern.matches', ∀ ws : List Word, ws.map Prod.fst = ks → Admitted ws →
      ∃ c r, canonicalText ws ++ t = c :: r ∧ isParam c = false ∧
        Mode.afterParam.Spells (c :: r) (ws ++ us) := by
  refine Kind.tailPattern_induction ?_ ?_ ?_
  · -- a parenthesis
    intro ws hks hws
    obtain ⟨_, rfl⟩ := exists_of_kinds_singleton hks
    obtain ⟨rfl, -⟩ := admitted_cons.mp hws
    exact ⟨')', t, rfl, by decide, ht.closing⟩
  · -- a comma with no parameter behind it
    intro ws hks hws
    obtain ⟨_, _, rfl, hclosing⟩ := exists_of_kinds_cons hks
    obtain ⟨_, rfl⟩ := exists_of_kinds_singleton hclosing
    simp only [admitted_cons] at hws
    obtain ⟨rfl, rfl, -⟩ := hws
    exact ⟨',', ')' :: t, rfl, by decide, ht.emptyClosing.separator⟩
  · -- a comma and a parameter, which is ended by what the rest of the tail starts with
    intro ks ih ws hks hws
    obtain ⟨_, _, rfl, hparam⟩ := exists_of_kinds_cons hks
    obtain ⟨v, vs, rfl, hvs⟩ := exists_of_kinds_cons hparam
    simp only [admitted_cons] at hws
    obtain ⟨rfl, hv, hadmitted⟩ := hws
    obtain ⟨c, r, htext, hc, hspells⟩ := ih vs hvs hadmitted
    refine ⟨',', v ++ (c :: r), ?_, by decide, (hspells.param hv hc).separator⟩
    simp [Kind.write, ← htext]

/-- What is written behind the opening parenthesis of a call is read as its list. -/
theorem spells_list (ht : Mode.topLevel.Spells t us)
    (hks : ws.map Prod.fst ∈ Kind.listPattern.matches') (hws : Admitted ws) :
    Mode.inList.Spells (canonicalText ws ++ t) (ws ++ us) := by
  rcases Kind.cases_of_mem_listPattern hks with hclosing | ⟨ks, htail, hparam⟩
  · obtain ⟨_, rfl⟩ := exists_of_kinds_singleton hclosing
    obtain ⟨rfl, -⟩ := admitted_cons.mp hws
    exact ht.emptyClosing
  · obtain ⟨v, vs, rfl, hvs⟩ := exists_of_kinds_cons hparam
    obtain ⟨hv, hws⟩ := admitted_cons.mp hws
    obtain ⟨c, r, htext, hc, hspells⟩ := spells_tail ht ks htail vs hvs hws
    rw [canonicalText_cons, List.append_assoc, htext]
    exact hspells.param hv hc

/-- What is written of an item is read as this item. -/
theorem spells_item (ht : Mode.topLevel.Spells t us)
    (hks : ws.map Prod.fst ∈ Kind.itemPattern.matches') (hws : Admitted ws) :
    Mode.topLevel.Spells (canonicalText ws ++ t) (ws ++ us) := by
  rcases Kind.cases_of_mem_itemPattern hks with htext | hcomment | hlabel | ⟨ks, hlist, hname⟩
  · obtain ⟨v, rfl⟩ := exists_of_kinds_singleton htext
    simpa [Kind.write] using ht.text (admitted_cons.mp hws).1
  · obtain ⟨v, rfl⟩ := exists_of_kinds_singleton hcomment
    simpa [Kind.write] using ht.comment (admitted_cons.mp hws).1
  · obtain ⟨v, rfl⟩ := exists_of_kinds_singleton hlabel
    simpa [Kind.write] using ht.label (admitted_cons.mp hws).1
  · obtain ⟨v, _, rfl, hopening⟩ := exists_of_kinds_cons hname
    obtain ⟨_, vs, rfl, rfl⟩ := exists_of_kinds_cons hopening
    simp only [admitted_cons] at hws
    obtain ⟨hv, rfl, hadmitted⟩ := hws
    simpa [Kind.write] using (spells_list ht hlist hadmitted).call hv

end Written

/-- **The canonical text of a well-formed list spells it.** -/
theorem WellFormed.spells {ws : List Word} (h : WellFormed ws) :
    Mode.topLevel.Spells (canonicalText ws) ws := by
  suffices hall : ∀ ks ∈ Kind.scriptPattern.matches', ∀ ws : List Word, ws.map Prod.fst = ks →
      Admitted ws → Mode.topLevel.Spells (canonicalText ws) ws from
    hall _ h.kinds ws rfl h.admitted
  -- one item after the other, from the end of the script
  refine star_mul_induction ?_ ?_
  · rintro ks rfl ws hks hws
    obtain ⟨_, rfl⟩ := exists_of_kinds_singleton hks
    obtain ⟨rfl, -⟩ := admitted_cons.mp hws
    exact .eof
  · intro x hx ks ih ws hks hws
    obtain ⟨us, vs, rfl, rfl, hvs⟩ := List.map_eq_append_iff.mp hks
    obtain ⟨hus, hws⟩ := admitted_append.mp hws
    rw [canonicalText_append]
    exact spells_item (ih vs hvs hws) hx hus

/-- A text that spells words is tokenized into these words. -/
theorem Mode.Spells.tokenize {t : Text} {ws : List Word} (h : topLevel.Spells t ws) (c : Config)
    (file : Option String) :
    ∃ ts, (c.tokenize t file).1 = .ok ts ∧ ts.map Token.word = ws ∧
      ∀ tk ∈ ts, tk.isSynthetic = false := by
  obtain ⟨hfault, hwords, hwritten⟩ := h .origin file
  refine ⟨_, ?_, hwords, hwritten⟩
  rw [Config.tokenize_eq_course]
  exact Course.result_eq_ok_iff.mpr ⟨hfault, rfl⟩

/-! ### What is read is well formed -/

/-- Every rule reads a value that its kind admits. -/
theorem Mode.Reads.admits {m : Mode} {t : Text} {r : Reading} (h : m.Reads t r) :
    r.lexeme.kind.Admits r.lexeme.value := by
  cases h with
  | eof | opening | impliedOpening | lastOpening | impliedClosing | emptyClosing | separator
  | closing => rfl
  | label hne hall | param hne hall => exact ⟨hne, hall⟩
  | name hall => exact hall
  | comment hline | lastComment hline => exact fun hmem => hline _ hmem rfl
  | @text c v r hall _ hblank hparen hcomma hsemi =>
    -- the rule asks of the first character what the kind admits there
    refine ⟨List.cons_ne_nil c v, hall, ?_⟩
    intro d hd
    obtain rfl : c = d := Option.some.inj hd
    simp only [isParen, Bool.or_eq_false_iff, beq_eq_false_iff_ne] at hparen
    simp [hblank, hparen.1, hparen.2, hcomma, hsemi]

/-- **The words that a text yields are what its mode has ahead**, with admitted values. -/
theorem Mode.Yields.ahead_and_admitted {m : Mode} {t : Text} {ws : List Word} (h : m.Yields t ws) :
    ws.map Prod.fst ∈ (m.ahead (char .eof)).matches' ∧ Admitted ws := by
  induction h with
  | @last m g t r hg hr hk =>
    obtain ⟨rfl, -, rfl⟩ := hr.of_eof hk
    exact ⟨mem_star_mul_of_mem rfl, admitted_cons.mpr ⟨rfl, admitted_nil⟩⟩
  | @more m g t r ws hg hr hk _ ih =>
    exact ⟨hr.cons_mem_ahead hk ih.1, admitted_cons.mpr ⟨hr.admits, ih.2⟩⟩

/-- The words of everything that can be tokenized are well formed. -/
theorem wellFormed_of_tokenize {c : Config} {file : Option String} {s : Text} {ts : List Token}
    (h : (c.tokenize s file).1 = .ok ts) : WellFormed (ts.map Token.word) := by
  obtain ⟨hkinds, hadmitted⟩ :=
    ((c.tokenize_ok_iff_yields s file _).mp ⟨ts, h, rfl⟩).ahead_and_admitted
  exact ⟨hkinds, hadmitted⟩

/-- **The lists of words that scripts have are the well-formed ones, and each has a canonical
text.** Under any settings and for any file, tokenizing the canonical text of a well-formed list
gives tokens of just these words, all of them written. Conversely the words of everything that can
be tokenized are well formed. Hence whatever has been tokenized can be written out and tokenized
again, with the same words and every parenthesis written. -/
theorem canonical_text (c : Config) (file : Option String) :
    (∀ ws, WellFormed ws → ∃ ts, (c.tokenize (canonicalText ws) file).1 = .ok ts ∧
      ts.map Token.word = ws ∧ ∀ t ∈ ts, t.isSynthetic = false) ∧
    (∀ s ts, (c.tokenize s file).1 = .ok ts → WellFormed (ts.map Token.word)) ∧
    (∀ s ts, (c.tokenize s file).1 = .ok ts →
      ∃ ts', (c.tokenize (canonicalText (ts.map Token.word)) file).1 = .ok ts' ∧
        ts'.map Token.word = ts.map Token.word ∧ ∀ t ∈ ts', t.isSynthetic = false) := by
  refine ⟨fun ws hws => hws.spells.tokenize c file, fun s ts => wellFormed_of_tokenize, ?_⟩
  intro s ts hts
  exact (wellFormed_of_tokenize hts).spells.tokenize c file

/-- A call without a list, and free text in which a comma is swallowed. Written out, the parentheses
appear in the place of the character that was dropped, and the words are the same. -/
theorem canonical_text_bare_call :
    ∃ ts, (Config.default.tokenize ['@', 'f', '.', '.', ','] none).1 = .ok ts ∧
      (∃ t ∈ ts, t.isSynthetic = true) ∧ WellFormed (ts.map Token.word) ∧
      canonicalText (ts.map Token.word) = ['@', 'f', '(', ')', '.', ',', '\n'] ∧
      ∃ ts', (Config.default.tokenize (canonicalText (ts.map Token.word)) none).1 = .ok ts' ∧
        ts'.map Token.word = ts.map Token.word ∧ ∀ t ∈ ts', t.isSynthetic = false := by
  have hts : (Config.default.tokenize ['@', 'f', '.', '.', ','] none).1 = .ok
      [⟨.name, ['f'], .ofSpan ⟨1, 1, 2⟩ 1 none⟩, ⟨.opening, ['('], .ofSpan ⟨2, 1, 3⟩ 0 none⟩,
        ⟨.closing, [')'], .ofSpan ⟨3, 1, 4⟩ 0 none⟩, ⟨.text, ['.', ','], .ofSpan ⟨3, 1, 4⟩ 2 none⟩,
        ⟨.eof, [], .ofSpan ⟨5, 1, 6⟩ 0 none⟩] := by
    have hname : (Cursor.ofText ['@', 'f', '.', '.', ',']).advance =
      .read ⟨.name, ['f'], ['@'], false, []⟩ .origin
        ⟨⟨2, 1, 3⟩, ['.', '.', ','], .afterName⟩ := rfl
    have hopening : (⟨⟨2, 1, 3⟩, ['.', '.', ','], .afterName⟩ : Cursor).advance =
      .read ⟨.opening, ['('], [], true, ['.']⟩ ⟨2, 1, 3⟩
        ⟨⟨3, 1, 4⟩, ['.', ','], .impliedClose⟩ := rfl
    have htext : (⟨⟨3, 1, 4⟩, ['.', ','], .topLevel⟩ : Cursor).advance =
      .read ⟨.text, ['.', ','], [], false, []⟩ ⟨3, 1, 4⟩ ⟨⟨5, 1, 6⟩, [], .topLevel⟩ := rfl
    rw [Config.tokenize_eq_course, Cursor.course_of_read hname (by decide),
      Cursor.course_of_read hopening (by decide), Cursor.course_impliedClose,
      Cursor.course_of_read htext (by decide), Cursor.course_topLevel_nil]
    rfl
  obtain ⟨hwrite, hformed, -⟩ := canonical_text .default none
  have hws := hformed _ _ hts
  exact ⟨_, hts, by decide, hws, rfl, hwrite _ hws⟩

end Dialogue
