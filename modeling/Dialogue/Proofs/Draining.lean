import Dialogue.Proofs.Course
import Dialogue.Proofs.Sharing

/-!
# Draining and tokenizing

A lexer can be emptied in two ways. One asks the lexer for its next token, again and again. The
other makes a reader and asks that. They hand out a token at different moments: the lexer pops its
front before it hands it out, the reader hands out the front and pops it when it is asked for more.
As long as nothing fails, the only difference is the end of the script, which the reader hands out
and the lexer does not. If a pop fails, then the token in front of the fault makes the difference,
which the reader has already handed out, while the lexer keeps it.

Asking again and again is the relation `Collects`, for any kind of consumer. It shows that
`Lexer.drain` and `Lexer.tokenize` are what they are meant to be, the complete deliveries of the two
consumers, and no other deliveries are possible. The comparison itself, `Delivery.Agree`, has one
rule for each of the two outcomes and is kept when both deliveries get one more token in front
(`drains_agree`).
-/

namespace Dialogue

/-! ### Asking again and again -/

/-- **The complete delivery of a consumer**: it is asked until it has finished or meets a fault. A
consumer has a state of its own, and each time it is asked it is passed the lexer. -/
inductive Collects {σ : Type} (ask : σ → Lexer → σ × Served) : σ → Lexer → Delivery → Prop
  | finished {x x' : σ} {l l' : Lexer} {notes : List Note} :
      ask x l = (x', ⟨.finished, l', notes⟩) → Collects ask x l ⟨[], l', none, notes⟩
  | fault {x x' : σ} {l l' : Lexer} {notes : List Note} {f : Fault} :
      ask x l = (x', ⟨.fault f, l', notes⟩) → Collects ask x l ⟨[], l', some f, notes⟩
  | token {x x' : σ} {l l' : Lexer} {notes : List Note} {t : Token} {d : Delivery} :
      ask x l = (x', ⟨.token t, l', notes⟩) → Collects ask x' l' d →
      Collects ask x l (d.cons t notes)

theorem Collects.unique {σ : Type} {ask : σ → Lexer → σ × Served} {x : σ} {l : Lexer}
    {d d' : Delivery} (h : Collects ask x l d) (h' : Collects ask x l d') : d = d' := by
  induction h generalizing d' with
  | finished hask =>
    cases h' with
    | finished hask' =>
      cases hask.symm.trans hask'
      rfl
    | fault hask' | token hask' => cases hask.symm.trans hask'
  | fault hask =>
    cases h' with
    | fault hask' =>
      cases hask.symm.trans hask'
      rfl
    | finished hask' | token hask' => cases hask.symm.trans hask'
  | token hask _ ih =>
    cases h' with
    | token hask' hd' =>
      cases hask.symm.trans hask'
      rw [ih hd']
    | finished hask' | fault hask' => cases hask.symm.trans hask'

/-- A lexer as its own consumer, which needs no state besides. -/
def Lexer.consume (_ : Unit) (l : Lexer) : Unit × Served :=
  ((), l.next)

namespace Lexer

/-- **Draining is asking the lexer for its next token**, again and again. -/
theorem collects_drain (l : Lexer) : Collects consume () l l.drain := by
  fun_induction drain l with
  | case1 l he => exact .finished (congrArg (Prod.mk ()) (next_of_isEmpty he))
  | case2 l he f hf =>
    exact .fault (congrArg (Prod.mk ()) (next_of_fault (Bool.eq_false_iff.mpr he) hf))
  | case3 l he hf ih =>
    exact .token (congrArg (Prod.mk ()) (next_of_pop (Bool.eq_false_iff.mpr he) hf)) ih

/-- A reader that has served the front delivers what tokenizing delivers behind it. -/
theorem exists_tokenize_eq_cons (l : Lexer) :
    ∃ d, l.tokenize = d.cons l.front [] ∧ Collects Reader.next (.behind l.front) l d := by
  fun_induction tokenize l with
  | case1 l he =>
    exact ⟨⟨[], l, none, []⟩, rfl, .finished (Reader.next_behind_of_isEnd he l)⟩
  | case2 l he f hf =>
    exact ⟨⟨[], l.pop.lexer, some f, l.pop.notes⟩, rfl,
      .fault (Reader.next_behind_of_fault (Bool.eq_false_iff.mpr he) hf)⟩
  | case3 l he hf ih =>
    obtain ⟨d, htokenize, hd⟩ := ih
    -- the token that the reader serves next is the front once the lexer has been popped
    refine ⟨d.cons l.pop.lexer.front l.pop.notes, ?_,
      .token (Reader.next_behind_of_pop (Bool.eq_false_iff.mpr he) hf) hd⟩
    rw [htokenize]
    rfl

/-- **Tokenizing is asking a new reader**, again and again. -/
theorem collects_tokenize (l : Lexer) : Collects Reader.next .fresh l l.tokenize := by
  obtain ⟨d, htokenize, hd⟩ := l.exists_tokenize_eq_cons
  rw [htokenize]
  exact .token rfl hd

end Lexer

/-! ### The two deliveries -/

/-- **When what was drained and what was tokenized agree.** Either both got to the end, which was
tokenized and not drained, or both broke off with one fault, and the last token that was tokenized
was not drained and is still the front. The lexer and the notes are the same in both cases. -/
inductive Delivery.Agree : Delivery → Delivery → Prop
  | ended {ts : List Token} {l : Lexer} {notes : List Note} : (∀ t ∈ ts, t.isEnd = false) →
      l.front.isEnd = true → Agree ⟨ts, l, none, notes⟩ ⟨ts ++ [l.front], l, none, notes⟩
  | brokeOff {ts : List Token} {l : Lexer} {f : Fault} {notes : List Note} :
      (∀ t ∈ ts, t.isEnd = false) → l.front.isEnd = false →
      Agree ⟨ts, l, some f, notes⟩ ⟨ts ++ [l.front], l, some f, notes⟩

theorem Delivery.Agree.cons {d d' : Delivery} (h : d.Agree d') {t : Token} (ht : t.isEnd = false)
    (notes : List Note) : (d.cons t notes).Agree (d'.cons t notes) := by
  cases h with
  | ended hts hend => exact .ended (List.forall_mem_cons.mpr ⟨ht, hts⟩) hend
  | brokeOff hts hend => exact .brokeOff (List.forall_mem_cons.mpr ⟨ht, hts⟩) hend

theorem Lexer.drain_agree_tokenize (l : Lexer) : l.drain.Agree l.tokenize := by
  fun_induction drain l with
  | case1 l he =>
    rw [tokenize_of_isEmpty he]
    exact .ended (List.forall_mem_nil _) he
  | case2 l he f hf =>
    rw [tokenize_of_fault he hf, ← front_pop_of_fault hf]
    -- the pop that failed has left the front, which is not the end
    refine .brokeOff (List.forall_mem_nil _) ?_
    rw [front_pop_of_fault hf]
    exact Bool.eq_false_iff.mpr he
  | case3 l he hf ih =>
    rw [tokenize_of_pop he hf]
    exact ih.cons (Bool.eq_false_iff.mpr he) l.pop.notes

/-- **Draining and tokenizing agree.** From every lexer, however it was reached, draining is the one
delivery of the lexer when it is asked for its next token again and again, and tokenizing the one
delivery of a new reader. The two agree: if they get to the end, tokenizing delivers what draining
does, and the end; if they break off, they do so with one fault, and tokenizing delivers what
draining does, and the token that is left in front. Tokenizing a text is opening a lexer on it and
tokenizing that. -/
theorem drains_agree (conf : Config) (s : Text) (file : Option String) :
    (∀ l : Lexer,
      (∀ d, Collects Lexer.consume () l d ↔ d = l.drain) ∧
      (∀ d, Collects Reader.next .fresh l d ↔ d = l.tokenize) ∧
      l.drain.Agree l.tokenize) ∧
    (conf.tokenize s file).1 = (conf.openText s file).bind fun l => l.tokenize.result := by
  refine ⟨?_, ?_⟩
  · intro l
    refine ⟨?_, ?_, l.drain_agree_tokenize⟩
    · intro d
      constructor
      · exact fun h => h.unique l.collects_drain
      · rintro rfl
        exact l.collects_drain
    · intro d
      constructor
      · exact fun h => h.unique l.collects_tokenize
      · rintro rfl
        exact l.collects_tokenize
  · unfold Config.tokenize
    cases conf.openText s file with
    | error f => rfl
    | ok l => rfl

end Dialogue
