import Dialogue.Proofs.Runs
import Dialogue.Reader

/-!
# A shared lexer

One lexer can have any number of consumers. Some pop it, some take its next token, and each of any
number of readers walks along it; none is told what the others do. A reader even decides whether it
has finished by the token that *it* served last, wherever the lexer may be by then.

All the same they see one stream, the one that popping alone shows. A `History` is what has happened
to a shared lexer: how it stands, its readers, how many advances have succeeded, and a record of who
asked for what, and what was replied. Two things carry the proof.

* **A request pops once or not at all** (`History.answers_answer`). So the lexer is always as far as
  popping alone gets with as many pops as advances have succeeded, except that it may already have
  failed at the next one (`Lexer.Follows`). From either state the next pop comes to the same
  (`Lexer.Follows.pop_eq`).
* **The record of a reader tells its state** (`Reader.Tracks`): it is fresh when the record is
  empty, and it has more to serve when nothing in the record was the last.
-/

namespace Dialogue

/-! ### Histories -/

/-- **What a consumer can ask for.** -/
inductive Request where
  /-- Pop the front. -/
  | pop
  /-- Take the next token. -/
  | next
  /-- Make a reader; it gets the next free number. -/
  | join
  /-- Take the next token of the reader of this number. -/
  | read (i : Nat)
deriving DecidableEq, Repr

/-- What a request comes to. -/
structure Answer where
  /-- What is served, or the fault; nothing for a pop that succeeds or a new reader. -/
  reply : Option Serving
  /-- Whether it was a successful advance. -/
  advanced : Bool
  /-- The lexer afterwards. -/
  lexer : Lexer
deriving DecidableEq, Repr

/-- What is recorded of a request. -/
structure Entry where
  /-- The request. -/
  request : Request
  /-- What was replied. -/
  reply : Option Serving
  /-- How many advances had succeeded by then, this one included. -/
  advances : Nat
deriving DecidableEq, Repr

/-- **A history of a shared lexer.** -/
structure History where
  /-- The lexer as it stands. -/
  lexer : Lexer
  /-- The readers, by their numbers. -/
  readers : List Reader
  /-- How many advances have succeeded. -/
  advances : Nat
  /-- The record, in order. -/
  entries : List Entry
deriving DecidableEq, Repr

namespace Serving

/-- Whether a token was served. -/
def isToken : Serving → Bool
  | token _ => true
  | finished | fault _ => false

/-- Whether nothing should be served behind this: it is the end, or it is no token. -/
def isLast : Serving → Bool
  | token t => t.isEnd
  | finished | fault _ => true

end Serving

/-- **Whether a step of a reader is an advance.** The first is not: it serves the front as it
stands. -/
def Reader.advances (r : Reader) (m : Lexer) : Bool :=
  r != fresh && (r.next m).2.serving.isToken

namespace History

/-- The history of a lexer that was just opened. -/
def opened (l : Lexer) : History :=
  ⟨l, [], 0, []⟩

/-- **What a request comes to.** Nobody answers for a reader that was not made. -/
def answer (h : History) : Request → Answer
  | .pop => ⟨h.lexer.pop.fault.map .fault, h.lexer.pop.fault.isNone, h.lexer.pop.lexer⟩
  | .next => ⟨some h.lexer.next.serving, h.lexer.next.serving.isToken, h.lexer.next.lexer⟩
  | .join => ⟨none, false, h.lexer⟩
  | .read i =>
    match h.readers[i]? with
    | none => ⟨none, false, h.lexer⟩
    | some r => ⟨some (r.next h.lexer).2.serving, r.advances h.lexer, (r.next h.lexer).2.lexer⟩

/-- The readers behind a request. -/
def readersAfter (h : History) : Request → List Reader
  | .pop | .next => h.readers
  | .join => h.readers ++ [.fresh]
  | .read i => h.readers.modify i fun r => (r.next h.lexer).1

/-- **One more request.** -/
def ask (h : History) (q : Request) : History :=
  let advances := h.advances + (h.answer q).advanced.toNat
  { lexer := (h.answer q).lexer
    readers := h.readersAfter q
    advances := advances
    entries := h.entries ++ [⟨q, (h.answer q).reply, advances⟩] }

/-- **The history of a lexer** under a sequence of requests. -/
def after (l : Lexer) (qs : List Request) : History :=
  qs.foldl ask (opened l)

/-- Some advance has failed with this fault. -/
def Failed (h : History) (f : Fault) : Prop :=
  ∃ e ∈ h.entries, e.reply = some (.fault f)

/-- What a reader has served, each with the number of advances that had succeeded by then. -/
def servings (h : History) (i : Nat) : List (Nat × Serving) :=
  h.entries.filterMap fun e => if e.request = .read i then e.reply.map (e.advances, ·) else none

end History

/-! ### Following the stream -/

/-- **A lexer is as far down the stream of another as so many pops get.** It may have failed to get
further, and then the fault is told. -/
inductive Lexer.Follows (l : Lexer) (k : Nat) : Option Fault → Lexer → Prop
  /-- Nothing has failed so far. -/
  | going : (l.popMany k).fault = none → Follows l k none (l.popMany k).lexer
  /-- One pop more has failed. -/
  | failed {f : Fault} : (l.popMany k).fault = none → (l.popMany (k + 1)).fault = some f →
      Follows l k (some f) (l.popMany (k + 1)).lexer

/-- **What a request can do to a lexer**: nothing, or one pop. -/
inductive Lexer.Answers (m : Lexer) : Answer → Prop
  /-- The lexer stays. -/
  | still {reply : Option Serving} : (∀ f, reply ≠ some (.fault f)) → Answers m ⟨reply, false, m⟩
  /-- A pop succeeds. -/
  | moved {reply : Option Serving} : (∀ f, reply ≠ some (.fault f)) → m.pop.fault = none →
      Answers m ⟨reply, true, m.pop.lexer⟩
  /-- A pop fails. -/
  | failed {f : Fault} : m.pop.fault = some f →
      Answers m ⟨some (.fault f), false, m.pop.lexer⟩

namespace Lexer

variable {l m : Lexer} {k : Nat} {f : Fault} {f? : Option Fault}

/-- A pop that fails leaves the front: nothing was read that could take its place. -/
theorem front_pop_of_fault (h : l.pop.fault = some f) : l.pop.lexer.front = l.front := by
  obtain ⟨e, c, hadv, -⟩ := exists_stuck_of_fault h
  rw [pop_of_stuck hadv]

/-! `Lexer.next` in each of its cases. -/

theorem next_of_isEmpty (he : l.isEmpty = true) : l.next = ⟨.finished, l, []⟩ := by
  rw [next, if_pos he]

theorem next_of_fault (he : l.isEmpty = false) (hf : l.pop.fault = some f) :
    l.next = ⟨.fault f, l.pop.lexer, l.pop.notes⟩ := by
  rw [next, if_neg (by rw [he]; exact Bool.false_ne_true), hf]

theorem next_of_pop (he : l.isEmpty = false) (hf : l.pop.fault = none) :
    l.next = ⟨.token l.front, l.pop.lexer, l.pop.notes⟩ := by
  rw [next, if_neg (by rw [he]; exact Bool.false_ne_true), hf]

namespace Follows

/-- In either case the pops that are counted succeed; only one more may have failed. -/
theorem fault_popMany (h : l.Follows k f? m) : (l.popMany k).fault = none := by
  cases h with
  | going hk => exact hk
  | failed hk _ => exact hk

theorem eq_of_none (h : l.Follows k none m) : m = (l.popMany k).lexer := by
  cases h with
  | going _ => rfl

theorem eq_of_some (h : l.Follows k (some f) m) :
    (l.popMany (k + 1)).fault = some f ∧ m = (l.popMany (k + 1)).lexer := by
  cases h with
  | failed _ hf => exact ⟨hf, rfl⟩

/-- A failed pop leaves the front, so the front is that of the stream in any case. -/
theorem front_eq (h : l.Follows k f? m) : m.front = (l.popMany k).lexer.front := by
  cases h with
  | going _ => rfl
  | failed hk hf =>
    obtain ⟨hlexer, hfault⟩ := popMany_succ hk
    rw [hlexer]
    exact front_pop_of_fault (hfault.symm.trans hf)

/-- **Whoever pops next pops what popping alone would**, and fails as it would, again and again. -/
theorem pop_eq (h : l.Follows k f? m) :
    m.pop.lexer = (l.popMany (k + 1)).lexer ∧ m.pop.fault = (l.popMany (k + 1)).fault := by
  cases h with
  | going hk =>
    obtain ⟨hlexer, hfault⟩ := popMany_succ hk
    exact ⟨hlexer.symm, hfault.symm⟩
  | failed hk hf =>
    obtain ⟨hlexer, hfault⟩ := popMany_succ hk
    have hagain := pop_pop_of_fault (hfault.symm.trans hf)
    rw [hlexer, hagain, hfault]
    exact ⟨rfl, rfl⟩

/-- A pop that succeeds goes one further down the stream, and no pop can have failed before it. -/
theorem moved (h : l.Follows k f? m) (hf : m.pop.fault = none) :
    f? = none ∧ l.Follows (k + 1) none m.pop.lexer := by
  have hpop := h.pop_eq
  rw [hf] at hpop
  refine ⟨?_, ?_⟩
  · -- a pop that had failed would fail again
    cases f? with
    | none => rfl
    | some g => exact absurd (hpop.2.trans h.eq_of_some.1) nofun
  · rw [hpop.1]
    exact going hpop.2.symm

/-- A pop that fails goes no further down the stream. If one has failed before, it was with the same
fault. -/
theorem stuck (h : l.Follows k f? m) (hf : m.pop.fault = some f) :
    (∀ g, f? = some g → g = f) ∧ l.Follows k (some f) m.pop.lexer := by
  have hpop := h.pop_eq
  rw [hf] at hpop
  refine ⟨?_, ?_⟩
  · rintro g rfl
    exact Option.some.inj (h.eq_of_some.1.symm.trans hpop.2.symm)
  · rw [hpop.1]
    exact failed h.fault_popMany hpop.2.symm

end Follows

end Lexer

/-! ### The steps of a reader -/

namespace Reader

variable {m : Lexer} {f : Fault} {t : Token}

theorem next_behind_of_isEnd (ht : t.isEnd = true) (m : Lexer) :
    (behind t).next m = (finished, ⟨.finished, m, []⟩) := by
  rw [next, if_pos ht]

theorem next_behind_of_fault (ht : t.isEnd = false) (hf : m.pop.fault = some f) :
    (behind t).next m = (finished, ⟨.fault f, m.pop.lexer, m.pop.notes⟩) := by
  rw [next, if_neg (by rw [ht]; exact Bool.false_ne_true), hf]

theorem next_behind_of_pop (ht : t.isEnd = false) (hf : m.pop.fault = none) :
    (behind t).next m =
      (behind m.pop.lexer.front, ⟨.token m.pop.lexer.front, m.pop.lexer, m.pop.notes⟩) := by
  rw [next, if_neg (by rw [ht]; exact Bool.false_ne_true), hf]

/-- A step of a reader pops once or not at all: it pops if the reader has served a token that was
not the end. -/
theorem answers_next (r : Reader) (m : Lexer) :
    m.Answers ⟨some (r.next m).2.serving, r.advances m, (r.next m).2.lexer⟩ := by
  cases r with
  | fresh => exact .still nofun
  | finished => exact .still nofun
  | behind t =>
    -- it is the token served last that counts, not the front of the lexer
    cases ht : t.isEnd with
    | true =>
      rw [advances, next_behind_of_isEnd ht]
      exact .still nofun
    | false =>
      cases hf : m.pop.fault with
      | some f =>
        rw [advances, next_behind_of_fault ht hf]
        exact .failed hf
      | none =>
        rw [advances, next_behind_of_pop ht hf]
        exact .moved nofun hf

end Reader

/-- Something behind which nothing should be served is among the servings. -/
def HasLast (rs : List (Nat × Serving)) : Prop :=
  ∃ a ∈ rs, a.2.isLast = true

theorem not_hasLast_nil : ¬ HasLast [] := by
  rintro ⟨a, ha, -⟩
  exact absurd ha List.not_mem_nil

theorem hasLast_concat {rs : List (Nat × Serving)} {a : Nat × Serving} :
    HasLast (rs ++ [a]) ↔ HasLast rs ∨ a.2.isLast = true := by
  simp [HasLast, or_and_right, exists_or]

/-- **The servings of a reader are in order.** -/
structure ServedInOrder (l : Lexer) (rs : List (Nat × Serving)) : Prop where
  /-- A token is the front behind as many pops as advances had succeeded. -/
  token_eq : ∀ k t, (k, Serving.token t) ∈ rs → t = (l.popMany k).lexer.front
  /-- From one token to the next, advances have succeeded. -/
  increasing : rs.Pairwise fun a b => a.2.isToken = true → b.2.isToken = true → a.1 < b.1
  /-- Behind the end, behind a fault and once it has finished, the reader serves nothing. -/
  ended : rs.Pairwise fun a b => a.2.isLast = true → b.2 = .finished

/-- One serving more stays in order, if a token is the front of the stream there and comes behind
all tokens before it, and if nothing comes behind the last. -/
theorem ServedInOrder.concat {l : Lexer} {rs : List (Nat × Serving)} {k : Nat} {s : Serving}
    (h : ServedInOrder l rs) (htoken : ∀ t, s = .token t → t = (l.popMany k).lexer.front)
    (hlt : s.isToken = true → ∀ a ∈ rs, a.2.isToken = true → a.1 < k)
    (hended : HasLast rs → s = .finished) : ServedInOrder l (rs ++ [(k, s)]) where
  token_eq := by
    intro n t hmem
    rcases List.mem_append.mp hmem with hmem | hmem
    · exact h.token_eq n t hmem
    · cases List.mem_singleton.mp hmem
      exact htoken t rfl
  increasing := by
    refine List.pairwise_append.mpr ⟨h.increasing, List.pairwise_singleton _ _, ?_⟩
    intro a ha b hb hat hbt
    cases List.mem_singleton.mp hb
    exact hlt hbt a ha hat
  ended := by
    refine List.pairwise_append.mpr ⟨h.ended, List.pairwise_singleton _ _, ?_⟩
    intro a ha b hb hlast
    cases List.mem_singleton.mp hb
    exact hended ⟨a, ha, hlast⟩

/-- **What a reader has served tells where it stands.** -/
def Reader.StandsBehind : Reader → List (Nat × Serving) → Prop
  | fresh, rs => rs = []
  | behind t, rs => rs ≠ [] ∧ (HasLast rs ↔ t.isEnd = true)
  | finished, rs => HasLast rs

namespace Reader.StandsBehind

variable {r : Reader} {rs : List (Nat × Serving)}

/-- A reader that has served nothing is fresh. -/
theorem eq_fresh (h : r.StandsBehind []) : r = .fresh := by
  cases r with
  | fresh => rfl
  | behind t => exact absurd rfl h.1
  | finished => exact absurd h not_hasLast_nil

/-- A reader that has served something, but not the last, stands behind a token that is not the end.
This is when it will pop the lexer. -/
theorem exists_behind (h : r.StandsBehind rs) (hne : rs ≠ []) (hopen : ¬ HasLast rs) :
    ∃ t, r = .behind t ∧ t.isEnd = false := by
  cases r with
  | fresh => exact absurd h hne
  | behind t => exact ⟨t, rfl, Bool.eq_false_iff.mpr fun hend => hopen (h.2.mpr hend)⟩
  | finished => exact absurd h hopen

/-- A reader that has served the last is finished, or about to be: its step changes nothing. -/
theorem next_of_last (h : r.StandsBehind rs) (hlast : HasLast rs) (m : Lexer) :
    r.next m = (.finished, ⟨.finished, m, []⟩) := by
  cases r with
  | fresh =>
    obtain rfl : rs = [] := h
    exact absurd hlast not_hasLast_nil
  | behind t => exact next_behind_of_isEnd (h.2.mp hlast) m
  | finished => rfl

end Reader.StandsBehind

/-- **The invariant of a reader**, so many advances into the stream of `l`. -/
structure Reader.Tracks (l : Lexer) (k : Nat) (r : Reader) (rs : List (Nat × Serving)) : Prop where
  /-- What was served tells where the reader stands. -/
  standsBehind : r.StandsBehind rs
  /-- It was served in order. -/
  inOrder : ServedInOrder l rs
  /-- It was served by now. -/
  le : ∀ a ∈ rs, a.1 ≤ k

namespace Reader.Tracks

variable {l m : Lexer} {k n : Nat} {f? : Option Fault} {t : Token} {r : Reader}
  {rs : List (Nat × Serving)}

/-- Advances made by others do not disturb a reader. -/
theorem mono (h : r.Tracks l k rs) (hn : k ≤ n) : r.Tracks l n rs :=
  ⟨h.standsBehind, h.inOrder, fun a ha => Nat.le_trans (h.le a ha) hn⟩

theorem fresh (l : Lexer) (k : Nat) : Reader.fresh.Tracks l k [] where
  standsBehind := rfl
  inOrder := ⟨fun _ _ hmem => absurd hmem List.not_mem_nil, .nil, .nil⟩
  le := List.forall_mem_nil _

/-- The reader serves a token of the stream, further on than all that it has served. -/
theorem concat_token (h : r.Tracks l k rs) (hlt : ∀ a ∈ rs, a.1 < n) (hopen : ¬ HasLast rs)
    (ht : t = (l.popMany n).lexer.front) : (behind t).Tracks l n (rs ++ [(n, .token t)]) where
  standsBehind :=
    ⟨List.append_ne_nil_of_right_ne_nil _ (List.cons_ne_nil _ _),
      hasLast_concat.trans (or_iff_right hopen)⟩
  inOrder := by
    refine h.inOrder.concat ?_ (fun _ a ha _ => hlt a ha) fun hlast => absurd hlast hopen
    rintro _ ⟨⟩
    exact ht
  le := List.forall_mem_append.mpr
    ⟨fun a ha => Nat.le_of_lt (hlt a ha), List.forall_mem_singleton.mpr (Nat.le_refl n)⟩

/-- The reader serves no token, and has finished with it. -/
theorem concat_last {s : Serving} (h : r.Tracks l k rs) (hs : s.isToken = false)
    (hended : HasLast rs → s = .finished) : finished.Tracks l k (rs ++ [(k, s)]) where
  standsBehind := by
    -- what is no token is the last
    refine hasLast_concat.mpr (.inr ?_)
    cases s with
    | token t => cases hs
    | finished => rfl
    | fault f => rfl
  inOrder := by
    refine h.inOrder.concat ?_ ?_ hended
    · rintro t rfl
      cases hs
    · intro hst
      rw [hs] at hst
      cases hst
  le := List.forall_mem_append.mpr ⟨h.le, List.forall_mem_singleton.mpr (Nat.le_refl k)⟩

/-- **A step of a reader keeps its invariant**, wherever others have moved the lexer. -/
theorem next (h : r.Tracks l k rs) (hm : l.Follows k f? m) :
    (r.next m).1.Tracks l (k + (r.advances m).toNat)
      (rs ++ [(k + (r.advances m).toNat, (r.next m).2.serving)]) := by
  cases r with
  | fresh =>
    -- nothing was served before, and the front is that of the stream, whoever moved the lexer there
    obtain rfl : rs = [] := h.standsBehind
    exact h.concat_token (List.forall_mem_nil _) not_hasLast_nil hm.front_eq
  | finished => exact h.concat_last rfl fun _ => rfl
  | behind t =>
    cases ht : t.isEnd with
    | true =>
      rw [advances, next_behind_of_isEnd ht]
      exact h.concat_last rfl fun _ => rfl
    | false =>
      -- the reader did not serve the end, so nothing that it served was the last
      have hopen : ¬ HasLast rs := by
        rw [h.standsBehind.2, ht]
        exact Bool.false_ne_true
      cases hf : m.pop.fault with
      | some f =>
        rw [advances, next_behind_of_fault ht hf]
        exact h.concat_last rfl fun hlast => absurd hlast hopen
      | none =>
        -- the pop is one advance more, so the new front comes behind everything served by now
        rw [advances, next_behind_of_pop ht hf]
        refine h.concat_token (fun a ha => Nat.lt_succ_of_le (h.le a ha)) hopen ?_
        exact congrArg Lexer.front hm.pop_eq.1

end Reader.Tracks

/-! ### The steps of a history -/

namespace History

variable {l : Lexer} {h : History} {q : Request} {i : Nat} {r : Reader} {f : Fault}

/-- **A request pops once or not at all**, whoever makes it. -/
theorem answers_answer (h : History) (q : Request) : h.lexer.Answers (h.answer q) := by
  cases q with
  | pop =>
    rw [answer]
    cases hf : h.lexer.pop.fault with
    | some f => exact .failed hf
    | none => exact .moved nofun hf
  | next =>
    rw [answer]
    cases he : h.lexer.isEmpty with
    | true =>
      rw [Lexer.next_of_isEmpty he]
      exact .still nofun
    | false =>
      cases hf : h.lexer.pop.fault with
      | some f =>
        rw [Lexer.next_of_fault he hf]
        exact .failed hf
      | none =>
        rw [Lexer.next_of_pop he hf]
        exact .moved nofun hf
  | join => exact .still nofun
  | read i =>
    rw [answer]
    cases h.readers[i]? with
    | none => exact .still nofun
    | some r => exact r.answers_next h.lexer

/-- A fault that was met is one in the record, or the reply of this very request. -/
theorem failed_ask : (h.ask q).Failed f ↔ h.Failed f ∨ (h.answer q).reply = some (.fault f) := by
  simp [Failed, ask, or_and_right, exists_or]

/-- A reader serves nothing on the request of anybody else. -/
theorem servings_ask_of_ne (hq : q ≠ .read i) : (h.ask q).servings i = h.servings i := by
  simp [servings, ask, List.filterMap_append, hq]

theorem servings_ask_of_none (hr : h.readers[i]? = none) :
    (h.ask (.read i)).servings i = h.servings i := by
  simp [servings, ask, answer, List.filterMap_append, hr]

/-- A reader that is asked serves once, and this is counted behind the advance it may have made. -/
theorem servings_ask_of_some (hr : h.readers[i]? = some r) :
    (h.ask (.read i)).servings i =
      h.servings i ++ [((h.ask (.read i)).advances, (r.next h.lexer).2.serving)] := by
  simp [servings, ask, answer, List.filterMap_append, hr]

theorem advances_ask_of_some (hr : h.readers[i]? = some r) :
    (h.ask (.read i)).advances = h.advances + (r.advances h.lexer).toNat := by
  simp [ask, answer, hr]

/-- **Where a reader comes from**: it has just made a step, it is new, or nobody has touched it. -/
theorem reader_cases (hr : (h.ask q).readers[i]? = some r) :
    (∃ r', q = .read i ∧ h.readers[i]? = some r' ∧ r = (r'.next h.lexer).1) ∨
      (q = .join ∧ h.readers[i]? = none ∧ r = .fresh) ∨
      (q ≠ .read i ∧ h.readers[i]? = some r) := by
  cases q with
  | pop => exact .inr (.inr ⟨nofun, hr⟩)
  | next => exact .inr (.inr ⟨nofun, hr⟩)
  | join =>
    -- the new reader is the last one, so all others keep their numbers
    change (h.readers ++ [Reader.fresh])[i]? = some r at hr
    by_cases hi : i < h.readers.length
    · rw [List.getElem?_append_left hi] at hr
      exact .inr (.inr ⟨nofun, hr⟩)
    · have hnone := List.getElem?_eq_none (Nat.le_of_not_lt hi)
      rw [List.getElem?_append_right (Nat.le_of_not_lt hi)] at hr
      exact .inr (.inl ⟨rfl, hnone, List.mem_singleton.mp (List.mem_of_getElem? hr)⟩)
  | read j =>
    change (h.readers.modify j fun r => (r.next h.lexer).1)[i]? = some r at hr
    rw [List.getElem?_modify] at hr
    obtain ⟨r', hr', rfl⟩ := Option.map_eq_some_iff.mp hr
    by_cases hj : j = i
    · subst hj
      exact .inl ⟨r', rfl, hr', if_pos rfl⟩
    · rw [if_neg hj]
      exact .inr (.inr ⟨fun heq => hj (Request.read.inj heq), hr'⟩)

/-- Readers are made and never dropped. -/
theorem length_readers_le (h : History) (q : Request) :
    h.readers.length ≤ (h.ask q).readers.length := by
  cases q with
  | pop | next => exact Nat.le_refl _
  | join =>
    change _ ≤ (h.readers ++ [Reader.fresh]).length
    rw [List.length_append]
    exact Nat.le_add_right _ _
  | read i => exact Nat.le_of_eq (List.length_modify _ _ _).symm

/-- **The invariant of a history** of the lexer `l`. -/
structure Coherent (l : Lexer) (h : History) : Prop where
  /-- The lexer is as far down the stream as advances have succeeded, and knows what has failed. -/
  lexer : ∃ f?, l.Follows h.advances f? h.lexer ∧ ∀ f, h.Failed f ↔ f? = some f
  /-- Every reader keeps to its own invariant. -/
  readers : ∀ (i : Nat) (r : Reader), h.readers[i]? = some r → r.Tracks l h.advances (h.servings i)
  /-- Nothing was served by readers that were not made. -/
  absent : ∀ i : Nat, h.readers[i]? = none → h.servings i = []

namespace Coherent

/-- Nothing has happened to a lexer that was just opened, so it is where no pops at all get. -/
theorem opened (l : Lexer) : (History.opened l).Coherent l where
  lexer := by
    refine ⟨none, .going rfl, fun f => ⟨?_, ?_⟩⟩
    · rintro ⟨e, he, -⟩
      exact absurd he List.not_mem_nil
    · intro hf
      cases hf
  readers := by
    intro i r hr
    change ([] : List Reader)[i]? = some r at hr
    rw [List.getElem?_nil] at hr
    cases hr
  absent := fun _ _ => rfl

/-- One request keeps the lexer on the stream: by one pop, by none, or by one that fails. -/
theorem lexer_ask (hh : h.Coherent l) (q : Request) :
    ∃ f?, l.Follows (h.ask q).advances f? (h.ask q).lexer ∧
      ∀ f, (h.ask q).Failed f ↔ f? = some f := by
  obtain ⟨f?, hm, hfailed⟩ := hh.lexer
  have hans := h.answers_answer q
  simp only [failed_ask, hfailed]
  change ∃ f?, l.Follows (h.advances + (h.answer q).advanced.toNat) f? (h.answer q).lexer ∧ _
  generalize h.answer q = a at hans ⊢
  cases hans with
  | still hreply => exact ⟨f?, hm, fun f => or_iff_left (hreply f)⟩
  | moved hreply hf =>
    obtain ⟨rfl, hmoved⟩ := hm.moved hf
    exact ⟨none, hmoved, fun f => or_iff_left (hreply f)⟩
  | @failed f hf =>
    -- if something has failed before, it was this
    obtain ⟨hsame, hstuck⟩ := hm.stuck hf
    refine ⟨some f, hstuck, fun g => ⟨?_, ?_⟩⟩
    · rintro (hg | hg)
      · rw [hsame g hg]
      · cases hg
        rfl
    · intro hg
      cases hg
      exact .inr rfl

/-- **One request keeps the invariant.** -/
theorem ask (hh : h.Coherent l) (q : Request) : (h.ask q).Coherent l where
  lexer := hh.lexer_ask q
  readers := by
    intro i r hr
    obtain ⟨f?, hm, -⟩ := hh.lexer
    rcases reader_cases hr with ⟨r', rfl, hr', rfl⟩ | ⟨rfl, hr', rfl⟩ | ⟨hq, hr'⟩
    · -- the reader that was asked has moved
      rw [servings_ask_of_some hr', advances_ask_of_some hr']
      exact (hh.readers i r' hr').next hm
    · -- a new reader has served nothing, as its number was free
      rw [servings_ask_of_ne (q := .join) nofun, hh.absent i hr']
      exact .fresh l _
    · -- all others stay, while the advances may have become more
      rw [servings_ask_of_ne hq]
      exact (hh.readers i r hr').mono (Nat.le_add_right _ _)
  absent := by
    intro i hr
    -- a number that is free afterwards was free before
    have hnone : h.readers[i]? = none := List.getElem?_eq_none
      (Nat.le_trans (h.length_readers_le q) (List.getElem?_eq_none_iff.mp hr))
    by_cases hq : q = .read i
    · rw [hq, servings_ask_of_none hnone]
      exact hh.absent i hnone
    · rw [servings_ask_of_ne hq]
      exact hh.absent i hnone

/-- **The invariant holds along every history.** -/
theorem after (l : Lexer) (qs : List Request) : (History.after l qs).Coherent l :=
  List.foldlRecOn qs History.ask (opened l) fun _ hh q _ => hh.ask q

end Coherent

end History

/-! ### The end repeats -/

namespace Lexer

variable {l : Lexer} {src : Source} {s : Text}

/-- Once the end is the front, popping changes nothing. -/
def EndStays (l : Lexer) : Prop :=
  l.front.isEnd = true → l.pop.lexer = l ∧ l.pop.fault = none

/-- The end, once read, is read again at the same place. -/
theorem endStays_of_read {c next : Cursor} {lexeme : Lexeme} {p : Position}
    (h : c.advance = .read lexeme p next) (src : Source) :
    EndStays ⟨src, next, lexeme.token p src.file⟩ := by
  intro hend
  have hk : lexeme.kind = .eof := by simpa [Token.isEnd] using hend
  rw [pop_of_read (l := ⟨src, next, lexeme.token p src.file⟩) (Cursor.advance_of_eof h hk)]
  exact ⟨rfl, rfl⟩

/-- A pop leads to a front that was just read, or it fails and keeps the one there was. -/
theorem EndStays.pop (h : l.EndStays) : l.pop.lexer.EndStays := by
  cases hadv : l.cursor.advance with
  | read lexeme p next =>
    rw [pop_of_read hadv]
    exact endStays_of_read hadv l.source
  | stuck e c =>
    -- the front stays, and at the end nothing is stuck
    rw [pop_of_stuck hadv]
    intro hend
    have hf := (h hend).2
    rw [pop_of_stuck hadv] at hf
    cases hf

/-- From the opening on, the end stays wherever popping gets. -/
theorem endStays_popMany (h : Lexer.ofText src s = .ok l) (k : Nat) :
    (l.popMany k).lexer.EndStays := by
  obtain ⟨lexeme, p, next, hadv, rfl⟩ := ofText_eq_ok_iff.mp h
  exact popMany_induction (P := EndStays) (fun _ => EndStays.pop) (endStays_of_read hadv src) k

end Lexer

/-! ### One stream -/

namespace History

/-- **A shared lexer stands where popping alone gets**, with as many pops as advances have
succeeded. -/
structure StandsAsPopped (l : Lexer) (h : History) : Prop where
  /-- As many pops succeed. -/
  pops : (l.popMany h.advances).fault = none
  /-- The front is the one behind these pops. -/
  front_eq : h.lexer.front = (l.popMany h.advances).lexer.front
  /-- As long as nothing has failed, the lexer is the one behind these pops. -/
  lexer_eq : (∀ f, ¬ h.Failed f) → h.lexer = (l.popMany h.advances).lexer
  /-- Once something has failed, the lexer is the one behind the first pop that fails, and this
  fails in the same way. -/
  failed : ∀ f, h.Failed f →
    (l.popMany (h.advances + 1)).fault = some f ∧ h.lexer = (l.popMany (h.advances + 1)).lexer
  /-- The end repeats. -/
  end_repeats : h.lexer.front.isEnd = true →
    (l.popMany (h.advances + 1)).fault = none ∧ (l.popMany (h.advances + 1)).lexer = h.lexer

/-- **What the next token of a shared lexer is.** -/
structure NextServes (l : Lexer) (h : History) : Prop where
  /-- At the end there is none, and nothing changes. -/
  finished : (l.popMany h.advances).lexer.front.isEnd = true →
    h.answer .next = ⟨some .finished, false, h.lexer⟩
  /-- Before the end it is the front, and the lexer advances. -/
  token : (l.popMany h.advances).lexer.front.isEnd = false →
    (l.popMany (h.advances + 1)).fault = none →
    h.answer .next =
      ⟨some (.token (l.popMany h.advances).lexer.front), true, (l.popMany (h.advances + 1)).lexer⟩
  /-- If the lexer cannot advance, nothing is served and the front stays. -/
  fault : (l.popMany h.advances).lexer.front.isEnd = false →
    ∀ f, (l.popMany (h.advances + 1)).fault = some f →
      h.answer .next = ⟨some (.fault f), false, (l.popMany (h.advances + 1)).lexer⟩ ∧
        (l.popMany (h.advances + 1)).lexer.front = (l.popMany h.advances).lexer.front

/-- **What a reader of a shared lexer serves.** -/
structure ReaderServes (l : Lexer) (h : History) (i : Nat) : Prop where
  /-- What it has served is in order. -/
  inOrder : ServedInOrder l (h.servings i)
  /-- First, it serves the front as it stands. -/
  first : h.servings i = [] →
    h.answer (.read i) = ⟨some (.token (l.popMany h.advances).lexer.front), false, h.lexer⟩
  /-- Unless what it served was the last, it then advances the lexer and serves the new front. -/
  token : h.servings i ≠ [] → ¬ HasLast (h.servings i) →
    (l.popMany (h.advances + 1)).fault = none →
    h.answer (.read i) =
      ⟨some (.token (l.popMany (h.advances + 1)).lexer.front), true,
        (l.popMany (h.advances + 1)).lexer⟩
  /-- If the lexer cannot advance, nothing is served. -/
  fault : h.servings i ≠ [] → ¬ HasLast (h.servings i) →
    ∀ f, (l.popMany (h.advances + 1)).fault = some f →
      h.answer (.read i) = ⟨some (.fault f), false, (l.popMany (h.advances + 1)).lexer⟩
  /-- Behind the last, nothing is served and nothing changes. -/
  finished : HasLast (h.servings i) →
    h.answer (.read i) = ⟨some .finished, false, h.lexer⟩

namespace Coherent

variable {l : Lexer} {h : History} {i : Nat} {r : Reader}

/-- The invariant tells where the lexer stands; that the end repeats is a fact about reading. -/
theorem standsAsPopped (hh : h.Coherent l) (hend : (l.popMany h.advances).lexer.EndStays) :
    h.StandsAsPopped l := by
  obtain ⟨f?, hm, hfailed⟩ := hh.lexer
  refine ⟨hm.fault_popMany, hm.front_eq, ?_, ?_, ?_⟩
  · intro hnone
    -- what the lexer knows to have failed is in the record
    cases f? with
    | none => exact hm.eq_of_none
    | some f => exact absurd ((hfailed f).mpr rfl) (hnone f)
  · intro f hf
    cases (hfailed f).mp hf
    exact hm.eq_of_some
  · intro hlast
    rw [hm.front_eq] at hlast
    obtain ⟨hlexer, hfault⟩ := Lexer.popMany_succ hm.fault_popMany
    obtain ⟨hsame, hnone⟩ := hend hlast
    -- the pop that would come next succeeds, so nothing has failed
    have hok : (l.popMany (h.advances + 1)).fault = none := hfault.trans hnone
    obtain ⟨rfl, -⟩ := hm.moved (hm.pop_eq.2.trans hok)
    exact ⟨hok, (hlexer.trans hsame).trans hm.eq_of_none.symm⟩

/-- The lexer looks at its own front, and this is the front of the stream. So the stream alone tells
the next token. -/
theorem nextServes (hh : h.Coherent l) : h.NextServes l := by
  obtain ⟨f?, hm, -⟩ := hh.lexer
  obtain ⟨hlexer, hfault⟩ := hm.pop_eq
  have hfront := hm.front_eq
  refine ⟨?_, ?_, ?_⟩
  · intro hend
    rw [← hfront] at hend
    rw [answer, Lexer.next_of_isEmpty hend]
    rfl
  · intro hend hok
    rw [← hfront] at hend ⊢
    rw [answer, Lexer.next_of_pop hend (hfault.trans hok), hlexer]
    rfl
  · intro hend f hf
    rw [← hfront] at hend ⊢
    rw [answer, Lexer.next_of_fault hend (hfault.trans hf), ← hlexer]
    exact ⟨rfl, Lexer.front_pop_of_fault (hfault.trans hf)⟩

/-- The record of a reader tells which step it makes next, and the stream tells what comes of it. -/
theorem readerServes (hh : h.Coherent l) (hr : h.readers[i]? = some r) : h.ReaderServes l i := by
  obtain ⟨f?, hm, -⟩ := hh.lexer
  obtain ⟨hlexer, hfault⟩ := hm.pop_eq
  have htracks := hh.readers i r hr
  have hstands := htracks.standsBehind
  have hans : h.answer (.read i) =
      ⟨some (r.next h.lexer).2.serving, r.advances h.lexer, (r.next h.lexer).2.lexer⟩ := by
    simp only [answer, hr]
  rw [Reader.advances] at hans
  refine ⟨htracks.inOrder, ?_, ?_, ?_, ?_⟩
  · intro hnil
    -- no pop: the front is served as it stands, even behind a fault
    rw [hnil] at hstands
    rw [hans, hstands.eq_fresh, ← hm.front_eq]
    rfl
  · intro hne hopen hok
    obtain ⟨t, rfl, ht⟩ := hstands.exists_behind hne hopen
    rw [hans, Reader.next_behind_of_pop ht (hfault.trans hok), hlexer]
    rfl
  · intro hne hopen f hf
    obtain ⟨t, rfl, ht⟩ := hstands.exists_behind hne hopen
    rw [hans, Reader.next_behind_of_fault ht (hfault.trans hf), hlexer]
    rfl
  · intro hlast
    rw [hans, hstands.next_of_last hlast]
    exact congrArg (Answer.mk _ · _) (Bool.and_false _)

end Coherent

end History

/-- **Any mix of consumers sees one stream.** Whatever sequence of pops, next tokens, new readers
and steps of readers a lexer has been through, it stands where popping alone gets with as many pops
as advances have succeeded; its next token is the front there; and each of its readers yields such
fronts, further and further on, until it has yielded the end or met a fault. -/
theorem consumers_see_one_stream (src : Source) (s : Text) (l : Lexer)
    (hl : Lexer.ofText src s = .ok l) (qs : List Request) :
    (History.after l qs).StandsAsPopped l ∧
      (History.after l qs).NextServes l ∧
      ∀ i < (History.after l qs).readers.length, (History.after l qs).ReaderServes l i := by
  have hh := History.Coherent.after l qs
  refine ⟨hh.standsAsPopped (Lexer.endStays_popMany hl _), hh.nextServes, ?_⟩
  intro i hi
  exact hh.readerServes (List.getElem?_eq_getElem hi)

/-- Two readers join, before and behind a token that is taken. The pop that meets the stray comma
fails, then so does each reader, and the second has finished when it is asked once more. -/
theorem consumers_see_one_stream_stray_comma :
    ∃ l h, Lexer.ofText ⟨none, false⟩ ['a', ' ', 'b', ','] = .ok l ∧
      h = History.after l
        [.join, .read 0, .next, .join, .read 1, .pop, .read 0, .read 1, .read 1] ∧
      h.StandsAsPopped l ∧ h.NextServes l ∧ h.ReaderServes l 0 ∧ h.ReaderServes l 1 ∧
      h.advances = 1 ∧
      (h.servings 0).map (fun a => (a.1, a.2.isToken)) = [(0, true), (1, false)] ∧
      (h.servings 1).map (fun a => (a.1, a.2.isToken)) = [(1, true), (1, false), (1, false)] := by
  have hl : Lexer.ofText ⟨none, false⟩ ['a', ' ', 'b', ','] =
      .ok ⟨⟨none, false⟩, ⟨⟨1, 1, 2⟩, [' ', 'b', ','], .topLevel⟩,
        ⟨.label, ['a'], .ofSpan .origin 1 none⟩⟩ := rfl
  obtain ⟨hstands, hnext, hreaders⟩ := consumers_see_one_stream _ _ _ hl
    [.join, .read 0, .next, .join, .read 1, .pop, .read 0, .read 1, .read 1]
  exact ⟨_, _, hl, rfl, hstands, hnext, hreaders 0 (by decide), hreaders 1 (by decide), by decide,
    by decide, by decide⟩

end Dialogue
