import Dialogue.Encoding.Decode

/-!
# Strict and lenient decoding

The strict remedy refuses bytes at their first flaw, the lenient ones put something in place of
every flaw. Up to the first flaw they have to agree: what the strict remedy says about the place of
the flaw tells how much of the lenient text is sound (`strict_agrees_with_lenient`).

A codec finds what stands at the front of some bytes, and it may look at bytes far behind. The
agreement rests on one property of all codecs: a character that was found is found in front of the
same bytes again, whatever follows them (`Decoder.SelfContained`). A codec that is self-contained
cuts any bytes into some that spell a text (`Decoder.Spells`) and, behind these, nothing or a flaw
(`Decoder.FlawAt`).

* Bytes that spell a text can be decoded on their own, under every remedy, and whatever follows them
  is decoded as if it stood alone (`Decoder.Spells.mend_append`).
* In front of a flaw the strict remedy stops. No part of the bytes that reaches beyond this place is
  a text: cutting bytes off behind a flaw never mends it (`Decoder.FlawAt.take`).

That the codecs are self-contained is proved along their definitions: one lemma for each way in
which a find is made out of others (`SelfContained.ite`, `SelfContained.cons`).
-/

namespace Dialogue

/-! ### Finds that depend on their own bytes -/

/-- **A find is self-contained**, where `taken` bytes beyond the first have been looked at before:
if it is a character, then the bytes that belong to it are all there, and the character is found in
front of them whatever follows. -/
def SelfContained (taken : Nat) (find : Bytes → Find) : Prop :=
  ∀ tail more c, find tail = ⟨more, .ok c⟩ →
    ∃ own rest, tail = own ++ rest ∧ more = taken + own.length ∧
      ∀ rest', find (own ++ rest') = ⟨more, .ok c⟩

namespace SelfContained

variable {taken : Nat} {find find' : Bytes → Find}

theorem char (taken code : Nat) : SelfContained taken fun _ => .char taken code := by
  intro tail more c h
  cases h
  exact ⟨[], tail, rfl, rfl, fun _ => rfl⟩

theorem flaw (taken more : Nat) (f : Flaw) : SelfContained taken fun _ => .flaw more f := by
  intro tail more c h
  cases h

theorem ofOption (taken : Nat) (c? : Option Char) :
    SelfContained taken fun _ => .ofOption taken c? := by
  intro tail more c h
  cases c? with
  | none => cases h
  | some c =>
    cases h
    exact ⟨[], tail, rfl, rfl, fun _ => rfl⟩

/-- A choice that was made before is a choice between two finds. -/
theorem ite {p : Prop} [Decidable p] (h : SelfContained taken find)
    (h' : SelfContained taken find') :
    SelfContained taken fun tail => if p then find tail else find' tail := by
  by_cases hp : p
  · simpa only [if_pos hp] using h
  · simpa only [if_neg hp] using h'

/-- **One byte more.** A find that wants another byte is self-contained if it is so for each byte
that may come, and a flaw where there is none. -/
theorem cons {more : Nat} {f : Flaw} (hnil : find [] = .flaw more f)
    (hcons : ∀ b, SelfContained (taken + 1) fun tail => find (b :: tail)) :
    SelfContained taken find := by
  intro tail more c h
  cases tail with
  | nil =>
    rw [hnil] at h
    cases h
  | cons b tail =>
    obtain ⟨own, rest, htail, hmore, hfind⟩ := hcons b tail more c h
    refine ⟨b :: own, rest, congrArg (b :: ·) htail, ?_, hfind⟩
    rw [hmore, List.length_cons]
    omega

end SelfContained

/-! ### The codecs are self-contained -/

/-- **A codec is self-contained** when all its finds are. -/
def Decoder.SelfContained (d : Decoder) : Prop :=
  ∀ b, Dialogue.SelfContained 0 (d b)

theorem Utf8.selfContained_follow (code taken : Nat) (ranges : List CodeRange) :
    SelfContained taken (Utf8.follow code taken ranges) := by
  induction ranges generalizing code taken with
  | nil =>
    show SelfContained taken fun _ => .char taken code
    exact .char taken code
  | cons r rs ih =>
    -- the byte is in its range, and the sequence goes on, or it breaks the sequence
    apply SelfContained.cons rfl
    intro b
    exact .ite (ih _ _) (.flaw _ _ _)

theorem ShiftJis.selfContained_pair (cell? : Nat → Nat → Option Char) (lead : Nat) :
    SelfContained 0 (ShiftJis.pair cell? lead) := by
  apply SelfContained.cons rfl
  intro b
  exact .ite (.ofOption 1 _) (.flaw _ _ _)

theorem EucJp.selfContained_kana : SelfContained 0 EucJp.kana := by
  apply SelfContained.cons rfl
  intro b
  exact .ite (.char 1 _) (.flaw _ _ _)

theorem EucJp.selfContained_supplement : SelfContained 0 EucJp.supplement := by
  apply SelfContained.cons rfl
  intro b
  apply SelfContained.cons rfl
  intro b'
  exact .ofOption 2 (Jis.supplement.cell? (index b) (index b'))

theorem EucJp.selfContained_pair (row : UInt8) : SelfContained 0 (EucJp.pair row) := by
  apply SelfContained.cons rfl
  intro b
  exact .ofOption 1 (Jis.standard.cell? (index row) (index b))

/-- **All codecs are self-contained.** -/
theorem Codec.selfContained (codec : Codec) : codec.decoder.SelfContained := by
  intro b
  cases codec with
  | ascii => exact .ite (.char 0 _) (.flaw _ _ _)
  | latin1 => exact .char 0 _
  | utf8 =>
    exact .ite (.char 0 _) (.ite (.flaw _ _ _) (.ite (Utf8.selfContained_follow _ _ _)
      (.ite (Utf8.selfContained_follow _ _ _) (.ite (Utf8.selfContained_follow _ _ _)
        (.flaw _ _ _)))))
  | shiftJis =>
    exact .ite (.char 0 _) (.ite (.char 0 _) (.ite (ShiftJis.selfContained_pair _ _)
      (.flaw _ _ _)))
  | vendorJis =>
    exact .ite (.char 0 _) (.ite (.char 0 _) (.ite (ShiftJis.selfContained_pair _ _)
      (.ite (.char 0 _) (.char 0 _))))
  | eucJp =>
    exact .ite (.char 0 _) (.ite EucJp.selfContained_kana (.ite EucJp.selfContained_supplement
      (EucJp.selfContained_pair b)))

/-! ### Bytes that spell a text, and flaws -/

namespace Decoder

/-- **Bytes spell a text**: they are the bytes of its characters, each of which is found whatever
follows its bytes. -/
inductive Spells (d : Decoder) : Bytes → Text → Prop
  /-- No bytes spell the empty text. -/
  | nil : Spells d [] []
  /-- A first byte and the further ones of a character, in front of bytes that spell a text. -/
  | cons {b : UInt8} {own u : Bytes} {c : Char} {t : Text} :
      (∀ rest, d b (own ++ rest) = ⟨own.length, .ok c⟩) → Spells d u t →
      Spells d (b :: (own ++ u)) (c :: t)

/-- **A flaw at the front of some bytes.** -/
inductive FlawAt (d : Decoder) (f : Flaw) : Bytes → Prop
  /-- What is found at the first byte is the flaw. -/
  | mk {b : UInt8} {tail : Bytes} {more : Nat} :
      d b tail = ⟨more, .error f⟩ → FlawAt d f (b :: tail)

variable {d : Decoder} {u v : Bytes} {t : Text} {f : Flaw}

/-- The piece of a character that is found in front of its bytes. -/
theorem pieces_of_char {b : UInt8} {own : Bytes} {c : Char}
    (h : d b (own ++ v) = ⟨own.length, .ok c⟩) :
    d.pieces (b :: (own ++ v)) = ⟨b :: own, .ok c⟩ :: d.pieces v := by
  rw [pieces, h]
  simp only [List.take_left, List.drop_left]

/-- **Bytes that spell a text are decoded on their own**, under every remedy, and what follows them
is decoded as if it stood alone. -/
theorem Spells.mend_append (h : d.Spells u t) (remedy : Remedy) (offset : Nat) (v : Bytes) :
    mend remedy offset (d.pieces (u ++ v)) =
      (mend remedy (offset + u.length) (d.pieces v)).map (t ++ ·) := by
  induction h generalizing offset with
  | nil =>
    show mend remedy offset (d.pieces v) = (mend remedy offset (d.pieces v)).map id
    rw [Except.map_id]
    rfl
  | @cons b own u c t hfind _ ih =>
    have hpieces : d.pieces (b :: (own ++ u) ++ v) = ⟨b :: own, .ok c⟩ :: d.pieces (u ++ v) := by
      rw [List.cons_append, List.append_assoc]
      exact pieces_of_char (hfind (u ++ v))
    have hlength : offset + (b :: own).length + u.length = offset + (b :: (own ++ u)).length := by
      simp only [List.length_cons, List.length_append]
      omega
    calc mend remedy offset (d.pieces (b :: (own ++ u) ++ v))
        = (mend remedy (offset + (b :: own).length) (d.pieces (u ++ v))).map (c :: ·) := by
          rw [hpieces]
          rfl
      _ = ((mend remedy (offset + (b :: (own ++ u)).length) (d.pieces v)).map (t ++ ·)).map
            (c :: ·) := by rw [ih, hlength]
      _ = (mend remedy (offset + (b :: (own ++ u)).length) (d.pieces v)).map (c :: t ++ ·) := by
          cases mend remedy (offset + (b :: (own ++ u)).length) (d.pieces v) <;> rfl

/-- Bytes that spell a text are that text, under every remedy. -/
theorem Spells.mend_eq (h : d.Spells u t) (remedy : Remedy) (offset : Nat) :
    mend remedy offset (d.pieces u) = .ok t := by
  have happend := h.mend_append remedy offset []
  rw [List.append_nil] at happend
  rw [happend, pieces]
  show Except.ok (t ++ []) = _
  rw [List.append_nil]

/-- **The strict remedy stops at a flaw.** -/
theorem FlawAt.mend_refuse (h : d.FlawAt f v) (offset : Nat) :
    mend .refuse offset (d.pieces v) = .error (.refused offset f) := by
  obtain ⟨hfind⟩ := h
  rw [pieces, hfind]
  rfl

/-- Behind bytes that spell a text, the flaw is reported at its own place. -/
theorem Spells.mend_refuse (h : d.Spells u t) (hflaw : d.FlawAt f v) :
    mend .refuse 0 (d.pieces (u ++ v)) = .error (.refused u.length f) := by
  rw [h.mend_append, hflaw.mend_refuse, Nat.zero_add]
  rfl

theorem FlawAt.length_pos (h : d.FlawAt f v) : 0 < v.length := by
  obtain ⟨hfind⟩ := h
  exact Nat.succ_pos _

/-- **A flaw stays when bytes behind it are cut off**, though another reason may be given for it. -/
theorem FlawAt.take (hd : d.SelfContained) (h : d.FlawAt f v) {n : Nat} (hn : 0 < n) :
    ∃ f', d.FlawAt f' (v.take n) := by
  obtain ⟨n, rfl⟩ := Nat.exists_eq_succ_of_ne_zero (Nat.ne_of_gt hn)
  obtain @⟨b, tail, _, hfind⟩ := h
  rw [List.take_succ_cons]
  rcases hcut : d b (tail.take n) with ⟨more, f' | c⟩
  · exact ⟨f', .mk hcut⟩
  · -- a character would be found in front of all bytes too, where the flaw is
    obtain ⟨own, rest, htake, -, hown⟩ := hd b _ _ _ hcut
    have htail : own ++ (rest ++ tail.drop n) = tail := by
      rw [← List.append_assoc, ← htake, List.take_append_drop]
    have hchar := hown (rest ++ tail.drop n)
    rw [htail, hfind] at hchar
    cases hchar

/-- **Bytes are cut at the first flaw**: what stands before it spells a text. -/
theorem SelfContained.exists_spells (hd : d.SelfContained) (bytes : Bytes) :
    ∃ u t v, bytes = u ++ v ∧ d.Spells u t ∧ (v = [] ∨ ∃ f, d.FlawAt f v) := by
  induction bytes using Decoder.pieces.induct d with
  | case1 => exact ⟨[], [], [], rfl, .nil, .inl rfl⟩
  | case2 b tail find ih =>
    rcases hfind : d b tail with ⟨more, f | c⟩
    · exact ⟨[], [], b :: tail, rfl, .nil, .inr ⟨f, .mk hfind⟩⟩
    · obtain ⟨own, rest, rfl, hmore, hown⟩ := hd b _ _ _ hfind
      rw [Nat.zero_add] at hmore
      -- the bytes behind the character are those that the next piece is taken from
      have hdrop : (own ++ rest).drop find.more = rest := by
        rw [show find.more = own.length from (congrArg Find.more hfind).trans hmore,
          List.drop_left]
      rw [hdrop] at ih
      obtain ⟨u, t, v, rfl, hspells, hflaw⟩ := ih
      have hspells' : d.Spells (b :: (own ++ u)) (c :: t) :=
        .cons (fun rest' => hmore ▸ hown rest') hspells
      refine ⟨b :: (own ++ u), c :: t, v, ?_, hspells', hflaw⟩
      rw [List.cons_append, List.append_assoc]

end Decoder

/-! ### Remedies -/

/-- The settings with the remedy of another name. -/
def Config.withRemedy (c : Config) (name : String) : Config :=
  { c with remedy := name }

/-- **The names of the lenient remedies**, which put something in place of a flaw. -/
def lenientRemedies : List String :=
  ["replace", "ignore", "backslashreplace"]

/-- **A remedy is lenient** when it puts a text in place of every flaw. -/
def Remedy.Lenient (remedy : Remedy) : Prop :=
  ∀ flaw bytes, ∃ t, remedy.repair flaw bytes = .put t

theorem Remedy.lenient_of_mem_lenientRemedies {name : String} (h : name ∈ lenientRemedies) :
    ∃ remedy, Remedy.ofName? name = some remedy ∧ remedy.Lenient := by
  rcases List.mem_cons.mp h with rfl | h
  · exact ⟨.replace, rfl, fun _ _ => ⟨_, rfl⟩⟩
  rcases List.mem_cons.mp h with rfl | h
  · exact ⟨.drop, rfl, fun _ _ => ⟨_, rfl⟩⟩
  rcases List.mem_singleton.mp h with rfl
  exact ⟨.escape, rfl, fun _ _ => ⟨_, rfl⟩⟩

/-- A lenient remedy does not let surrogates pass, because it refuses nothing else. -/
theorem Remedy.Lenient.ne_passSurrogates {remedy : Remedy} (h : remedy.Lenient) :
    remedy ≠ .passSurrogates := by
  rintro rfl
  obtain ⟨t, ht⟩ := h .badStart []
  cases ht

/-- **A lenient remedy never refuses a text.** -/
theorem exists_mend_eq_ok {remedy : Remedy} (h : remedy.Lenient) (offset : Nat)
    (ps : List Piece) : ∃ t, mend remedy offset ps = .ok t := by
  induction ps generalizing offset with
  | nil => exact ⟨[], rfl⟩
  | cons p ps ih =>
    obtain ⟨t, ht⟩ := ih (offset + p.bytes.length)
    unfold mend
    rw [ht]
    -- a character stays, and something stands in for a flaw
    cases p.content with
    | ok c => exact ⟨c :: t, rfl⟩
    | error f =>
      obtain ⟨s, hs⟩ := h f p.bytes
      simp only [hs]
      exact ⟨s ++ t, rfl⟩

/-! ### Names -/

/-- A codec answers to no name with a null character in it. -/
theorem Codec.holdsNull_of_ofName? {name : String} {codec : Codec}
    (h : Codec.ofName? name = some codec) : holdsNull name = false := by
  unfold Codec.ofName? at h
  split at h
  · cases h
  · next hnull => exact Bool.eq_false_iff.mpr hnull

/-- There is no null character in the name of a remedy. -/
theorem Remedy.holdsNull_of_ofName? {name : String} {remedy : Remedy}
    (h : Remedy.ofName? name = some remedy) : holdsNull name = false := by
  unfold Remedy.ofName? at h
  split at h
  -- any other name has no remedy, and in none of the listed names there is a null character
  case h_9 => cases h
  all_goals rfl

/-- Unless surrogates may pass, the codec reads the bytes as it always does. -/
theorem Codec.decoderFor_eq {remedy : Remedy} (h : remedy ≠ .passSurrogates) (codec : Codec) :
    codec.decoderFor remedy = codec.decoder := by
  unfold Codec.decoderFor
  split
  · exact absurd rfl h
  · rfl

namespace Config

variable {c : Config} {encoding : Option String} {codec : Codec} {remedy : Remedy}

/-- **Decoding under known names** is mending the pieces of the bytes. That no bytes are a text
under any name makes no difference then. -/
theorem decode_eq_mend (hcodec : Codec.ofName? (c.codecName encoding) = some codec)
    (hremedy : Remedy.ofName? c.remedy = some remedy) (hplain : remedy ≠ .passSurrogates)
    (bytes : Bytes) :
    c.decode bytes encoding =
      (mend remedy 0 (codec.decoder.pieces bytes)).mapError (.ofBreach (c.codecName encoding)) := by
  have hnull : ¬ (holdsNull (c.codecName encoding) || holdsNull c.remedy) = true := by
    rw [Codec.holdsNull_of_ofName? hcodec, Remedy.holdsNull_of_ofName? hremedy]
    exact Bool.noConfusion
  unfold decode
  rw [if_neg hnull]
  cases bytes with
  | nil =>
    rw [Decoder.pieces]
    rfl
  | cons b tail =>
    have hne : ¬ (b :: tail).isEmpty = true := Bool.noConfusion
    simp only [if_neg hne, hcodec, hremedy, Codec.decoderFor_eq hplain]

theorem decode_eq_ok (hcodec : Codec.ofName? (c.codecName encoding) = some codec) {name : String}
    (hremedy : Remedy.ofName? name = some remedy) (hplain : remedy ≠ .passSurrogates)
    {bytes : Bytes} {t : Text} (h : mend remedy 0 (codec.decoder.pieces bytes) = .ok t) :
    (c.withRemedy name).decode bytes encoding = .ok t := by
  rw [decode_eq_mend (c := c.withRemedy name) hcodec hremedy hplain, h]
  rfl

theorem decode_eq_error (hcodec : Codec.ofName? (c.codecName encoding) = some codec)
    {bytes : Bytes} {offset : Nat} {f : Flaw}
    (h : mend .refuse 0 (codec.decoder.pieces bytes) = .error (.refused offset f)) :
    (c.withRemedy "strict").decode bytes encoding =
      .error (.undecodable ⟨c.codecName encoding, offset, f.message⟩) := by
  rw [decode_eq_mend (c := c.withRemedy "strict") hcodec rfl nofun, h]
  rfl

end Config

/-- **Strict and lenient decoding agree up to the first flaw**, under every codec, whether it is
asked for or configured. If the strict remedy accepts some bytes, then every lenient remedy gives
the same text. If it refuses them, then it reports the codec by its name as it was given, and the
offset of a byte in them: the bytes before this one are a text, no more of them are, and every
lenient remedy gives a text that starts with that one. -/
theorem strict_agrees_with_lenient (c : Config) (encoding : Option String) (codec : Codec)
    (hcodec : Codec.ofName? (c.codecName encoding) = some codec) (bytes : Bytes) :
    (∀ t, (c.withRemedy "strict").decode bytes encoding = .ok t →
      ∀ name ∈ lenientRemedies, (c.withRemedy name).decode bytes encoding = .ok t) ∧
    (∀ r, (c.withRemedy "strict").decode bytes encoding = .error r →
      ∃ (k : Nat) (reason : String) (p : Text),
        r = .undecodable ⟨c.codecName encoding, k, reason⟩ ∧ k < bytes.length ∧
        (c.withRemedy "strict").decode (bytes.take k) encoding = .ok p ∧
        (∀ j, k < j → ∀ t, (c.withRemedy "strict").decode (bytes.take j) encoding ≠ .ok t) ∧
        ∀ name ∈ lenientRemedies,
          ∃ t, (c.withRemedy name).decode bytes encoding = .ok t ∧ p <+: t) := by
  have hself := codec.selfContained
  obtain ⟨u, p, v, rfl, hspells, hrest⟩ := hself.exists_spells bytes
  rcases hrest with rfl | ⟨f, hflaw⟩
  · -- there is no flaw, and the text is the same under all remedies
    rw [List.append_nil]
    have hdecode : ∀ name remedy, Remedy.ofName? name = some remedy → remedy ≠ .passSurrogates →
        (c.withRemedy name).decode u encoding = .ok p :=
      fun name remedy hname hplain =>
        Config.decode_eq_ok hcodec hname hplain (hspells.mend_eq remedy 0)
    rw [hdecode "strict" .refuse rfl nofun]
    constructor
    · intro t ht name hname
      obtain ⟨remedy, hremedy, hlenient⟩ := Remedy.lenient_of_mem_lenientRemedies hname
      rw [hdecode name remedy hremedy hlenient.ne_passSurrogates, ht]
    · intro r hr
      cases hr
  · -- the flaw is refused, here and in all parts of the bytes that reach so far
    have hrefused : ∀ v f, codec.decoder.FlawAt f v →
        (c.withRemedy "strict").decode (u ++ v) encoding =
          .error (.undecodable ⟨c.codecName encoding, u.length, f.message⟩) :=
      fun v f hflaw => Config.decode_eq_error hcodec (hspells.mend_refuse hflaw)
    rw [hrefused v f hflaw]
    refine ⟨nofun, fun r hr => ?_⟩
    cases hr
    refine ⟨u.length, f.message, p, rfl, ?_, ?_, ?_, ?_⟩
    · have := hflaw.length_pos
      rw [List.length_append]
      omega
    · have hplain : Remedy.refuse ≠ .passSurrogates := nofun
      rw [List.take_left]
      exact Config.decode_eq_ok hcodec rfl hplain (hspells.mend_eq .refuse 0)
    · intro j hj t ht
      obtain ⟨f', hflaw'⟩ := hflaw.take hself (Nat.sub_pos_of_lt hj)
      rw [List.take_append, List.take_of_length_le (Nat.le_of_lt hj), hrefused _ f' hflaw'] at ht
      cases ht
    · intro name hname
      obtain ⟨remedy, hremedy, hlenient⟩ := Remedy.lenient_of_mem_lenientRemedies hname
      obtain ⟨t, ht⟩ := exists_mend_eq_ok hlenient (0 + u.length) (codec.decoder.pieces v)
      -- the lenient text goes on behind the flaw
      have hmend : mend remedy 0 (codec.decoder.pieces (u ++ v)) = .ok (p ++ t) := by
        rw [hspells.mend_append, ht]
        rfl
      refine ⟨p ++ t, ?_, List.prefix_append p t⟩
      exact Config.decode_eq_ok hcodec hremedy hlenient.ne_passSurrogates hmend

/-- A letter, and behind it two of the three bytes of another character. The sequence is refused at
its first byte, the letter before it is a text, and it starts the text that has the sequence
replaced. -/
theorem strict_agrees_with_lenient_cut_sequence :
    (Config.default.withRemedy "strict").decode [0x61, 0xE3, 0x81] (some "UTF-8") =
      .error (.undecodable ⟨"UTF-8", 1, "unexpected end of data"⟩) ∧
    ∃ p t, (Config.default.withRemedy "strict").decode [0x61] (some "UTF-8") = .ok p ∧
      (Config.default.withRemedy "replace").decode [0x61, 0xE3, 0x81] (some "UTF-8") = .ok t ∧
      p <+: t := by
  have hcodec : Codec.ofName? (Config.default.codecName (some "UTF-8")) = some .utf8 := by decide
  have hletter : Decoder.utf8.Spells (0x61 :: ([] ++ [])) ['a'] := .cons (fun _ => rfl) .nil
  have hflaw : Decoder.utf8.FlawAt .endOfData [0xE3, 0x81] := .mk rfl
  have hrefused := Config.decode_eq_error hcodec (hletter.mend_refuse hflaw)
  obtain ⟨-, hrefusal⟩ :=
    strict_agrees_with_lenient .default (some "UTF-8") .utf8 hcodec [0x61, 0xE3, 0x81]
  obtain ⟨k, reason, p, heq, -, hp, -, hlenient⟩ := hrefusal _ hrefused
  obtain rfl : k = 1 := by
    cases heq
    rfl
  obtain ⟨t, ht, hprefix⟩ := hlenient "replace" (List.mem_cons_self ..)
  exact ⟨hrefused, p, t, hp, ht, hprefix⟩

end Dialogue
