import PlainSteps.Proofs.Clauses
import PlainSteps.Proofs.Conjunctions
import PlainSteps.Proofs.Gathering
import PlainSteps.Proofs.Parts
import PlainSteps.Sentence

/-!
# Sentences with a target

`sentenceOf` names an action, a quoted object and an element type, and goes on with a tail. Its
terms are those of the target and those of the tail (`lexicon_sentenceOf_cons`), and what the tail
adds to the reading of the target says what the command is (`commandOf_target`).
-/

namespace PlainSteps.Sentence

/-! ## The target -/

/-- The word names the element type `e`. -/
structure Names (w e : Text) : Prop where
  word : Text.IsWord w
  alphanumeric : ∀ c ∈ w, isAlphanumeric c
  noun : roleOf (Text.toLower w) false = .noun
  role : roleNamed? w = some e

theorem Names.plain {w e : Text} (h : Names w e) : Plain w where
  toSolid := solid_of_alphanumeric h.alphanumeric
  connector := by rw [h.noun]; decide
  negation := by rw [h.noun]; decide
  conjunction := by rw [h.noun]; decide

/-- The reading of a sentence behind its element type. -/
def targetReading (a : Action) (object w : Text) : Reading :=
  ⟨.inside ⟨.noun, [w]⟩, [⟨.verb, [a.headword]⟩, ⟨.noun, Text.words (quoted object)⟩], false⟩

theorem isIdle_targetReading (a : Action) (object w : Text) : (targetReading a object w).IsIdle :=
  fun s => by simp [targetReading]

/-- The terms of a sentence as far as its element type. -/
def targetTerms (a : Action) (object w p : Text) : List Term :=
  tagPart [] a.headword [] true false false ::
    (tagWords false false (Text.words (quoted object)) ++ [tagPart [] w p false false false])

theorem solid_headword (a : Action) : Solid a.headword :=
  solid_of_alphanumeric (by cases a <;> decide)

theorem tagWords_target (a : Action) {object : Text} (hobject : Quotable object) {w e p : Text}
    (hw : Names w e) (hp : IsStop p) (ws : List Text) :
    tagWords true false (a.headword :: (Text.words (quoted object) ++ (w ++ p) :: ws)) =
      targetTerms a object w p ++ tagWords false false ws := by
  have hbalanced : inQuoteBehind false (Text.words (quoted object)) = false := by
    simpa using inQuoteBehind_quoted hobject (p := []) (.inl rfl)
  have h := (solid_headword a).tagWords (p := []) (.inl rfl) true
    (Text.words (quoted object) ++ (w ++ p) :: ws)
  rw [List.append_nil, tagWords_append, hbalanced, hw.plain.tagWords hp] at h
  rw [h, targetTerms]
  simp

theorem read_target (a : Action) {object : Text} (hobject : Quotable object) {w e p : Text}
    (hw : Names w e) (hp : IsStop p) {us : List Term} (hus : Fresh us) :
    ({} : Reading).read (targetTerms a object w p ++ us) =
      (targetReading a object (w ++ p)).read us := by
  have hspan : IsSpan Term.quotes (tagWords false false (Text.words (quoted object))) := by
    simpa using isSpan_tagWords hobject (p := []) (.inl rfl)
  obtain ⟨n, ns, hns, hn⟩ := hspan.exists_head
  have hquoted : n.hasQuote = true := by simpa [Term.hasQuote, Term.quotes] using hn
  generalize hvs : tagPart [] w p false false false :: us = vs
  have hverb : Reading.take {} (tagPart [] a.headword [] true false false)
      (tagWords false false (Text.words (quoted object)) ++ vs).head? =
      (⟨.inside ⟨.verb, [a.headword]⟩, [], false⟩, false) := by
    have htake := Reading.take_word (r := {}) (fun s => by simp)
      ((solid_headword a).unquoted (p := []) (.inl rfl) true) (by cases a <;> decide)
      (by cases a <;> decide) (tagWords false false (Text.words (quoted object)) ++ vs).head?
    have hnext : (tagWords false false (Text.words (quoted object)) ++ vs).head?.bind
        (joined? (tagPart [] a.headword [] true false false)) = none := by
      simp [hns, joined?, hquoted]
    have hrole : (tagPart [] a.headword [] true false false).role = .verb := by
      cases a <;> decide
    rw [htake, hnext, hrole]
    cases a <;> rfl
  have hnoun : Reading.take
      ⟨.between, [⟨.verb, [a.headword]⟩, ⟨.noun, Text.words (quoted object)⟩], false⟩
      (tagPart [] w p false false false) us.head? = (targetReading a object (w ++ p), false) := by
    have htake := Reading.take_word
      (r := ⟨.between, [⟨.verb, [a.headword]⟩, ⟨.noun, Text.words (quoted object)⟩], false⟩)
      (fun s => by simp) (hw.plain.toSolid.unquoted hp false) hw.plain.connector
      hw.plain.negation us.head?
    have hnext : us.head?.bind (joined? (tagPart [] w p false false false)) = none := by
      cases hhead : us.head? with
      | none => rfl
      | some n =>
          rcases hus n hhead with hn | hn
          · simp [joined?, hn]
          · simp [joined?, hn (tagPart [] w p false false false).text]
    have hrole : (tagPart [] w p false false false).role = .noun := hw.noun
    rw [htake, hnext, hrole]
    rfl
  have hsplit : targetTerms a object w p ++ us = tagPart [] a.headword [] true false false ::
      (tagWords false false (Text.words (quoted object)) ++ vs) := by
    rw [← hvs, targetTerms, List.cons_append, List.append_assoc, List.singleton_append]
  rw [hsplit, Reading.read_cons hverb,
    Reading.read_span (fun s => by simp) ⟨.noun, []⟩ [⟨.verb, [a.headword]⟩] (fun t => rfl) hspan,
    pushAll_tagWords, ← hvs]
  exact Reading.read_cons hnoun

/-- Neither white space nor punctuation that `stripPunctuation` takes off. -/
def isInner (c : Char) : Bool := !isBlank c && !(['.', ',', '"'].contains c)

theorem isInner_iff {c : Char} (h : isInner c) :
    isBlank c = false ∧ ['.', ',', '"'].contains c = false := by
  simpa only [isInner, Bool.and_eq_true, Bool.not_eq_true'] using h

theorem isInner_of_isAlphanumeric {c : Char} (h : isAlphanumeric c) (hblank : isBlank c = false) :
    isInner c := by
  rw [isInner, hblank, not_contains_of_isAlphanumeric (by decide) h]
  rfl

section Inner

variable {t p : Text} (hp : IsStop p) (hne : t ≠ []) (hhead : ∀ c ∈ t.head?, isInner c)
  (hlast : ∀ c ∈ t.getLast?, isInner c)
include hp hne hhead hlast

theorem trim_append : Text.trim (t ++ p) = t ++ p := by
  refine Text.trim_eq_self (fun c hc => ?_) fun c hc => ?_
  · obtain ⟨d, r, rfl⟩ := List.exists_cons_of_ne_nil hne
    exact (isInner_iff (hhead c hc)).1
  · rcases hp with rfl | rfl
    · rw [List.append_nil] at hc
      exact (isInner_iff (hlast c hc)).1
    · rw [List.getLast?_concat] at hc
      obtain rfl : '.' = c := Option.some.inj hc
      rfl

theorem stripPunctuation_append : stripPunctuation (t ++ p) = t := by
  have hmatch : Text.trimMatches (['.', ',', '"'].contains ·) (t ++ p) = t := by
    have hfront : (t ++ p).dropWhile (['.', ',', '"'].contains ·) = t ++ p := by
      obtain ⟨d, r, rfl⟩ := List.exists_cons_of_ne_nil hne
      have hd := (isInner_iff (hhead d rfl)).2
      rw [List.cons_append, List.dropWhile_cons_of_neg (by simpa using hd)]
    have hstop : ∀ c ∈ p, ['.', ',', '"'].contains c := by
      rcases hp with rfl | rfl <;> decide
    rw [Text.trimMatches, hfront, Text.dropEndWhile_append hstop,
      Text.dropEndWhile_eq_self fun c hc => (isInner_iff (hlast c hc)).2]
  rw [stripPunctuation, trim_append hp hne hhead hlast, hmatch,
    Text.trim_eq_self (fun c hc => (isInner_iff (hhead c hc)).1)
      fun c hc => (isInner_iff (hlast c hc)).1]

theorem stripFullStop_append : stripFullStop (t ++ p) = t := by
  have htrim : Text.trim t = t := by
    have h := trim_append (.inl rfl) hne hhead hlast
    rwa [List.append_nil] at h
  rcases hp with rfl | rfl
  · have hnone : Text.dropTail? ['.'] t = none := by
      refine Option.eq_none_iff_forall_ne_some.mpr fun r hr => ?_
      have hstop := hlast '.' (by rw [Text.dropTail?_eq_some hr, List.getLast?_concat]; rfl)
      exact absurd hstop (by decide)
    rw [List.append_nil, stripFullStop, hnone]
    exact htrim
  · rw [stripFullStop, Text.dropTail?_append]
    exact htrim

end Inner

theorem Names.inner {w e : Text} (h : Names w e) : ∀ c ∈ w, isInner c :=
  fun c hc => isInner_of_isAlphanumeric (h.alphanumeric c hc) (h.word.2 c hc)

theorem target_eq (a : Action) {object : Text} (hobject : Quotable object) {w e p : Text}
    (hw : Names w e) (hp : IsStop p) :
    target [[a.headword], Text.words (quoted object), [w ++ p]] =
      .ok { action := a, object, elementType := e } := by
  have haction : Action.ofWord? (Text.toLower (stripPunctuation (Text.unwords [a.headword]))) =
      some a := by cases a <;> decide
  have hobj : unquote? (Text.unwords (Text.words (quoted object))) = some object := by
    have hjoin := unwords_words_quoted (p := []) hobject.1 (by simp)
    have hunquote := unquote?_quoted (s := []) (u := []) hobject.2 rfl rfl rfl
    rw [List.append_nil] at hjoin
    rw [hjoin]
    simpa using hunquote
  have hrole : stripPunctuation (Text.unwords [w ++ p]) = w :=
    stripPunctuation_append hp hw.word.1 (fun c hc => hw.inner c (List.mem_of_head? hc))
      fun c hc => hw.inner c (List.mem_of_getLast? hc)
  have hfilter : w.filter (· != '-') = w := by
    refine List.filter_eq_self.mpr fun c hc => ?_
    have hdash : c ≠ '-' := by
      rintro rfl
      exact absurd (hw.alphanumeric '-' hc) (by decide)
    simpa using hdash
  simp only [target, haction, hobj, hrole, hfilter, hw.role]
  rfl


/-! ## What the tail adds -/

/-- The second reading has further connector segments, and a further negation if `n`. -/
structure Reading.Extends (r : Reading) (added : List (Connector × List Text)) (n : Bool)
    (r' : Reading) : Prop where
  idle : r'.IsIdle
  positional : positional r'.segments = positional r.segments
  connected : connected r'.segments = connected r.segments ++ added
  negated : r'.negated = (r.negated || n)

theorem Reading.Extends.trans {r r' r'' : Reading} {added added' : List (Connector × List Text)}
    {n n' : Bool} (h : r.Extends added n r') (h' : r'.Extends added' n' r'') :
    r.Extends (added ++ added') (n || n') r'' where
  idle := h'.idle
  positional := h'.positional.trans h.positional
  connected := by rw [h'.connected, h.connected, List.append_assoc]
  negated := by rw [h'.negated, h.negated, Bool.or_assoc]

/-- The last checks of a command. -/
def checked (c : Command) : Except Cause Command :=
  if c.action = .ensure && c.assertion.isNone then .error (.missingField .assertion c.action)
  else match c.fault? with
    | some cause => .error cause
    | none => .ok c

theorem checked_eq_ok {c c' : Command} (h : checked c = .ok c') : c = c' := by
  rw [checked] at h
  cases hassert : decide (c.action = .ensure) && c.assertion.isNone with
  | true => simp [hassert] at h
  | false =>
      cases hfault : c.fault? with
      | some cause => simp [hassert, hfault] at h
      | none => simpa [hassert, hfault] using h

theorem bind_eq_ok {ε α β : Type} {x : Except ε α} {f : α → Except ε β} {y : β}
    (h : x >>= f = .ok y) : ∃ a, x = .ok a ∧ f a = .ok y := by
  cases x with
  | error e => exact nomatch h
  | ok a => exact ⟨a, rfl, h⟩

/-- The segments behind connectors apply to the target in order, and the last checks follow. -/
theorem Reading.command_eq [Regex.Engine] (r : Reading) : r.command =
    target (positional r.segments) >>= fun c =>
      (connected r.segments).foldlM (fun c (k, rest) => addConnected c k rest)
        { c with isNegativeAssertion := r.negated } >>= checked := by
  rw [Reading.command]
  refine bind_congr fun c => bind_congr fun c => ?_
  rw [checked]
  cases decide (c.action = .ensure) && c.assertion.isNone with
  | true => cases c.fault? <;> rfl
  | false => cases c.fault? <;> rfl

/-- What is left of reading a sentence: its phrases apply to its target in order. -/
theorem commandOf_target [Regex.Engine] (a : Action) {object : Text} (hobject : Quotable object)
    {w e p : Text} (hw : Names w e) (hp : IsStop p) {us : List Term} (hus : Fresh us)
    {added : List (Connector × List Text)} {n : Bool}
    (h : (targetReading a object (w ++ p)).Extends added n
      ((targetReading a object (w ++ p)).read us)) :
    commandOf (targetTerms a object w p ++ us) =
      added.foldlM (fun c (k, rest) => addConnected c k rest)
        { action := a, object, elementType := e, isNegativeAssertion := n } >>= checked := by
  have hread := read_target a hobject hw hp hus
  generalize (targetReading a object (w ++ p)).read us = r at h hread
  have htarget : target (positional r.segments) =
      .ok { action := a, object, elementType := e } := by
    rw [h.positional]
    exact target_eq a hobject hw hp
  have hconnected : connected r.segments = added := h.connected
  have hnegated : r.negated = n := h.negated
  have hcommand : commandOf (targetTerms a object w p ++ us) = r.command := by
    rw [commandOf, hread]
    have hidle := h.idle
    obtain ⟨place, closed, negated⟩ := r
    cases place with
    | quoted s => exact absurd rfl (hidle s)
    | between | inside s => rfl
  rw [hcommand, Reading.command_eq, htarget, hconnected, hnegated]
  rfl

/-- Calm terms go in front of the first part of what stands behind them. -/
theorem rawParts_append_of_calm {ts us : List Term} (hts : Calm ts)
    (hus : ∀ u ∈ us.head?, u.role ≠ .verb) (q : Bool) :
    ∃ q' p ps, rawParts q' us = p :: ps ∧ rawParts q (ts ++ us) = (ts ++ p) :: ps := by
  induction ts generalizing q with
  | nil =>
      obtain ⟨p, ps, hparts⟩ := List.exists_cons_of_ne_nil (rawParts_ne_nil q us)
      exact ⟨q, p, ps, hparts, hparts⟩
  | cons t ts ih =>
      obtain ⟨q', p, ps, hus', hparts⟩ := ih hts.tail (q != t.togglesQuote)
      have hends : endsPart q t (ts ++ us) = false := by
        rw [← Bool.not_eq_true, endsPart_iff]
        rintro ⟨-, ht, v, hv, hverb⟩
        cases ts with
        | nil => exact hus v hv hverb
        | cons u ts => exact (List.isChain_cons.mp hts).1 v hv ⟨ht, hverb⟩
      exact ⟨q', p, ps, hus', rawParts_cons hends hparts⟩

theorem instructions_of_calm {ts : List Term} (hne : ts ≠ []) (h : Calm ts)
    (hlast : ∀ t ∈ ts.getLast?, t.role ≠ .conjunction) : instructions ts = [ts] := by
  have hparts : rawParts false ts = [ts] := by
    have hhead : ∀ v ∈ ([] : List Term).head?, v.role ≠ .verb := nofun
    obtain ⟨q, p, ps, hnil, hparts⟩ := rawParts_append_of_calm h hhead false
    obtain ⟨rfl, rfl⟩ := List.cons.inj hnil
    rwa [List.append_nil] at hparts
  rw [instructions, hparts]
  simp [dropTrailingConjunctions_eq_self hlast, hne]

/-- If terms that begin calmly are one instruction, it goes on with what stands behind them. -/
theorem exists_of_instructions {ts us p : List Term} {u : Term} (hts : Calm ts)
    (hu : u.role ≠ .conjunction) (hverb : u.role ≠ .verb)
    (h : instructions (ts ++ u :: us) = [p]) : ∃ vs, vs <+: us ∧ p = ts ++ u :: vs := by
  have hhead : ∀ v ∈ (u :: us).head?, v.role ≠ .verb := by
    rintro v ⟨⟩
    exact hverb
  obtain ⟨q, p₁, ps, hrest, hparts⟩ := rawParts_append_of_calm hts hhead false
  obtain ⟨p₂, ps', hus, ⟨hends, -⟩ | ⟨-, hfirst⟩⟩ := rawParts_cases q u us
  · exact absurd (endsPart_iff.mp hends).2.1 hu
  · obtain ⟨rfl, rfl⟩ := List.cons.inj (hfirst.symm.trans hrest)
    rw [instructions, hparts, List.map_cons, dropTrailingConjunctions_append_cons ts hu,
      List.filter_cons_of_pos (by simp)] at h
    refine ⟨dropTrailingConjunctions p₂, ?_, (List.cons.inj h).1.symm⟩
    have hfront : dropTrailingConjunctions p₂ <+: p₂ := ⟨_, dropTrailingConjunctions_append p₂⟩
    exact hfront.trans (prefix_of_rawParts hus)

/-! ## Sentences -/

/-- The sentence of an action on an object of the element type that `w` names, with a tail. -/
def sentenceOf (a : Action) (object w tail : Text) : Text :=
  a.headword ++ ' ' :: quoted object ++ ' ' :: w ++ tail ++ ['.']

theorem isOrdinary_of_isAlphanumeric {c : Char} (h : isAlphanumeric c) : isOrdinary c := by
  rw [isOrdinary, not_contains_of_isAlphanumeric (by decide) h]
  rfl

theorem words_sentenceOf (a : Action) (object t : Text) :
    Text.words (a.headword ++ ' ' :: quoted object ++ ' ' :: t) =
      a.headword :: (Text.words (quoted object) ++ Text.words t) := by
  have hhead : Text.words a.headword = [a.headword] :=
    Text.words_of_isWord (by cases a <;> decide)
  rw [Text.words_append_blank rfl, Text.words_append_blank rfl, hhead]
  rfl

section Sentence

variable (a : Action) {object : Text} (hobject : Quotable object) {w e : Text} (hw : Names w e)
include hobject hw

theorem lexicon_sentenceOf_nil :
    lexicon (sentenceOf a object w []) = targetTerms a object w ['.'] := by
  have hlist : sentenceOf a object w [] =
      a.headword ++ ' ' :: quoted object ++ ' ' :: (w ++ ['.']) := by
    simp [sentenceOf]
  have hterms := tagWords_target a hobject hw (.inr rfl) []
  rw [lexicon, hlist, words_sentenceOf,
    Text.words_of_isWord (IsStop.isWord (.inr rfl) hw.word), hterms, tagWords, List.append_nil]

theorem lexicon_sentenceOf_cons (q : Text) :
    lexicon (sentenceOf a object w (' ' :: q)) =
      targetTerms a object w [] ++ termsOf (q ++ ['.']) := by
  have hlist : sentenceOf a object w (' ' :: q) =
      a.headword ++ ' ' :: quoted object ++ ' ' :: (w ++ ' ' :: (q ++ ['.'])) := by
    simp [sentenceOf]
  have hterms := tagWords_target a hobject hw (.inl rfl) (Text.words (q ++ ['.']))
  rw [List.append_nil] at hterms
  rw [lexicon, hlist, words_sentenceOf, Text.words_word_append hw.word, hterms]
  rfl

/-- A seamless tail leaves the sentence one clause. -/
theorem isClause_sentenceOf {tail : Text} (htail : Seamless {} tail {})
    (hblank : ∀ c ∈ tail.getLast?, isBlank c = false) :
    IsClause (a.headword ++ ' ' :: quoted object ++ ' ' :: w ++ tail) where
  seamless := by
    have hhead : Seamless {} (a.headword ++ [' ']) {} :=
      seamless_ordinary (by cases a <;> decide) 0
    have hword : Seamless {} (' ' :: w) {} := by
      refine seamless_ordinary ?_ 0
      rw [List.all_cons, Bool.and_eq_true]
      exact ⟨by decide, List.all_eq_true.mpr fun c hc =>
        isOrdinary_of_isAlphanumeric (hw.alphanumeric c hc)⟩
    have hall := ((hhead.append (seamless_quoted hobject.2 0)).append hword).append htail
    simpa using hall
  nonempty := by simp
  head := by
    rintro c hc
    obtain ⟨d, r, hd⟩ := List.exists_cons_of_ne_nil (show a.headword ≠ [] by cases a <;> decide)
    have hascii : ∀ d ∈ a.headword.head?, isBlank d = false := by cases a <;> decide
    rw [hd] at hc hascii
    obtain rfl : d = c := Option.some.inj hc
    exact hascii d rfl
  last := by
    rintro c hc
    rw [List.getLast?_append] at hc
    cases hlast : tail.getLast? with
    | some d =>
        rw [hlast] at hc
        obtain rfl : d = c := Option.some.inj hc
        exact hblank d hlast
    | none =>
        obtain ⟨v, d, rfl⟩ := (List.eq_nil_or_concat' w).resolve_left hw.word.1
        rw [hlast] at hc
        obtain rfl : d = c := by simpa [List.getLast?_append, List.getLast?_cons] using hc
        exact hw.word.2 d (by simp)

theorem parse_sentenceOf [Regex.Engine] {tail : Text} (htail : Seamless {} tail {})
    (hblank : ∀ c ∈ tail.getLast?, isBlank c = false) :
    parse (sentenceOf a object w tail) =
      (instructions (lexicon (sentenceOf a object w tail))).mapM readInstruction := by
  have hclauses : clauses (sentenceOf a object w tail) = [sentenceOf a object w tail] :=
    (isClause_sentenceOf a hobject hw htail hblank).clauses_stop
  rw [parse, parseWith, instructionsOf_standard, hclauses, List.flatMap_singleton]

end Sentence

end PlainSteps.Sentence
