import PlainSteps.Proofs.Outside

/-!
# Gathering words into segments

`Reads r ws r'` says that the terms of the words `ws` lead from the reading `r` to `r'`, whatever
terms come behind. Connector words, negations, quoted spans and verbatim words have such readings,
and readings can be put together (`Reads.append`).
-/

namespace PlainSteps.Sentence

/-! ## Words outside quotes -/

/-- The lexicon takes the word whole, and it has no quotes. -/
structure Solid (w : Text) : Prop where
  last : ∀ c ∈ w.getLast?, isTrailing c = false
  parts : hyphenParts w = [w]
  quotes : quoteCount w = 0

theorem takeEndWhile_append {p : Char → Bool} {t u : Text} (ht : ∀ c ∈ t.getLast?, p c = false)
    (hu : ∀ c ∈ u, p c) : Text.takeEndWhile p (t ++ u) = u := by
  have hrev : t.reverse.takeWhile p = [] := by
    rcases List.eq_nil_or_concat' t with rfl | ⟨s, c, rfl⟩
    · rfl
    · have hc : p c = false := ht c (by simp)
      simp [hc]
  rw [Text.takeEndWhile, List.reverse_append,
    List.takeWhile_append_of_pos fun c hc => hu c (List.mem_reverse.mp hc), hrev, List.append_nil,
    List.reverse_reverse]

theorem Solid.quoteCount_append {w p : Text} (hw : Solid w) (hp : IsStop p) :
    quoteCount (w ++ p) = 0 := by
  rw [quoteCount_stop hp, hw.quotes]

theorem Solid.tagWord {w p : Text} (hw : Solid w) (hp : IsStop p) (f q : Bool) :
    tagWord f q (w ++ p) = [tagPart [] w p f q false] := by
  have hhead : ∀ c ∈ (w ++ p).head?, (c == '"') = false := by
    rintro c hc
    have hne : c ≠ '"' := by
      rintro rfl
      exact absurd (hw.quoteCount_append hp) (quoteCount_pos_of_head hc).ne'
    simpa using hne
  have hfront : (w ++ p).takeWhile (· == '"') = [] ∧ (w ++ p).dropWhile (· == '"') = w ++ p := by
    cases hwp : w ++ p with
    | nil => simp
    | cons c r =>
        have hc := hhead c (by rw [hwp]; rfl)
        simp [hc]
  rw [Sentence.tagWord, hfront.1, hfront.2, takeEndWhile_append hw.last hp.trailing,
    Text.dropEndWhile_append hp.trailing, Text.dropEndWhile_eq_self hw.last, hw.parts]
  rfl

theorem Solid.tagWords {w p : Text} (hw : Solid w) (hp : IsStop p) (f : Bool) (ws : List Text) :
    tagWords f false ((w ++ p) :: ws) =
      tagPart [] w p f false false :: tagWords false false ws := by
  rw [Sentence.tagWords, hw.quoteCount_append hp, hw.tagWord hp]
  rfl

theorem Solid.unquoted {w p : Text} (hw : Solid w) (hp : IsStop p) (f : Bool) :
    (tagPart [] w p f false false).Unquoted :=
  ⟨hw.quoteCount_append hp, ⟨f, rfl⟩, rfl⟩

theorem not_contains_of_isAlphanumeric {cs : List Char}
    (hcs : ∀ d ∈ cs, isAlphanumeric d = false) {c : Char} (h : isAlphanumeric c) :
    cs.contains c = false := by
  cases hmem : cs.contains c with
  | false => rfl
  | true =>
      rw [hcs c (List.contains_iff_mem.mp hmem)] at h
      exact absurd h (by decide)

theorem solid_of_alphanumeric {w : Text} (h : ∀ c ∈ w, isAlphanumeric c) : Solid w := by
  have hnot (c : Char) (hc : isAlphanumeric c = false) : c ∉ w := by
    intro hmem
    exact absurd (h c hmem) (by simp [hc])
  refine ⟨fun c hc => ?_, ?_, countQuotes_of_forall (fun c hc => ?_) false⟩
  · exact not_contains_of_isAlphanumeric (by decide) (h c (List.mem_of_getLast? hc))
  · have hsplit : Text.splitWith (· == '-') w = [w] := by
      apply Text.splitWith_of_forall
      intro c hc
      have hdash : c ≠ '-' := by
        rintro rfl
        exact hnot '-' (by decide) hc
      simpa using hdash
    rw [hyphenParts, hsplit]
    exact ite_self [w]
  · rintro rfl
    exact hnot '"' (by decide) hc

/-- A word without quotes that ends in a brace. -/
theorem solid_of_brace {v : Text} (h : ∀ c ∈ v, c ≠ '"') : Solid (v ++ ['}']) := by
  refine ⟨fun c hc => ?_, ?_, countQuotes_of_forall (fun c hc => ?_) false⟩
  · rw [List.getLast?_concat] at hc
    obtain rfl : '}' = c := Option.some.inj hc
    rfl
  · exact hyphenParts_of_mem (c := '}') (by simp) (by decide) (by decide)
  · rcases List.mem_append.mp hc with hc | hc
    · exact h c hc
    · obtain rfl := List.mem_singleton.mp hc
      decide

/-- Behind a connector the word is taken as it stands. -/
structure Plain (w : Text) : Prop extends Solid w where
  connector : roleOf (Text.toLower w) false ≠ .connector
  negation : roleOf (Text.toLower w) false ≠ .negation
  conjunction : roleOf (Text.toLower w) false ≠ .conjunction

theorem not_contains_of_last {ws : List Text} {w : Text} {c : Char} (hw : w.getLast? = some c)
    (h : ∀ v ∈ ws, v.getLast? ≠ some c) : ws.contains w = false := by
  cases hmem : ws.contains w with
  | false => rfl
  | true => exact absurd hw (h w (List.contains_iff_mem.mp hmem))

theorem not_endsWith_of_last {w tail : Text} {c : Char} (hw : w.getLast? = some c)
    (h : ∀ d ∈ tail.getLast?, d ≠ c) (hne : tail ≠ []) : Text.endsWith w tail = false := by
  obtain ⟨s, d, rfl⟩ := (List.eq_nil_or_concat' tail).resolve_left hne
  obtain ⟨v, rfl⟩ := List.getLast?_eq_some_iff.mp hw
  have hdc : d ≠ c := h d (by simp)
  simp [Text.endsWith, Text.dropTail?, Text.dropHead?, hdc]

theorem roleOf_of_brace (v : Text) : roleOf (Text.toLower (v ++ ['}'])) false = .noun := by
  have hlast : (Text.toLower (v ++ ['}'])).getLast? = some '}' :=
    Text.getLast?_toLower (by decide) v
  generalize Text.toLower (v ++ ['}']) = w at hlast
  have hlist (ws : List Text) (h : ∀ v ∈ ws, v.getLast? ≠ some '}') : ws.contains w = false :=
    not_contains_of_last hlast h
  have hend : Text.endsWith w "n't" = false :=
    not_endsWith_of_last hlast (by decide) (by decide)
  rw [roleOf, hlist negations (by decide), hend, hlist verbs (by decide),
    hlist connectors (by decide), hlist determiners (by decide), hlist conjunctions (by decide),
    hlist otherWords (by decide)]
  rfl

theorem plain_of_brace {v : Text} (h : ∀ c ∈ v, c ≠ '"') : Plain (v ++ ['}']) where
  toSolid := solid_of_brace h
  connector := by rw [roleOf_of_brace]; decide
  negation := by rw [roleOf_of_brace]; decide
  conjunction := by rw [roleOf_of_brace]; decide

/-- A role other than these three is no hindrance behind a connector. -/
theorem roleOf_ne {w : Text} (hword : w ∉ connectors ++ negations ++ conjunctions)
    (hquote : '\'' ∉ w) (f : Bool) :
    roleOf w f ≠ .connector ∧ roleOf w f ≠ .negation ∧ roleOf w f ≠ .conjunction := by
  simp only [List.mem_append, not_or] at hword
  obtain ⟨⟨hconn, hneg⟩, hconj⟩ := hword
  have hend : Text.endsWith w "n't" = false := by
    cases h : Text.dropTail? "n't" w with
    | none => rw [Text.endsWith, h]; rfl
    | some v =>
        rw [Text.dropTail?_eq_some h] at hquote
        exact absurd (by simp) hquote
  have hnot {ws : List Text} (h : w ∉ ws) : ws.contains w = false := by simpa using h
  rw [roleOf, hnot hneg, hend, hnot hconn, hnot hconj]
  refine ⟨?_, ?_, ?_⟩ <;> simp <;> split_ifs <;> simp

theorem plain_of_alphanumeric {w : Text} (h : ∀ c ∈ w, isAlphanumeric c)
    (hword : Text.toLower w ∉ connectors ++ negations ++ conjunctions) : Plain w := by
  have hquote : '\'' ∉ Text.toLower w := by
    intro hmem
    exact absurd (h _ (Text.apostrophe_mem_of_toLower hmem)) (by decide)
  obtain ⟨hconn, hneg, hconj⟩ := roleOf_ne hword hquote false
  exact ⟨solid_of_alphanumeric h, hconn, hneg, hconj⟩

/-- The word is the later one of no pair of words that stand for one word. -/
def Unpaired (w : Text) : Prop := ∀ v, pairWord? v w = none

theorem pairWord?_eq_none {v w : Text}
    (h : ∀ e ∈ wordPairs, ¬ (e.1 = Text.toLower v ∧ e.2.1 = Text.toLower w)) :
    pairWord? v w = none := by
  rw [pairWord?, Option.map_eq_none_iff]
  refine List.find?_eq_none.mpr fun e he => ?_
  simpa using h e he

theorem unpaired_of_forall {w : Text} (h : ∀ e ∈ wordPairs, e.2.1 ≠ Text.toLower w) :
    Unpaired w :=
  fun _ => pairWord?_eq_none fun e he hpair => h e he hpair.2

theorem unpaired_of_brace (v : Text) : Unpaired ('{' :: v) := by
  refine unpaired_of_forall fun e he h => ?_
  have hhead : ∀ e ∈ wordPairs, e.2.1.head? ≠ some '{' := by decide
  apply hhead e he
  rw [h]
  exact Text.head?_toLower (by decide) v

/-- No two neighbours stand for one word. -/
def Unjoined (ws : List Text) : Prop := ws.IsChain fun v w => pairWord? v w = none

instance (ws : List Text) : Decidable (Unjoined ws) := inferInstanceAs (Decidable (ws.IsChain _))

theorem tagWords_of_solid {ws : List Text} (h : ∀ w ∈ ws, Solid w) :
    tagWords false false ws = ws.map fun w => tagPart [] w [] false false false := by
  induction ws with
  | nil => rfl
  | cons w ws ih =>
      have hw := (h w List.mem_cons_self).tagWords (.inl rfl) false ws
      rw [List.append_nil] at hw
      rw [hw, ih fun v hv => h v (List.mem_cons_of_mem w hv), List.map_cons]

/-- Plain words are read as they stand. -/
theorem verbatim_plain {ws : List Text} (h : ∀ w ∈ ws, Plain w) (hjoin : Unjoined ws) :
    Verbatim (tagWords false false ws) := by
  rw [tagWords_of_solid fun w hw => (h w hw).toSolid]
  constructor
  · intro t ht
    obtain ⟨w, hw, rfl⟩ := List.mem_map.mp ht
    exact ⟨(h w hw).connector, (h w hw).negation⟩
  · induction ws with
    | nil => exact .nil
    | cons w ws ih =>
        have ih := ih (fun v hv => h v (List.mem_cons_of_mem w hv)) hjoin.tail
        refine List.isChain_cons.mpr ⟨fun u hu => ⟨?_, fun hcut => ?_⟩, ih⟩
        · cases ws with
          | nil => simp at hu
          | cons v ws =>
              obtain rfl := Option.some.inj hu
              rw [joined?]
              split
              · rfl
              · exact (List.isChain_cons_cons.mp hjoin).1
        · exact (h w List.mem_cons_self).conjunction hcut.1

/-! ## Taking one term -/

/-- The term reads the same behind any word that nothing else follows. -/
def Term.IsFresh (t : Term) : Prop := t.hasQuote ∨ Unpaired t.text

/-- The next term is no part of what stands before it. -/
def Fresh (ts : List Term) : Prop := ∀ t ∈ ts.head?, t.IsFresh

theorem Fresh.append {ts us : List Term} (ht : Fresh ts) (hu : Fresh us) : Fresh (ts ++ us) := by
  cases ts with
  | nil => exact hu
  | cons t ts => exact ht

namespace Reading

/-- No quoted span is open. -/
def IsIdle (r : Reading) : Prop := ∀ s, r.place ≠ .quoted s

theorem read_cons {r r' : Reading} {t : Term} {us : List Term}
    (h : r.take t us.head? = (r', false)) : r.read (t :: us) = r'.read us := by
  cases us with
  | nil =>
      have ht : r.take t none = (r', false) := h
      simp only [read, ht]
  | cons u us =>
      have ht : r.take t (some u) = (r', false) := h
      simp only [read, ht]

section Taking

variable {r : Reading} (hr : r.IsIdle) {t : Term} (ht : t.Unquoted)
include hr ht

theorem take_connector {k : Connector} (hk : t.lower = k.word) (next : Option Term) :
    r.take t next = (r.start ⟨.connector k, [k.word]⟩, false) := by
  obtain ⟨f, hrole⟩ := ht.role
  have hquote : t.hasQuote = false := by simpa [Term.hasQuote, Term.quotes] using ht.quotes
  have hword : Connector.ofWord? t.lower = some k := by
    rw [hk]
    cases k <;> rfl
  have hconnector : t.role = .connector := by
    rw [hrole, hk]
    cases k <;> cases f <;> rfl
  have hbegins : beginsConnected t next = true := by simp [beginsConnected, hword, hconnector]
  obtain ⟨place, closed, negated⟩ := r
  cases place with
  | quoted s => exact absurd rfl (hr s)
  | between | inside s =>
      simp only [take, hquote, hbegins, hword, Bool.false_eq_true, if_false, if_true]
      rw [hk]

theorem take_negation (hrole : t.role = .negation) (next : Option Term) :
    r.take t next = ({ r with negated := true }, false) := by
  obtain ⟨f, hf⟩ := ht.role
  have hquote : t.hasQuote = false := by simpa [Term.hasQuote, Term.quotes] using ht.quotes
  have hword : Connector.ofWord? t.lower = none :=
    Connector.ofWord?_eq_none (f := f) (by rw [← hf, hrole]; decide)
  have hbegins : beginsConnected t next = false := by simp [beginsConnected, hword]
  obtain ⟨place, closed, negated⟩ := r
  cases place with
  | quoted s => exact absurd rfl (hr s)
  | between | inside s =>
      simp only [take, hquote, hbegins, hrole, Bool.false_eq_true, if_false]
      rfl

theorem take_word (hconnector : t.role ≠ .connector) (hnegation : t.role ≠ .negation)
    (next : Option Term) :
    r.take t next = match next.bind (joined? t) with
      | some w => (r.takeWord w false .noun, true)
      | none => (r.takeWord t.raw t.hyphenated t.role, false) := by
  obtain ⟨f, hf⟩ := ht.role
  have hquote : t.hasQuote = false := by simpa [Term.hasQuote, Term.quotes] using ht.quotes
  have hword : Connector.ofWord? t.lower = none :=
    Connector.ofWord?_eq_none (f := f) (by rwa [← hf])
  have hbegins : beginsConnected t next = false := by simp [beginsConnected, hword]
  have hneg : (t.role == .negation || t.negative) = false := by simp [ht.negative, hnegation]
  obtain ⟨place, closed, negated⟩ := r
  cases place with
  | quoted s => exact absurd rfl (hr s)
  | between | inside s =>
      rw [take, hquote, hbegins, hneg]
      rfl

end Taking

/-! ## Reading a quoted span -/

theorem read_quoted {s : Segment} {closed : List Segment} {n : Bool} {mid : List Term}
    (h : ∀ t ∈ mid, t.quotes = 0) {t : Term} (ht : t.quotes = 1) (us : List Term) :
    Reading.read ⟨.quoted s, closed, n⟩ (mid ++ [t] ++ us) =
      (Reading.endQuote ⟨.quoted s, closed, n⟩ (s.pushAll (mid ++ [t]))).read us := by
  induction mid generalizing s with
  | nil =>
      have htoggles : t.togglesQuote = true := by
        rw [Term.togglesQuote, show quoteCount t.raw = 1 from ht]
        rfl
      apply read_cons
      simp only [take, htoggles, if_true]
      rfl
  | cons u mid ih =>
      have htoggles : u.togglesQuote = false := by
        rw [Term.togglesQuote, show quoteCount u.raw = 0 from h u List.mem_cons_self]
        rfl
      have htake : Reading.take ⟨.quoted s, closed, n⟩ u (mid ++ [t] ++ us).head? =
          (⟨.quoted (s.push u.raw u.hyphenated), closed, n⟩, false) := by
        simp [take, htoggles]
      rw [List.cons_append, List.cons_append, read_cons htake,
        ih fun v hv => h v (List.mem_cons_of_mem u hv)]
      rfl

/-- A quoted span lands whole in the segment that takes its first term. -/
theorem read_span {r : Reading} (hr : r.IsIdle) (s : Segment) (closed : List Segment)
    (hfirst : ∀ t, r.takeQuoted t =
      if t.togglesQuote then ⟨.quoted (s.push t.raw t.hyphenated), closed, r.negated⟩
      else Reading.endQuote ⟨r.place, closed, r.negated⟩ (s.push t.raw t.hyphenated))
    {ts : List Term} (hts : IsSpan Term.quotes ts) (us : List Term) :
    r.read (ts ++ us) =
      (Reading.endQuote ⟨.between, closed, r.negated⟩ (s.pushAll ts)).read us := by
  have htake {t : Term} (ht : 0 < t.quotes) (next : Option Term) :
      r.take t next = (r.takeQuoted t, false) := by
    have hquote : t.hasQuote = true := by simpa [Term.hasQuote, Term.quotes] using ht
    obtain ⟨place, closed, negated⟩ := r
    cases place with
    | quoted s => exact absurd rfl (hr s)
    | between | inside s => simp [take, hquote]
  cases hts with
  | @whole t ht =>
      have htoggles : t.togglesQuote = false := by
        rw [Term.togglesQuote, show quoteCount t.raw = 2 from ht]
        rfl
      rw [List.singleton_append, read_cons (htake (by omega) _), hfirst, htoggles]
      rfl
  | @split t v mid ht hmid hv =>
      have htoggles : t.togglesQuote = true := by
        rw [Term.togglesQuote, show quoteCount t.raw = 1 from ht]
        rfl
      rw [List.cons_append, read_cons (htake (by omega) _), hfirst, htoggles, if_pos rfl,
        read_quoted hmid hv]
      rfl

end Reading

/-! ## Readings of words -/

/-- No instruction ends between the terms. -/
def Calm (ts : List Term) : Prop :=
  ts.IsChain fun t u => ¬ (t.role = .conjunction ∧ u.role = .verb)

theorem Verbatim.calm {ts : List Term} (h : Verbatim ts) : Calm ts :=
  h.apart.imp fun _ _ h => h.2

theorem calm_of_forall {ts : List Term} (h : ∀ t ∈ ts, t.role ≠ .conjunction) : Calm ts := by
  induction ts with
  | nil => exact .nil
  | cons t ts ih =>
      refine List.isChain_cons.mpr ⟨fun u _ hcut => h t List.mem_cons_self hcut.1, ?_⟩
      exact ih fun u hu => h u (List.mem_cons_of_mem t hu)

/-- The terms of the words lead from `r` to `r'`, if what comes behind them is fresh. -/
structure Reads (r : Reading) (ws : List Text) (r' : Reading) : Prop where
  balanced : inQuoteBehind false ws = false
  fresh : Fresh (tagWords false false ws)
  calm : Calm (tagWords false false ws)
  read : ∀ us, Fresh us → r.read (tagWords false false ws ++ us) = r'.read us

theorem tagWords_append_of_balanced {ws : List Text} (h : inQuoteBehind false ws = false)
    (vs : List Text) :
    tagWords false false (ws ++ vs) = tagWords false false ws ++ tagWords false false vs := by
  rw [tagWords_append, h]

theorem Reads.append {r r' r'' : Reading} {ws vs : List Text} (h : Reads r ws r')
    (h' : Reads r' vs r'') (hcut : ∀ t ∈ (tagWords false false ws).getLast?,
      ∀ u ∈ (tagWords false false vs).head?, ¬ (t.role = .conjunction ∧ u.role = .verb)) :
    Reads r (ws ++ vs) r'' where
  balanced := by
    have hws := h.balanced
    have hvs := h'.balanced
    rw [inQuoteBehind] at *
    rw [List.foldl_append, hws, hvs]
  fresh := by
    rw [tagWords_append_of_balanced h.balanced]
    exact h.fresh.append h'.fresh
  calm := by
    rw [tagWords_append_of_balanced h.balanced]
    exact List.isChain_append.mpr ⟨h.calm, h'.calm, hcut⟩
  read us hus := by
    rw [tagWords_append_of_balanced h.balanced, List.append_assoc,
      h.read _ (h'.fresh.append hus), h'.read us hus]

/-- A reading with an open connector segment. -/
abbrev Reading.behind (k : Connector) (ws : List Text) (closed : List Segment) (n : Bool) :
    Reading :=
  ⟨.inside ⟨.connector k, ws⟩, closed, n⟩

theorem Connector.solid_word (k : Connector) : Solid k.word :=
  solid_of_alphanumeric (by cases k <;> decide)

theorem Connector.isWord_word (k : Connector) : Text.IsWord k.word := by
  cases k <;> decide

theorem Connector.unpaired_word (k : Connector) : Unpaired k.word :=
  unpaired_of_forall (by cases k <;> decide)

theorem tagWords_connector (k : Connector) :
    tagWords false false [k.word] = [tagPart [] k.word [] false false false] := by
  have h := k.solid_word.tagWords (p := []) (.inl rfl) false []
  rwa [List.append_nil] at h

theorem reads_connector {r : Reading} (hr : r.IsIdle) (k : Connector) :
    Reads r [k.word] (r.start ⟨.connector k, [k.word]⟩) := by
  have htag := tagWords_connector k
  have hunquoted := k.solid_word.unquoted (p := []) (.inl rfl) false
  refine ⟨by cases k <;> rfl, ?_, ?_, fun us _ => ?_⟩
  · rw [htag]
    rintro t ht
    obtain rfl : tagPart [] k.word [] false false false = t := Option.some.inj ht
    exact .inr k.unpaired_word
  · rw [htag]
    exact .singleton _
  · rw [htag]
    refine Reading.read_cons (Reading.take_connector hr hunquoted ?_ _)
    cases k <;> rfl

theorem reads_not (k : Connector) (ws : List Text) (closed : List Segment) (n : Bool) :
    Reads (.behind k ws closed n) ["not"] (.behind k ws closed true) where
  balanced := by decide
  fresh := by
    rintro t ht
    obtain rfl : tagPart [] "not" [] false false false = t := Option.some.inj ht
    exact .inr (unpaired_of_forall (by decide))
  calm := .singleton _
  read us _ := by
    refine Reading.read_cons (Reading.take_negation (fun s => by simp) ?_ rfl _)
    exact (solid_of_alphanumeric (w := "not") (by decide)).unquoted (.inl rfl) false

theorem reads_quoted {t p : Text} (ht : Quotable t) (hp : IsStop p) (k : Connector)
    (ws : List Text) (closed : List Segment) (n : Bool) :
    Reads (.behind k ws closed n) (Text.words (quoted t ++ p))
      (.behind k (ws ++ Text.words (quoted t ++ p)) closed n) where
  balanced := inQuoteBehind_quoted ht hp
  fresh := by
    obtain ⟨v, vs, hvs, hquotes⟩ := (isSpan_tagWords ht hp).exists_head
    rw [hvs]
    rintro u hu
    obtain rfl : v = u := Option.some.inj hu
    exact .inl (by simpa [Term.hasQuote, Term.quotes] using hquotes)
  calm := calm_of_forall fun u hu => by
    rw [(isSpan_words ht hp).role_of_mem hu]
    decide
  read us _ := by
    rw [Reading.read_span (fun s => by simp) ⟨.connector k, ws⟩ closed
      (fun u => ?_) (isSpan_tagWords ht hp), pushAll_tagWords]
    · rfl
    · rfl

/-- Verbatim terms land in the open segment. -/
theorem read_verbatim {ts us : List Term} (hts : ∀ t ∈ ts, t.Unquoted) (h : Verbatim ts)
    (hus : Fresh us) (k : Connector) (vs : List Text) (closed : List Segment) (n : Bool) :
    (Reading.behind k vs closed n).read (ts ++ us) =
      Reading.read ⟨.inside (Segment.pushAll ⟨.connector k, vs⟩ ts), closed, n⟩ us := by
  induction ts generalizing vs with
  | nil => rfl
  | cons t ts ih =>
      obtain ⟨hconnector, hnegation⟩ := h.role t List.mem_cons_self
      have hnext : (ts ++ us).head?.bind (joined? t) = none := by
        cases ts with
        | cons u ts => exact (List.isChain_cons_cons.mp h.apart).1.1
        | nil =>
            cases us with
            | nil => rfl
            | cons u us =>
                rcases hus u rfl with hu | hu
                · simp [joined?, hu]
                · simp [joined?, hu t.text]
      have htake := Reading.take_word (r := .behind k vs closed n) (fun s => by simp)
        (hts t List.mem_cons_self) hconnector hnegation (ts ++ us).head?
      rw [hnext] at htake
      obtain ⟨ws, hws⟩ : ∃ ws, Segment.push ⟨.connector k, vs⟩ t.raw t.hyphenated =
          ⟨.connector k, ws⟩ := by
        rw [Segment.push]
        split
        · split <;> exact ⟨_, rfl⟩
        · exact ⟨_, rfl⟩
      rw [List.cons_append, Reading.read_cons htake, Segment.pushAll, List.foldl_cons, hws]
      simp only [Reading.takeWord, hws]
      exact ih (fun u hu => hts u (List.mem_cons_of_mem t hu))
        ⟨fun u hu => h.role u (List.mem_cons_of_mem t hu), h.apart.tail⟩ ws

section Words

variable {ws : List Text} {w p : Text} (hws : ∀ v ∈ ws ++ [w], quoteCount v = 0) (hp : IsStop p)
include hws hp

theorem quoteCount_words_stop : ∀ v ∈ ws ++ [w ++ p], quoteCount v = 0 := by
  intro v hv
  rcases List.mem_append.mp hv with hv | hv
  · exact hws v (List.mem_append_left _ hv)
  · obtain rfl := List.mem_singleton.mp hv
    rw [quoteCount_stop hp]
    exact hws w (by simp)

theorem reads_verbatim (h : Verbatim (tagWords false false (ws ++ [w])))
    (hhead : ∀ t ∈ (tagWords false false (ws ++ [w])).head?, Unpaired t.text) (k : Connector)
    (vs : List Text) (closed : List Segment) (n : Bool) :
    Reads (.behind k vs closed n) (ws ++ [w ++ p])
      (.behind k (vs ++ (ws ++ [w ++ p])) closed n) := by
  obtain ⟨ts, t, hts, hstop⟩ := exists_tagWords_stop hp ws w
  rw [hts] at h hhead
  have hverbatim := (verbatim_stop hp ts t).mpr h
  refine ⟨?_, ?_, ?_, fun us hus => ?_⟩
  · have hsum : ((ws ++ [w ++ p]).map quoteCount).sum = 0 := by
      refine List.sum_eq_zero_iff_forall_eq_nat.mpr fun m hm => ?_
      obtain ⟨v, hv, rfl⟩ := List.mem_map.mp hm
      exact quoteCount_words_stop hws hp v hv
    have hbalanced := inQuoteBehind_of_sum (n := 0) (ws ++ [w ++ p])
    rw [hsum] at hbalanced
    exact hbalanced
  · rw [hstop]
    cases ts with
    | nil =>
        rintro u hu
        obtain rfl : t.stop p = u := Option.some.inj hu
        exact .inr (hhead t rfl)
    | cons v ts => exact fun u hu => .inr (hhead u hu)
  · rw [hstop]
    exact hverbatim.calm
  · have hunquoted : ∀ u ∈ tagWords false false (ws ++ [w ++ p]), u.Unquoted :=
      fun u hu => unquoted_of_mem_tagWords (quoteCount_words_stop hws hp) hu
    rw [← hstop] at hverbatim
    rw [read_verbatim hunquoted hverbatim hus, pushAll_tagWords]

end Words

end PlainSteps.Sentence
