import PlainSteps.Proofs.Backslashes
import PlainSteps.Proofs.Silence

/-!
# What is cut out of a text

Every function that takes something off a text gives a part of it, and a part of a text keeps single
spaces between words and characters of one kind (`Text.SpacedOver`). The terms of a word are parts
of it, none of them empty, and a step of a reading pushes at most one word onto one segment
(`Reading.grows_take`). So the segments of a reading keep whatever pushing words keeps
(`Reading.forall_segments_read`).
-/

namespace PlainSteps

/-! ## Parts of texts -/

namespace Text

/-- A text of characters with `p`, in which the only white space is single spaces. -/
def SpacedOver (p : Char → Prop) (t : Text) : Prop := SingleSpaced t ∧ ∀ c ∈ t, p c

/-- A word of characters with `p`. -/
def WordOver (p : Char → Prop) (w : Text) : Prop := IsWord w ∧ ∀ c ∈ w, p c

theorem singleSpaced_cons {c : Char} {t : Text} : SingleSpaced (c :: t) ↔
    (isBlank c → c = ' ') ∧ (c = ' ' → t.head? ≠ some ' ') ∧ SingleSpaced t := by
  rw [SingleSpaced, SingleSpaced, List.forall_mem_cons, List.isChain_cons]
  constructor
  · rintro ⟨⟨hc, ht⟩, hhead, hchain⟩
    exact ⟨hc, fun hspace hnext => hhead ' ' hnext ⟨hspace, rfl⟩, ht, hchain⟩
  · rintro ⟨hc, hhead, ht, hchain⟩
    refine ⟨⟨hc, ht⟩, fun d hd => ?_, hchain⟩
    rintro ⟨rfl, rfl⟩
    exact hhead rfl hd

theorem WordOver.spaced {p : Char → Prop} {w : Text} (h : WordOver p w) : SpacedOver p w :=
  ⟨singleSpaced_of_dense h.1.2, h.2⟩

theorem WordOver.append {p : Char → Prop} {v w : Text} (hv : WordOver p v) (hw : WordOver p w) :
    WordOver p (v ++ w) :=
  ⟨⟨by simp [hv.1.1], fun c hc => (List.mem_append.mp hc).elim (hv.1.2 c) (hw.1.2 c)⟩,
    fun c hc => (List.mem_append.mp hc).elim (hv.2 c) (hw.2 c)⟩

theorem SpacedOver.part {p : Char → Prop} {s t : Text} (ht : SpacedOver p t) (h : s <:+: t) :
    SpacedOver p s :=
  ⟨⟨fun c hc => ht.1.1 c (h.subset hc), List.IsChain.infix ht.1.2 h⟩,
    fun c hc => ht.2 c (h.subset hc)⟩

theorem spacedOver_unwords {p : Char → Prop} (hp : p ' ') {ws : List Text}
    (h : ∀ w ∈ ws, WordOver p w) : SpacedOver p (unwords ws) := by
  refine ⟨?_, fun c hc => ?_⟩
  · induction ws with
    | nil => decide
    | cons w ws ih =>
        obtain ⟨hw, hws⟩ := List.forall_mem_cons.mp h
        cases ws with
        | nil => exact hw.spaced.1
        | cons v vs =>
            obtain ⟨hv, -⟩ := List.forall_mem_cons.mp hws
            have hspace : SingleSpaced (' ' :: unwords (v :: vs)) := by
              refine singleSpaced_cons.mpr ⟨fun _ => rfl, fun _ hhead => ?_, ih hws⟩
              rw [head?_unwords hv.1.1] at hhead
              exact absurd (hv.1.2 ' ' (List.mem_of_head? hhead)) (by decide)
            rw [unwords_cons (List.cons_ne_nil v vs)]
            refine hw.spaced.1.append hspace fun hlast => ?_
            exact absurd (hw.1.2 ' ' (List.mem_of_getLast? hlast)) (by decide)
  · rcases mem_unwords hc with rfl | ⟨w, hw, hcw⟩
    · exact hp
    · exact (h w hw).2 c hcw

theorem dropEndWhile_isPart (q : Char → Bool) (t : Text) : dropEndWhile q t <:+: t :=
  List.IsPrefix.isInfix ⟨_, Sentence.dropEndWhile_append_takeEndWhile q t⟩

theorem trimMatches_isPart (q : Char → Bool) (t : Text) : trimMatches q t <:+: t :=
  (dropEndWhile_isPart q _).trans (List.dropWhile_suffix q).isInfix

theorem trim_isPart (t : Text) : trim t <:+: t := trimMatches_isPart isBlank t

theorem splitAtLast?_isPart {c : Char} {t before behind : Text}
    (h : splitAtLast? c t = some (before, behind)) : before <:+: t := by
  rw [splitAtLast?] at h
  split at h
  · cases h
  next d r hr =>
    obtain ⟨rfl, -⟩ := Prod.mk.inj (Option.some.inj h)
    have hsuffix : r <:+: t.reverse := by
      have hdrop := (List.dropWhile_suffix (l := t.reverse) (· != c)).isInfix
      rw [hr] at hdrop
      exact (List.suffix_cons d r).isInfix.trans hdrop
    rw [← List.reverse_infix, List.reverse_reverse]
    exact hsuffix

end Text

namespace Sentence

theorem stripPunctuation_isPart (t : Text) : stripPunctuation t <:+: t :=
  (Text.trim_isPart _).trans ((Text.trimMatches_isPart _ _).trans (Text.trim_isPart t))

theorem stripFullStop_isPart (t : Text) : stripFullStop t <:+: t := by
  refine (Text.trim_isPart _).trans ?_
  cases h : Text.dropTail? ['.'] t with
  | none => exact List.infix_rfl
  | some r =>
      rw [Text.dropTail?_eq_some h]
      exact (List.prefix_append r ['.']).isInfix

theorem behindQuote_isPart {e : Bool} {t r : Text} (h : behindQuote e t = some r) : r <:+: t := by
  induction t generalizing e with
  | nil => cases h
  | cons c u ih =>
      rw [behindQuote] at h
      split at h
      · obtain rfl := Option.some.inj h
        exact (List.suffix_cons c u).isInfix
      · exact (ih h).trans (List.suffix_cons c u).isInfix

theorem exists_of_unquote? {t v : Text} (h : unquote? t = some v) :
    ∃ u, u <:+: t ∧ v = unescapeQuotes u := by
  obtain ⟨rest, hrest, h⟩ := Option.bind_eq_some_iff.mp h
  obtain ⟨u, hu, rfl⟩ := Option.map_eq_some_iff.mp h
  obtain ⟨behind, rfl⟩ := exists_of_beforeLastQuote hu
  exact ⟨u, (List.prefix_append u _).isInfix.trans (behindQuote_isPart hrest), rfl⟩

theorem variableReference?_isPart {t name : Text} (h : variableReference? t = some name) :
    name <:+: t := by
  revert h
  fun_cases variableReference? t with
  | case1 r inner hinner _ => exact nofun
  | case2 r inner hinner _ =>
      rintro ⟨⟩
      rw [Text.dropTail?_eq_some hinner]
      exact (List.prefix_append name ['}']).isInfix.trans (List.suffix_cons '{' _).isInfix
  | case3 => exact nofun
  | case4 => exact nofun

theorem head?_unescapeQuotes (t : Text) :
    (unescapeQuotes t).head? = t.head? ∨ (unescapeQuotes t).head? = some '"' := by
  fun_cases unescapeQuotes t with
  | case1 => exact .inl rfl
  | case2 => exact .inl rfl
  | case3 c d r h => exact .inr rfl
  | case4 c d r h => exact .inl rfl

theorem spacedOver_unescapeQuotes {p : Char → Prop} {t : Text} (ht : Text.SpacedOver p t) :
    Text.SpacedOver p (unescapeQuotes t) := by
  fun_induction unescapeQuotes t with
  | case1 => exact ht
  | case2 => exact ht
  | case3 c d r h ih =>
      have hrest := ih (ht.part (List.suffix_append [c, d] r).isInfix)
      refine ⟨Text.singleSpaced_cons.mpr ⟨fun hblank => ?_, fun hspace => ?_, hrest.1⟩,
        List.forall_mem_cons.mpr ⟨?_, hrest.2⟩⟩
      · exact absurd hblank (by decide)
      · exact absurd hspace (by decide)
      · exact h.2 ▸ ht.2 d (by simp)
  | case4 c d r h ih =>
      have hrest := ih (ht.part (List.suffix_cons c _).isInfix)
      obtain ⟨hc, hnext, -⟩ := Text.singleSpaced_cons.mp ht.1
      refine ⟨Text.singleSpaced_cons.mpr ⟨hc, fun hspace hhead => ?_, hrest.1⟩,
        List.forall_mem_cons.mpr ⟨ht.2 c List.mem_cons_self, hrest.2⟩⟩
      rcases head?_unescapeQuotes (d :: r) with h' | h'
      · exact hnext hspace (h' ▸ hhead)
      · exact absurd (h'.symm.trans hhead) (by decide)


/-! ## Terms -/

theorem Spells.isPart {later : Bool} {w : Text} {ts : List Term} (h : Spells later w ts) :
    ∀ t ∈ ts, t.raw <:+: w := by
  induction h with
  | last => exact List.forall_mem_singleton.mpr List.infix_rfl
  | @cons later t w ts _ _ _ ih =>
      refine List.forall_mem_cons.mpr ⟨(List.prefix_append t.raw w).isInfix, fun u hu => ?_⟩
      exact (ih u hu).trans (List.suffix_append t.raw w).isInfix

theorem ne_nil_of_mem_hyphenParts {w : Text} (hw : w ≠ []) :
    ∀ part ∈ hyphenParts w, part ≠ [] := by
  rw [hyphenParts]
  split
  next hall =>
    intro part hpart
    have h := List.all_eq_true.mp hall part hpart
    simpa using (Bool.and_eq_true_iff.mp h).1
  · exact List.forall_mem_singleton.mpr hw

theorem raw_ne_nil_of_mem_tagWord {f q : Bool} {w : Text} (hw : w ≠ []) {t : Term}
    (ht : t ∈ tagWord f q w) : t.raw ≠ [] := by
  have htexts : (tagWord f q w).map Term.text =
      hyphenParts (Text.dropEndWhile isTrailing (w.dropWhile (· == '"'))) := texts_tagParts ..
  by_cases hbody : Text.dropEndWhile isTrailing (w.dropWhile (· == '"')) = []
  · -- The word is nothing but punctuation, and its one term is the word.
    have hspells := spells_tagWord f q w
    rw [hbody, show hyphenParts [] = [[]] from rfl] at htexts
    obtain ⟨u, hu⟩ := List.length_eq_one_iff.mp
      (by simpa using congrArg List.length htexts : (tagWord f q w).length = 1)
    rw [hu] at ht hspells
    obtain rfl := List.mem_singleton.mp ht
    cases hspells with
    | last => exact hw
    | cons _ _ htail => nomatch htail
  · have hmem := List.mem_map_of_mem (f := Term.text) ht
    rw [htexts] at hmem
    have hne := ne_nil_of_mem_hyphenParts hbody t.text hmem
    simp [Term.raw, hne]

theorem wordOver_raw {p : Char → Prop} {f q : Bool} {ws : List Text}
    (h : ∀ w ∈ ws, Text.WordOver p w) : ∀ t ∈ tagWords f q ws, Text.WordOver p t.raw := by
  induction ws generalizing f q with
  | nil => exact nofun
  | cons w ws ih =>
      obtain ⟨hw, hws⟩ := List.forall_mem_cons.mp h
      refine List.forall_mem_append.mpr ⟨fun t ht => ?_, ih hws⟩
      have hpart := (spells_tagWord f (q || quoteCount w > 0) w).isPart t ht
      exact ⟨⟨raw_ne_nil_of_mem_tagWord hw.1.1 ht, fun c hc => hw.1.2 c (hpart.subset hc)⟩,
        fun c hc => hw.2 c (hpart.subset hc)⟩

/-! ## Segments -/

/-- The later segments are the earlier ones, or the word was pushed onto a new one or the last. -/
inductive Grows (word : Text) : List Segment → List Segment → Prop
  | same (segments : List Segment) : Grows word segments segments
  | new (segments : List Segment) (kind : SegmentKind) (later : Bool) :
      Grows word segments (segments ++ [Segment.push ⟨kind, []⟩ word later])
  | last (segments : List Segment) (s : Segment) (later : Bool) :
      Grows word (segments ++ [s]) (segments ++ [s.push word later])

/-- A word that a step of a reading may push when it takes the term. -/
def IsPushed (t : Term) (word : Text) : Prop :=
  word = t.raw ∨ (∃ k : Connector, k.word = word) ∨ ∃ e ∈ wordPairs, e.2.2 = word

namespace Reading

@[simp] theorem segments_endQuote (r : Reading) (s : Segment) :
    (r.endQuote s).segments = r.closed ++ [s] := by
  rw [endQuote]
  split
  · exact List.append_nil _
  · rfl

theorem grows_takeQuoted (r : Reading) (t : Term) :
    Grows t.raw r.segments (r.takeQuoted t).segments := by
  have hend (place : Place) (closed : List Segment) (s : Segment) :
      (if t.togglesQuote then ⟨.quoted s, closed, r.negated⟩
        else Reading.endQuote ⟨place, closed, r.negated⟩ s).segments = closed ++ [s] := by
    split
    · rfl
    · exact segments_endQuote _ s
  have hnew : Grows t.raw r.segments _ := .new r.segments .noun t.hyphenated
  obtain ⟨place, closed, negated⟩ := r
  cases place with
  | between | quoted s =>
      rw [← hend] at hnew
      exact hnew
  | inside s =>
      by_cases hverb : s.kind = .verb
      · simp only [takeQuoted, hverb, if_true, hend]
        exact hnew
      · simp only [takeQuoted, hverb, if_false, hend]
        exact .last closed s t.hyphenated

theorem grows_takeWord (r : Reading) (word : Text) (later : Bool) (role : Role) :
    Grows word r.segments (r.takeWord word later role).segments := by
  obtain ⟨place, closed, negated⟩ := r
  have hnew (place : Place) (kind : SegmentKind) :
      Grows word (segments ⟨place, closed, negated⟩)
        (Reading.start ⟨place, closed, negated⟩ ⟨kind, [word]⟩).segments :=
    .new _ kind later
  cases place with
  | between | quoted s =>
      cases role with
      | verb | noun => exact hnew _ _
      | connector | determiner | negation | conjunction | other => exact .same _
  | inside s =>
      obtain ⟨kind, words⟩ := s
      cases kind <;> cases role <;>
        first | exact .last closed _ later | exact hnew _ _ | exact .same _

/-- What a step of a reading pushes is the term as written, a connector word, or the word that two
terms stand for. -/
theorem grows_take (r : Reading) (t : Term) (next : Option Term) :
    ∃ word, IsPushed t word ∧ Grows word r.segments (r.take t next).1.segments := by
  have hraw : IsPushed t t.raw := .inl rfl
  cases hquoted : r.isQuoted with
  | true =>
      obtain ⟨place, closed, negated⟩ := r
      cases place with
      | between | inside s => cases hquoted
      | quoted s =>
          refine ⟨t.raw, hraw, ?_⟩
          have hpush : Grows t.raw (closed ++ [s]) _ := .last closed s t.hyphenated
          rw [take]
          dsimp only
          split
          · rw [segments_endQuote]
            exact hpush
          · exact hpush
  | false =>
      rw [take_outside hquoted]
      split
      · exact ⟨t.raw, hraw, grows_takeQuoted r t⟩
      · split
        · split
          next k hk =>
            rw [Connector.ofWord?] at hk
            have hword : k.word = t.lower := by simpa using List.find?_some hk
            exact ⟨t.lower, .inr (.inl ⟨k, hword⟩), .new _ (.connector k) false⟩
          next =>
            refine ⟨t.raw, hraw, ?_⟩
            have hsegments : segments { r with place := .between, closed := r.segments } =
                r.segments := List.append_nil _
            rw [hsegments]
            exact .same _
        · split
          · exact ⟨t.raw, hraw, .same _⟩
          · split
            next word hword =>
              obtain ⟨u, -, hjoined⟩ := Option.bind_eq_some_iff.mp hword
              rw [joined?] at hjoined
              split at hjoined
              · cases hjoined
              · obtain ⟨e, he, rfl⟩ := Option.map_eq_some_iff.mp hjoined
                refine ⟨e.2.2, .inr (.inr ⟨e, List.mem_of_find?_eq_some he, rfl⟩), ?_⟩
                exact grows_takeWord r _ false .noun
            next => exact ⟨t.raw, hraw, grows_takeWord r t.raw t.hyphenated t.role⟩

/-- The segments of a reading keep what pushing words keeps. -/
theorem forall_segments_read {Q : Segment → Prop} {W : Text → Prop}
    (hempty : ∀ kind, Q ⟨kind, []⟩)
    (hpush : ∀ s word later, Q s → W word → Q (s.push word later)) {r : Reading}
    (hr : ∀ s ∈ r.segments, Q s) {ts : List Term}
    (hts : ∀ t ∈ ts, ∀ word, IsPushed t word → W word) :
    ∀ s ∈ (r.read ts).segments, Q s := by
  have htake {r : Reading} (hr : ∀ s ∈ r.segments, Q s) {t : Term}
      (ht : ∀ word, IsPushed t word → W word) (next : Option Term) :
      ∀ s ∈ (r.take t next).1.segments, Q s := by
    obtain ⟨word, hword, hgrows⟩ := grows_take r t next
    revert hr
    generalize r.segments = before, (r.take t next).1.segments = behind at hgrows
    intro hr
    cases hgrows with
    | same => exact hr
    | new _ kind later =>
        exact List.forall_mem_append.mpr ⟨hr, List.forall_mem_singleton.mpr
          (hpush _ word later (hempty kind) (ht word hword))⟩
    | last front s later =>
        obtain ⟨hfront, hs⟩ := List.forall_mem_append.mp hr
        exact List.forall_mem_append.mpr ⟨hfront, List.forall_mem_singleton.mpr
          (hpush s word later (hs s List.mem_cons_self) (ht word hword))⟩
  fun_induction r.read ts with
  | case1 r => exact hr
  | case2 r t => exact htake hr (hts t List.mem_cons_self) none
  | case3 r t u rest r' h ih =>
      have hr' := htake hr (hts t List.mem_cons_self) (some u)
      rw [h] at hr'
      exact ih hr' fun v hv => hts v (List.mem_cons_of_mem t (List.mem_cons_of_mem u hv))
  | case4 r t u rest r' h ih =>
      have hr' := htake hr (hts t List.mem_cons_self) (some u)
      rw [h] at hr'
      exact ih hr' fun v hv => hts v (List.mem_cons_of_mem t hv)

end Reading

end Sentence

end PlainSteps
