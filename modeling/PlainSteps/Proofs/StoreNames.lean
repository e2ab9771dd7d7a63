import PlainSteps.Proofs.Blocks
import PlainSteps.Proofs.Expressible
import PlainSteps.Proofs.Origins
import PlainSteps.Proofs.Regexes

/-!
# Names of stores

A canonical sentence writes the name of a store in braces and never in quotes. Behind its scope such
a sentence has no quote left, so that the name is looked for among single words, and a name with a
blank in it is not read back. `dense_of_parse_render` says so of whole sentences. The terms in front
of the name are read without any operand (`exists_front`), and what is read behind them has words
without quotes (`isFront_or_wordOver_read`), so that every store finds a name without blanks
(`dense_of_command`).
-/

namespace PlainSteps.Sentence

/-! ## The front of a canonical sentence -/

theorem exists_scopePhrase [Regex.Engine] {c : Command} (h : c.ScopeExpressible) :
    c.renderScope = [] ∨ ∃ q : Phrase, c.renderScope = ' ' :: q.text ∧ q.connector = .on_ := by
  obtain ⟨ps, rfl | ⟨q, rfl, hq⟩, htext, -⟩ := exists_scopePhrases h
  · exact .inl htext.symm
  · exact .inr ⟨q, by rw [← htext, phraseText, List.flatMap_singleton], hq⟩

/-- A segment that names no operand. -/
def Segment.IsFront (s : Segment) : Prop := s.kind.isPositional ∨ s.kind = .connector .on_

/-- The terms of a canonical sentence in front of its operand are read into the target and the
scope, whatever the operand is. -/
theorem exists_front [Regex.Engine] {c : Command} (hobject : Quotable c.object)
    (hrole : c.elementType ∈ standardRoles) (hscope : c.ScopeExpressible) (u : Text) :
    ∃ (ts : List Term) (r : Reading),
      lexicon (sentenceOf c.action c.object c.elementType (c.renderScope ++ ' ' :: u)) =
        ts ++ termsOf (u ++ ['.']) ∧ Calm ts ∧
      (∀ us, Fresh us → ({} : Reading).read (ts ++ us) = r.read us) ∧
      ∀ s ∈ r.segments, s.IsFront := by
  have hname := names_of_standardRole hrole
  have htarget := role_of_mem_targetTerms c.action hobject hname []
  have hpositional : ∀ s ∈ (targetReading c.action c.object (c.elementType ++ [])).segments,
      s.IsFront := by
    simp [targetReading, Reading.segments, Place.segments, Segment.IsFront,
      SegmentKind.isPositional]
  rcases exists_scopePhrase hscope with hnone | ⟨q, hq, hconnector⟩
  · refine ⟨_, _, ?_, calm_of_forall htarget,
      fun us hus => read_target c.action hobject hname (.inl rfl) hus, hpositional⟩
    rw [hnone, List.nil_append, lexicon_sentenceOf_cons c.action hobject hname]
  · have hreads := q.reads (p := []) (.inl rfl)
      (isIdle_targetReading c.action c.object (c.elementType ++ []))
    have hfront : ∀ s ∈ (Reading.behind q.connector (q.connector.word :: q.operand [])
        (targetReading c.action c.object (c.elementType ++ [])).segments
        (false || q.negates)).segments, s.IsFront :=
      List.forall_mem_append.mpr
        ⟨hpositional, List.forall_mem_singleton.mpr (.inr (by rw [hconnector]))⟩
    rw [List.append_nil q.text] at hreads
    refine ⟨targetTerms c.action c.object c.elementType [] ++ termsOf q.text, _, ?_, ?_,
      fun us hus => ?_, hfront⟩
    · rw [hq, List.cons_append, lexicon_sentenceOf_cons c.action hobject hname, List.append_assoc,
        List.cons_append, q.termsOf_append, List.append_assoc]
    · exact List.isChain_append.mpr ⟨calm_of_forall htarget, hreads.calm,
        fun t ht _ _ hcut => htarget t (List.mem_of_getLast? ht) hcut.1⟩
    · have hfresh : Fresh (termsOf q.text ++ us) := hreads.fresh.append hus
      rw [List.append_assoc, read_target c.action hobject hname (.inl rfl) hfresh]
      exact hreads.read us hus

/-! ## Names without quotes -/

/-- The name of the command, if it has one, has no blank in it. -/
def HasDenseName (c : Command) : Prop := ∀ name ∈ c.variableName, ∀ d ∈ name, isBlank d = false

/-- A name that is not quoted is a single word. -/
theorem dense_of_addStoreName {c c' : Command} {rest : List Text}
    (hrest : ∀ w ∈ rest, Text.WordOver (· ≠ '"') w) (h : addStoreName c rest = .ok c') :
    HasDenseName c' := by
  have hnone : unquote? (Text.unwords rest) = none :=
    unquote?_unwords_eq_none fun w hw => (hrest w hw).2
  simp only [addStoreName, hnone, Option.none_or] at h
  split at h
  next name hname =>
    split at h
    · cases h
    · obtain rfl := Except.ok.inj h
      obtain ⟨w, hw, rfl⟩ := Option.map_eq_some_iff.mp hname
      have hpart := (Text.trimMatches_isPart (['{', '}'].contains ·) (stripPunctuation w)).trans
        (stripPunctuation_isPart w)
      rintro _ ⟨⟩ d hd
      exact (hrest w (List.mem_of_getLast? hw)).1.2 d (hpart.subset hd)
  · cases h

/-- A segment of a store names it by a single word, unless it has a quote. The scope may have one,
since it leaves the name alone. -/
theorem dense_addConnected [Regex.Engine] {c c' : Command} {k : Connector} {rest : List Text}
    (hrest : k = .on_ ∨ ∀ w ∈ rest, Text.WordOver (· ≠ '"') w) (haction : c.action = .store)
    (hc : HasDenseName c) (h : addConnected c k rest = .ok c') : HasDenseName c' := by
  cases k with
  | on_ =>
      have hsame : c'.variableName = c.variableName := by
        cases adds_addConnected h with
        | title | scope => rfl
        | value _ hk | storeName hk | existence hk | comparedValue _ _ hk
        | comparedVariable _ _ hk => exact absurd rfl hk
      rw [HasDenseName, hsame]
      exact hc
  | with_ =>
      have hvalue : addValue c rest = .ok c' := h
      obtain ⟨v, rfl, -⟩ := exists_addValue hvalue
      exact hc
  | to_ | into_ =>
      rw [addConnected, haction] at h
      exact dense_of_addStoreName (hrest.resolve_left (by decide)) h

/-- A store that finds no quotes but in its scope has a name without blanks. -/
theorem dense_foldlM [Regex.Engine] {segments : List (Connector × List Text)} {c c' : Command}
    (hsegments : ∀ s ∈ segments, s.1 = .on_ ∨ ∀ w ∈ s.2, Text.WordOver (· ≠ '"') w)
    (hc : HasDenseName c)
    (h : segments.foldlM (fun c (k, rest) => addConnected c k rest) c = .ok c')
    (haction : c'.action = .store) : HasDenseName c' := by
  -- The action has to be carried along, since only stores look for a name in this way.
  refine foldlM_induction (fun done c => (∀ s ∈ done, s.1 = .on_ ∨
    ∀ w ∈ s.2, Text.WordOver (· ≠ '"') w) → c.action = .store → HasDenseName c) (fun _ _ => hc)
    (fun done s c c' ih hadd hdone haction => ?_) h hsegments haction
  obtain ⟨hdone, hs⟩ := List.forall_mem_append.mp hdone
  have hstore : c.action = .store := (adds_addConnected hadd).action.symm.trans haction
  exact dense_addConnected (hs s List.mem_cons_self) hstore (ih hdone hstore) hadd

theorem dense_of_command [Regex.Engine] {r : Reading} {c : Command}
    (hr : ∀ s ∈ r.segments, s.IsFront ∨ ∀ w ∈ s.words, Text.WordOver (· ≠ '"') w)
    (h : r.command = .ok c) (haction : c.action = .store) : HasDenseName c := by
  rw [Reading.command_eq] at h
  obtain ⟨c₀, htarget, h⟩ := bind_eq_ok h
  obtain ⟨c₁, hfold, hchecked⟩ := bind_eq_ok h
  obtain rfl := checked_eq_ok hchecked
  refine dense_foldlM (fun x hx => ?_) ?_ hfold haction
  · obtain ⟨s, hs, hkind, hwords⟩ := exists_of_mem_connected hx
    rw [hwords]
    rcases hr s hs with (hpositional | hon) | hover
    · rw [hkind] at hpositional
      cases hpositional
    · exact .inl (SegmentKind.connector.inj (hkind.symm.trans hon))
    · exact .inr fun w hw => hover w (List.mem_of_mem_drop hw)
  · rw [HasDenseName, (exists_target htarget).2]
    nofun

/-! ## Behind the front -/

/-- What is read behind the front is gathered there, or in segments without quotes. -/
theorem isFront_or_wordOver_read {r : Reading} (hr : ∀ s ∈ r.segments, s.IsFront) {ts : List Term}
    (hts : ∀ t ∈ ts, Text.WordOver (· ≠ '"') t.raw) :
    ∀ s ∈ (r.read ts).segments, s.IsFront ∨ ∀ w ∈ s.words, Text.WordOver (· ≠ '"') w := by
  have hp : IsAlphabet (· ≠ '"') := isAlphabet_ne (by decide) (by decide)
  refine Reading.forall_segments_read (fun _ => .inr (List.forall_mem_nil _))
    (fun s word later hs hword => ?_) (fun s hs => .inl (hr s hs))
    fun t ht _ hpushed => hp.wordOver_of_isPushed (hts t ht) hpushed
  rcases hs with hs | hs
  · left
    rw [Segment.IsFront, Segment.kind_push]
    exact hs
  · exact .inr (wordOver_push hs hword later)

theorem wordOver_termsOf {p : Char → Prop} {t : Text} (ht : ∀ d ∈ t, p d) :
    ∀ u ∈ termsOf t, Text.WordOver p u.raw :=
  wordOver_raw fun _ hw =>
    ⟨Text.isWord_of_mem_words hw, fun d hd => ht d (Text.mem_of_mem_words hw hd)⟩

/-! ## Canonical sentences of stores -/

/-- The words of a store behind `into`. -/
def naming (name : Text) : Text := "variable ".toList ++ braced name

section Store

variable {c : Command} (haction : c.action = .store) {name : Text}
  (hname : c.variableName = some name)
include haction hname

theorem renderOperand_store :
    c.renderOperand = ' ' :: (Connector.into_.word ++ ' ' :: naming name) := by
  rw [Command.renderOperand, haction, hname]
  rfl

variable (hobject : Quotable c.object) (hrole : c.elementType ∈ standardRoles)
  (hscope : c.ScopeExpressible)
  (hplain : ∀ d ∈ name, d ≠ '\\' ∧ d ≠ '"' ∧ d ≠ '{' ∧ d ≠ '}' ∧ d ≠ '\r')
include hobject hrole hscope hplain

/-- The canonical sentence of a store is one clause, since a name in braces is not cut. -/
theorem parse_render_store [Regex.Engine] :
    parse c.render = (instructions (lexicon c.render)).mapM readInstruction := by
  have hseamless : Seamless {} (c.renderScope ++ c.renderOperand) {} := by
    have hlead : Seamless {} " into variable ".toList {} := seamless_ordinary (by decide) 0
    have hrender : Seamless {} c.renderScope {} := by
      rcases exists_scopePhrase hscope with hnone | ⟨q, hq, -⟩
      · rw [hnone]
        exact .nil _
      · have hspace : Seamless {} [' '] {} := seamless_ordinary (by decide) 0
        rw [hq]
        exact hspace.append q.seamless
    rw [renderOperand_store haction hname]
    exact hrender.append (hlead.append (seamless_braced hplain))
  have hlast : ∀ d ∈ (c.renderScope ++ c.renderOperand).getLast?, isBlank d = false := by
    have hend : c.renderOperand = " into variable \x7b".toList ++ name ++ ['}'] := by
      rw [Command.renderOperand, haction, hname]
      rfl
    rw [hend, ← List.append_assoc, List.getLast?_concat]
    rintro d ⟨⟩
    rfl
  rw [render_eq_sentenceOf]
  exact parse_sentenceOf c.action hobject (names_of_standardRole hrole) hseamless hlast

/-- A store that is read back has no blank in its name. -/
theorem dense_of_parse_render [Regex.Engine] (h : parse c.render = .ok [c]) :
    ∀ d ∈ name, isBlank d = false := by
  rw [parse_render_store haction hname hobject hrole hscope hplain] at h
  obtain ⟨ts, r, hlexicon, hcalm, hread, hfront⟩ := exists_front hobject hrole hscope
    (Connector.into_.word ++ ' ' :: naming name)
  have hterms : lexicon c.render = ts ++ tagPart [] Connector.into_.word [] false false false ::
      termsOf (naming name ++ ['.']) := by
    rw [render_eq_sentenceOf, renderOperand_store haction hname, hlexicon, List.append_assoc,
      List.cons_append, termsOf_connector]
  obtain ⟨terms, hone, hcommand⟩ := eq_singleton_of_mapM h
  rw [hterms] at hone
  obtain ⟨us, hus, rfl⟩ := exists_of_instructions hcalm (by decide) (by decide) hone
  have hfresh : Fresh (tagPart [] Connector.into_.word [] false false false :: us) := by
    rintro t ⟨⟩
    exact .inr Connector.into_.unpaired_word
  have hover : ∀ t ∈ tagPart [] Connector.into_.word [] false false false :: us,
      Text.WordOver (· ≠ '"') t.raw := by
    have hbraced := unquoted_braced fun d hd => (hplain d hd).2.1
    have hnaming : ∀ d ∈ naming name ++ ['.'], d ≠ '"' :=
      List.forall_mem_append.mpr
        ⟨List.forall_mem_append.mpr ⟨by decide, hbraced⟩, by decide⟩
    have hall : ∀ d ∈ Connector.into_.word ++ ' ' :: (naming name ++ ['.']), d ≠ '"' :=
      List.forall_mem_append.mpr ⟨by decide, List.forall_mem_cons.mpr ⟨by decide, hnaming⟩⟩
    have hwords := wordOver_termsOf hall
    rw [termsOf_connector] at hwords
    refine fun t ht => hwords t ?_
    rcases List.mem_cons.mp ht with rfl | ht
    · exact List.mem_cons_self
    · exact List.mem_cons_of_mem _ (hus.subset ht)
  have hreading := exists_reading hcommand
  rw [hread _ hfresh] at hreading
  exact dense_of_command (isFront_or_wordOver_read hfront hover) hreading haction name hname

end Store

end PlainSteps.Sentence
