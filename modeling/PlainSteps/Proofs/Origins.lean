import PlainSteps.Proofs.Excerpts
import PlainSteps.Proofs.NormalForm
import PlainSteps.Proofs.Rejoining

/-!
# Where the texts of a command come from

The texts of a command are cut out of its sentence. Whatever is cut off them on the way, the words
in them stand with single spaces between, and their characters are those of the sentence, but for
the few that are put in (`IsAlphabet`). Every connector segment keeps that (`over_addConnected`).
The main statement is `over_of_mem_parse`.
-/

namespace PlainSteps

namespace Sentence

/-! ## Alphabets -/

/-- The alphabet has the characters that are put into a text when it is read: letters and digits of
the vocabulary, spaces between words, the stop of a clause and the marks around flags. -/
structure IsAlphabet (p : Char → Prop) : Prop where
  alphanumeric : ∀ c, isAlphanumeric c → p c
  marks : ∀ c ∈ [' ', '.', '(', '?', ')'], p c

section Alphabet

variable {p : Char → Prop} (hp : IsAlphabet p)
include hp

theorem IsAlphabet.wordOver {w : Text} (hw : Text.IsWord w) (h : ∀ c ∈ w, isAlphanumeric c) :
    Text.WordOver p w :=
  ⟨hw, fun c hc => hp.alphanumeric c (h c hc)⟩

theorem IsAlphabet.wordOver_of_isPushed {t : Term} (ht : Text.WordOver p t.raw) {word : Text}
    (h : IsPushed t word) : Text.WordOver p word := by
  have hpair : ∀ e ∈ wordPairs, Text.IsWord e.2.2 ∧ ∀ c ∈ e.2.2, isAlphanumeric c := by
    decide
  rcases h with rfl | ⟨k, rfl⟩ | ⟨e, he, rfl⟩
  · exact ht
  · exact hp.wordOver k.isWord_word (by cases k <;> decide)
  · exact hp.wordOver (hpair e he).1 (hpair e he).2

omit hp in
theorem wordOver_push {s : Segment} (hs : ∀ w ∈ s.words, Text.WordOver p w) {word : Text}
    (hword : Text.WordOver p word) (later : Bool) :
    ∀ w ∈ (s.push word later).words, Text.WordOver p w := by
  have hnew : ∀ w ∈ s.words ++ [word], Text.WordOver p w :=
    List.forall_mem_append.mpr ⟨hs, List.forall_mem_singleton.mpr hword⟩
  rw [Segment.push]
  split
  next last hlast =>
    split
    · have hglued := (hs last (List.mem_of_getLast? hlast)).append hword
      exact List.forall_mem_append.mpr
        ⟨fun w hw => hs w (List.mem_of_mem_dropLast hw), List.forall_mem_singleton.mpr hglued⟩
    · exact hnew
  · exact hnew

theorem wordOver_segments {ts : List Term} (hts : ∀ t ∈ ts, Text.WordOver p t.raw) :
    ∀ s ∈ (({} : Reading).read ts).segments, ∀ w ∈ s.words, Text.WordOver p w :=
  Reading.forall_segments_read (fun _ => List.forall_mem_nil _)
    (fun _ _ later hs hword => wordOver_push hs hword later) (List.forall_mem_nil _)
    fun t ht _ hpushed => hp.wordOver_of_isPushed (hts t ht) hpushed

omit hp in
theorem spacedOver_unquote? {t v : Text} (ht : Text.SpacedOver p t) (h : unquote? t = some v) :
    Text.SpacedOver p v := by
  obtain ⟨u, hu, rfl⟩ := exists_of_unquote? h
  exact spacedOver_unescapeQuotes (ht.part hu)

theorem spacedOver_withFlags {flags fl source : Text} (h : inlineFlags flags = .ok fl)
    (hsource : Text.SpacedOver p source) : Text.SpacedOver p (withFlags fl source) := by
  have hfl : ∀ c ∈ fl, c ∈ ['i', 'm', 's'] := by
    induction flags generalizing fl with
    | nil =>
        obtain rfl := Except.ok.inj h
        exact nofun
    | cons c r ih =>
        rw [inlineFlags] at h
        split at h
        next hc =>
          cases hr : inlineFlags r with
          | error d =>
              rw [hr] at h
              cases h
          | ok fl' =>
              rw [hr] at h
              obtain rfl := Except.ok.inj h
              exact List.forall_mem_cons.mpr ⟨List.contains_iff_mem.mp hc, ih hr⟩
        · split at h
          · exact ih h
          · cases h
  have hall : ∀ c ∈ "(?".toList ++ fl ++ ")".toList, isBlank c = false ∧ p c := by
    have hflag : ∀ c ∈ ['i', 'm', 's'], isBlank c = false ∧ isAlphanumeric c := by decide
    have hmark : ∀ c ∈ "(?".toList ++ ")".toList, isBlank c = false ∧
        c ∈ [' ', '.', '(', '?', ')'] := by decide
    intro c hc
    have hcases : c ∈ fl ∨ c ∈ "(?".toList ++ ")".toList := by
      simpa [or_comm, or_left_comm, or_assoc] using hc
    rcases hcases with hc | hc
    · exact ⟨(hflag c (hfl c hc)).1, hp.alphanumeric c (hflag c (hfl c hc)).2⟩
    · exact ⟨(hmark c hc).1, hp.marks c (hmark c hc).2⟩
  rw [withFlags]
  split
  · exact hsource
  · refine ⟨(Text.singleSpaced_of_dense fun c hc => (hall c hc).1).append hsource.1
      fun hlast => ?_, List.forall_mem_append.mpr ⟨fun c hc => (hall c hc).2, hsource.2⟩⟩
    exact absurd ((hall ' ' (List.mem_of_getLast? hlast)).1) (by decide)

theorem spacedOver_slashPattern? [Regex.Engine] {t v : Text} (ht : Text.SpacedOver p t)
    (h : slashPattern? t = .ok (some v)) : Text.SpacedOver p v := by
  revert h
  fun_cases slashPattern? t with
  | case1 => exact nofun
  | case2 => exact nofun
  | case3 body source flags hsplit fl hfl =>
      intro h
      obtain ⟨_, -, h⟩ := bind_eq_ok h
      obtain rfl := Option.some.inj (Except.ok.inj h)
      refine spacedOver_withFlags hp hfl (ht.part ?_)
      exact (Text.splitAtLast?_isPart hsplit).trans (List.suffix_cons '/' body).isInfix
  | case4 => exact nofun

end Alphabet

/-! ## Commands -/

end Sentence

/-- The texts of the command are over the alphabet, with single spaces between words. -/
structure Command.Over (p : Char → Prop) (c : Command) : Prop where
  object : Text.SpacedOver p c.object
  specifier : ∀ t ∈ c.specifier, Text.SpacedOver p t
  value : ∀ t ∈ c.value, Text.SpacedOver p t
  variableName : ∀ t ∈ c.variableName, Text.SpacedOver p t

namespace Command.Over

variable {p : Char → Prop} {c : Command} (h : c.Over p) {t : Text} (ht : Text.SpacedOver p t)
include h ht

theorem withSpecifier : (c.withSpecifier t).Over p :=
  { h with specifier := by rintro _ ⟨⟩; exact ht }

theorem withSection : (c.withSection t).Over p :=
  { h with specifier := by rintro _ ⟨⟩; exact ht }

theorem withValue : (c.withValue t).Over p :=
  { h with value := by rintro _ ⟨⟩; exact ht }

theorem withVariable : (c.withVariable t).Over p :=
  { h with variableName := by rintro _ ⟨⟩; exact ht }

end Command.Over

namespace Sentence

section Alphabet

variable {p : Char → Prop} (hp : IsAlphabet p)
include hp

theorem IsAlphabet.unwords {ws vs : List Text} (hws : ∀ w ∈ ws, Text.WordOver p w)
    (h : ∀ v ∈ vs, v ∈ ws) : Text.SpacedOver p (Text.unwords vs) :=
  Text.spacedOver_unwords (hp.marks ' ' (by decide)) fun v hv => hws v (h v hv)

variable {c c' : Command} (hc : c.Over p) {rest : List Text}
  (hrest : ∀ w ∈ rest, Text.WordOver p w)
include hc hrest

omit hp hc hrest in
theorem mem_of_mem_skipArticles {ws : List Text} : ∀ w ∈ skipArticles ws, w ∈ ws :=
  fun _ hw => (List.dropWhile_suffix _).subset hw

theorem over_addScope (h : addScope c rest = .ok c') : c'.Over p := by
  have htext : Text.SpacedOver p (scopeText rest) :=
    (hp.unwords hrest mem_of_mem_skipArticles).part (Text.trim_isPart _)
  rw [addScope] at h
  dsimp only at h
  rw [← scopeText] at h
  split at h
  · cases hunquote : unquote? (scopeText rest) with
    | none =>
        rw [hunquote] at h
        cases h
    | some title =>
        rw [hunquote] at h
        obtain rfl := Except.ok.inj h
        exact hc.withSection (spacedOver_unquote? htext hunquote)
  · have hname := htext.part (stripPunctuation_isPart (scopeText rest))
    generalize stripPunctuation (scopeText rest) = name at h hname
    cases name with
    | nil => cases h
    | cons first tail =>
        obtain rfl := Except.ok.inj h
        refine hc.withSpecifier ?_
        split
        · cases hregion : regionNamed? (first :: tail) with
          | none => exact hname
          | some region =>
              have hall : ∀ e ∈ regionSynonyms,
                  Text.IsWord e.2 ∧ ∀ c ∈ e.2, isAlphanumeric c := by decide
              obtain ⟨e, he, rfl⟩ := Option.map_eq_some_iff.mp hregion
              have hword := hall e (List.mem_of_find?_eq_some he)
              exact (hp.wordOver hword.1 hword.2).spaced
        · exact hname

theorem over_addValue (h : addValue c rest = .ok c') : c'.Over p := by
  rw [addValue] at h
  split at h
  next value hunquote =>
    obtain rfl := Except.ok.inj h
    exact hc.withValue (spacedOver_unquote? (hp.unwords hrest fun _ hw => hw) hunquote)
  · dsimp only at h
    generalize hvalue : stripPunctuation _ = value at h
    split at h
    · cases h
    · obtain rfl := Except.ok.inj h
      refine hc.withValue ?_
      rw [← hvalue]
      refine (hp.unwords hrest fun w hw => ?_).part (stripPunctuation_isPart _)
      refine mem_of_mem_skipArticles w ?_
      split at hw
      next first second tail hwords =>
        rw [hwords]
        split at hw
        · exact List.mem_cons_of_mem first hw
        · exact hw
      · exact hw

theorem over_addPosition (h : addPosition c rest = .ok c') : c'.Over p := by
  have hvalue : ∀ v ∈ (unquote? (Text.unwords rest)).or (rest.getLast?.map stripPunctuation),
      Text.SpacedOver p v := by
    intro v hv
    rcases Option.or_eq_some_iff.mp hv with hv | ⟨-, hv⟩
    · exact spacedOver_unquote? (hp.unwords hrest fun _ hw => hw) hv
    · obtain ⟨w, hw, rfl⟩ := Option.map_eq_some_iff.mp hv
      exact (hrest w (List.mem_of_getLast? hw)).spaced.part (stripPunctuation_isPart w)
  rw [addPosition] at h
  split at h
  next v hv =>
    split at h
    · cases h
    · obtain rfl := Except.ok.inj h
      exact hc.withValue (hvalue v hv)
  · cases h

theorem over_addStoreName (h : addStoreName c rest = .ok c') : c'.Over p := by
  have hname : ∀ name ∈ (unquote? (Text.unwords rest)).or (rest.getLast?.map fun w =>
      Text.trimMatches (['{', '}'].contains ·) (stripPunctuation w)), Text.SpacedOver p name := by
    intro name hname
    rcases Option.or_eq_some_iff.mp hname with hname | ⟨-, hname⟩
    · exact spacedOver_unquote? (hp.unwords hrest fun _ hw => hw) hname
    · obtain ⟨w, hw, rfl⟩ := Option.map_eq_some_iff.mp hname
      refine (hrest w (List.mem_of_getLast? hw)).spaced.part ?_
      exact (Text.trimMatches_isPart _ _).trans (stripPunctuation_isPart w)
  simp only [addStoreName] at h
  split at h
  next name heq =>
    split at h
    · cases h
    · obtain rfl := Except.ok.inj h
      exact hc.withVariable (hname name heq)
  · cases h

omit hrest in
theorem over_addExpected [Regex.Engine] {a : Assertion} {operand : Text}
    (hoperand : Text.SpacedOver p operand) (h : addExpected c a operand = .ok c') : c'.Over p := by
  have hquoted : ∀ v ∈ unquote? operand, Text.SpacedOver p v :=
    fun v hv => spacedOver_unquote? hoperand hv
  have hunquoted : Text.SpacedOver p (stripFullStop operand) :=
    hoperand.part (stripFullStop_isPart operand)
  have hgetD {t : Text} (ht : Text.SpacedOver p t) :
      Text.SpacedOver p ((unquote? operand).getD t) := by
    cases hv : unquote? operand with
    | none => exact ht
    | some v => exact hquoted v hv
  have hvalue := hc.withValue (hgetD (hunquoted.part (stripPunctuation_isPart _)))
  have hname {name : Text} (h : variableReference? (stripFullStop operand) = some name) :
      (c.withVariable (Text.trim name)).Over p :=
    hc.withVariable (hunquoted.part ((Text.trim_isPart name).trans (variableReference?_isPart h)))
  simp only [addExpected] at h
  split at h
  · cases h
  · split at h
    · obtain ⟨literal, hliteral, h⟩ := bind_eq_ok h
      split at h
      next pattern =>
        obtain rfl := Except.ok.inj h
        exact hc.withValue (spacedOver_slashPattern? hp (hgetD hunquoted) hliteral)
      · split at h
        next name _ href =>
          obtain rfl := Except.ok.inj h
          exact hname href
        · obtain ⟨_, -, h⟩ := bind_eq_ok h
          obtain rfl := Except.ok.inj h
          exact hvalue
    · obtain ⟨literal, hliteral, h⟩ := bind_eq_ok h
      obtain rfl := Except.ok.inj hliteral
      dsimp only at h
      split at h
      next name _ href =>
        obtain rfl := Except.ok.inj h
        exact hname href
      · obtain rfl := Except.ok.inj h
        exact hvalue

omit hp hc hrest in
theorem suffix_of_assertionHead {a : Assertion} {tail : List Text}
    (h : assertionHead c rest = .ok (a, tail)) : tail <:+ rest := by
  unfold assertionHead at h
  split at h
  · cases h
  next first tail' =>
    dsimp only at h
    split at h
    · obtain ⟨-, rfl⟩ := Prod.mk.inj (Except.ok.inj h)
      exact (List.drop_suffix 1 tail').trans (List.suffix_cons first tail')
    · split at h
      · obtain ⟨-, rfl⟩ := Prod.mk.inj (Except.ok.inj h)
        exact List.suffix_cons first _
      · cases h

omit hp hc hrest in
theorem assertionAspect_suffix (words : List Text) : (assertionAspect words).2 <:+ words := by
  unfold assertionAspect
  split
  next first second tail =>
    have htail : tail <:+ first :: second :: tail := List.suffix_append [first, second] tail
    dsimp only
    split
    · exact htail
    · split
      · exact htail
      · split
        · exact List.suffix_rfl
        · exact List.suffix_cons first _
  · exact List.suffix_rfl

theorem over_addAssertion [Regex.Engine] (h : addAssertion c rest = .ok c') : c'.Over p := by
  rw [addAssertion] at h
  obtain ⟨⟨a, tail⟩, hhead, h⟩ := bind_eq_ok h
  have hwords := (assertionAspect_suffix tail).trans (suffix_of_assertionHead hhead)
  dsimp only at h
  split at h
  · obtain rfl := Except.ok.inj h
    exact { hc with }
  · have hasserted (aspect : Aspect) :
        ({ c with assertion := some a }.withAspect aspect).Over p := { hc with }
    refine over_addExpected hp (hasserted _) ?_ h
    exact (hp.unwords hrest fun _ hw => hwords.subset hw).part (Text.trim_isPart _)

theorem over_addConnected [Regex.Engine] {k : Connector} (h : addConnected c k rest = .ok c') :
    c'.Over p := by
  cases k with
  | on_ => exact over_addScope hp hc hrest h
  | with_ => exact over_addValue hp hc hrest h
  | to_ | into_ =>
      rw [addConnected] at h
      cases haction : c.action with
      | slide =>
          simp only [haction] at h
          exact over_addPosition hp hc hrest h
      | store =>
          simp only [haction] at h
          exact over_addStoreName hp hc hrest h
      | ensure =>
          simp only [haction] at h
          exact over_addAssertion hp hc hrest h
      | click | hover | fill =>
          simp only [haction] at h
          cases h

omit hc hrest in
theorem over_target {segments : List (List Text)}
    (hsegments : ∀ ws ∈ segments, ∀ w ∈ ws, Text.WordOver p w)
    (h : target segments = .ok c) : c.Over p := by
  unfold target at h
  split at h
  next action object role =>
    have hwords : ∀ w ∈ object, Text.WordOver p w := hsegments object (by simp)
    have htext := hp.unwords hwords fun _ hw => hw
    have hobject : Text.SpacedOver p
        ((unquote? (Text.unwords object)).getD (stripPunctuation (Text.unwords object))) := by
      cases hv : unquote? (Text.unwords object) with
      | none => exact htext.part (stripPunctuation_isPart _)
      | some v => exact spacedOver_unquote? htext hv
    dsimp only at h
    split at h
    next a _ =>
      split at h
      · obtain rfl := Except.ok.inj h
        exact ⟨hobject, nofun, nofun, nofun⟩
      · split at h
        · obtain rfl := Except.ok.inj h
          exact ⟨hobject, nofun, nofun, nofun⟩
        · cases h
    · cases h
  all_goals cases h

omit hp hc hrest in
theorem exists_of_mem_connected {segments : List Segment} {x : Connector × List Text}
    (h : x ∈ connected segments) :
    ∃ s ∈ segments, s.kind = .connector x.1 ∧ x.2 = s.words.drop 1 := by
  obtain ⟨s, hs, hx⟩ := List.mem_filterMap.mp h
  cases hkind : s.kind with
  | verb | noun =>
      rw [hkind] at hx
      cases hx
  | connector k =>
      rw [hkind] at hx
      obtain rfl := Option.some.inj hx
      exact ⟨s, hs, hkind, rfl⟩

omit hc hrest in
theorem over_command [Regex.Engine] {r : Reading}
    (hr : ∀ s ∈ r.segments, ∀ w ∈ s.words, Text.WordOver p w) (h : r.command = .ok c) :
    c.Over p := by
  rw [Reading.command_eq] at h
  obtain ⟨c₀, htarget, h⟩ := bind_eq_ok h
  obtain ⟨c₁, hfold, hchecked⟩ := bind_eq_ok h
  obtain rfl := checked_eq_ok hchecked
  have hpositional : ∀ ws ∈ positional r.segments, ∀ w ∈ ws, Text.WordOver p w := by
    intro ws hws
    obtain ⟨s, hs, rfl⟩ := List.mem_map.mp hws
    exact hr s (List.mem_of_mem_filter hs)
  have hconnected : ∀ x ∈ connected r.segments, ∀ w ∈ x.2, Text.WordOver p w := by
    intro x hx
    obtain ⟨s, hs, -, hwords⟩ := exists_of_mem_connected hx
    rw [hwords]
    exact fun w hw => hr s hs w (List.mem_of_mem_drop hw)
  have htargeted : Command.Over p { c₀ with isNegativeAssertion := r.negated } :=
    { over_target hp hpositional htarget with }
  refine foldlM_induction
    (fun done c => (∀ x ∈ done, ∀ w ∈ x.2, Text.WordOver p w) → c.Over p)
    (fun _ => htargeted) (fun done x c c' ih hadd hwords => ?_) hfold hconnected
  obtain ⟨hdone, hx⟩ := List.forall_mem_append.mp hwords
  exact over_addConnected hp (ih hdone) (hx x List.mem_cons_self) hadd

end Alphabet


/-! ## Sentences -/

theorem exists_of_mem_mapM {ε α β : Type} {f : α → Except ε β} {xs : List α} {ys : List β}
    (h : xs.mapM f = .ok ys) : ∀ y ∈ ys, ∃ x ∈ xs, f x = .ok y := by
  have hall := forall₂_of_mapM h
  clear h
  induction hall with
  | nil => exact nofun
  | cons hx _ ih =>
      refine List.forall_mem_cons.mpr ⟨⟨_, List.mem_cons_self, hx⟩, fun y hy => ?_⟩
      obtain ⟨x, hmem, hf⟩ := ih y hy
      exact ⟨x, List.mem_cons_of_mem _ hmem, hf⟩

/-- A command of a sentence is read from an instruction of one of its clauses. -/
theorem exists_of_mem_parse [Regex.Engine] {sentence : Text} {commands : List Command}
    (h : parse sentence = .ok commands) {c : Command} (hc : c ∈ commands) :
    ∃ clause ∈ clauses sentence, ∃ ts ∈ instructions (lexicon clause),
      readInstruction ts = .ok c := by
  obtain ⟨ts, hts, hread⟩ := exists_of_mem_mapM h c hc
  obtain ⟨clause, hclause, hmem⟩ := List.mem_flatMap.mp hts
  exact ⟨clause, hclause, ts, hmem, hread⟩

theorem mem_of_mem_instructions {ts us : List Term} (h : us ∈ instructions ts) :
    ∀ t ∈ us, t ∈ ts := by
  obtain ⟨-, p, hp, rfl⟩ := exists_of_mem_instructions h
  intro t ht
  refine mem_of_mem_rawParts p hp t ?_
  rw [← dropTrailingConjunctions_append p]
  exact List.mem_append_left _ ht

theorem mem_of_mem_clauses {sentence clause : Text} (h : clause ∈ clauses sentence) :
    ∀ c ∈ clause, c ∈ sentence ∨ c = '.' := by
  obtain ⟨piece, hpiece, hclose⟩ := List.mem_filterMap.mp h
  obtain ⟨-, rfl⟩ := closeClause_eq_some hclose
  intro c hc
  rcases List.mem_append.mp hc with hc | hc
  · exact .inl (mem_of_mem_pieces piece hpiece c ((Text.trim_isPart piece).subset hc))
  · exact .inr (List.mem_singleton.mp hc)

/-- The texts of a command are over the alphabet of its sentence, with single spaces between
words. -/
theorem over_of_mem_parse [Regex.Engine] {p : Char → Prop} (hp : IsAlphabet p) {sentence : Text}
    (hsentence : ∀ d ∈ sentence, p d) {commands : List Command}
    (h : parse sentence = .ok commands) : ∀ c ∈ commands, c.Over p := by
  intro c hc
  obtain ⟨clause, hclause, ts, hts, hread⟩ := exists_of_mem_parse h hc
  have hwords : ∀ w ∈ Text.words clause, Text.WordOver p w := by
    refine fun w hw => ⟨Text.isWord_of_mem_words hw, fun d hd => ?_⟩
    rcases mem_of_mem_clauses hclause d (Text.mem_of_mem_words hw hd) with hd | rfl
    · exact hsentence d hd
    · exact hp.marks '.' (by decide)
  have hterms : ∀ t ∈ ts, Text.WordOver p t.raw :=
    fun t ht => wordOver_raw hwords t (mem_of_mem_instructions hts t ht)
  exact over_command hp (wordOver_segments hp hterms) (exists_reading hread)

theorem isAlphabet_ne {d : Char} (hd : isAlphanumeric d = false)
    (hmarks : d ∉ [' ', '.', '(', '?', ')']) : IsAlphabet (· ≠ d) where
  alphanumeric c hc := by
    rintro rfl
    exact Bool.false_ne_true (hd.symm.trans hc)
  marks c hc := by
    rintro rfl
    exact hmarks hc

end Sentence

theorem evenBackslashes_of_forall {t : Text} (h : ∀ c ∈ t, c ≠ '\\') : EvenBackslashes t := by
  rintro before run after rfl hrun - -
  cases run with
  | nil => exact Even.zero
  | cons c r => exact absurd (hrun c List.mem_cons_self) (h c (by simp))


end PlainSteps
