import PlainSteps.Proofs.Segments
import PlainSteps.Regex.Builtin

/-!
# Scope phrases

Of several scope phrases the last gives the name, although the flag of a section stays from any of
them (`readInstruction_scope`). A scope phrase may trade places with another phrase
(`readInstruction_swap`), and without it the command is the same but for its scope and for the
negations among the words of the phrase, which reach past it (`readInstruction_unscoped`).
-/

namespace PlainSteps.Sentence

open Command

/-! ## One phrase or several -/

/-- Without the other scope phrases, the words behind `on` give the terms this scope. -/
def GivesAlone [Regex.Engine] (ts : List Term) (rest : List Text) (x : Text × Bool) : Prop :=
  ∀ front back, connected (segmentsOf ts) = front ++ (.on_, rest) :: back →
    ∃ c, commandFrom (positional (segmentsOf ts)) (unscoped front ++ (.on_, rest) :: unscoped back)
      (isNegated ts) = .ok c ∧ c.specifier = some x.1 ∧ c.isSection = x.2

/-- The command has no scope if none is named, and otherwise one of those that are named. -/
def OneScope (names : List (Text × Bool)) (c : Command) : Prop :=
  (names = [] ∧ c.specifier = none ∧ c.isSection = false) ∨
    ∃ x ∈ names, c.specifier = some x.1 ∧ c.isSection = x.2

theorem oneScope_inScopes_iff {d : Command} (hspecifier : d.specifier = none)
    (hsection : d.isSection = false) (names : List (Text × Bool)) :
    OneScope names (d.inScopes names) ↔
      ∀ x ∈ names.getLast?, (d.inScopes names).isSection → (x.1, true) ∈ names := by
  rcases List.eq_nil_or_concat' names with rfl | ⟨front, x, rfl⟩
  · rw [inScopes_nil]
    exact ⟨fun _ => nofun, fun _ => .inl ⟨rfl, hspecifier, hsection⟩⟩
  · have hname : (d.inScopes (front ++ [x])).specifier = some x.1 := by
      simp [inScopes]
    have hlast : (front ++ [x]).getLast? = some x := List.getLast?_concat
    rw [OneScope, hname, hlast]
    constructor
    · rintro (⟨hnil, -⟩ | ⟨y, hy, hxy, htitle⟩) _ ⟨⟩ hsome
      · exact absurd hnil (by simp)
      · rw [Option.some.inj hxy, ← hsome, htitle]
        exact hy
    · intro h
      refine .inr ?_
      cases htitle : (d.inScopes (front ++ [x])).isSection with
      | true => exact ⟨_, h x rfl htitle, rfl, rfl⟩
      | false =>
          -- None of the scopes is a title, and so the last is none.
          have hall : (d.isSection || (front ++ [x]).any Prod.snd) = false := htitle
          simp only [List.any_append, List.any_cons, Bool.or_eq_false_iff] at hall
          exact ⟨x, by simp, rfl, hall.2.2.1.symm⟩

/-- Of several scope phrases the last gives the name, and the flag of a section is set if any of
them gives it. So the scope of a command that is read is the one that a single phrase gives alone,
unless the flag stays from a phrase of another name than the last. -/
theorem readInstruction_scope [Regex.Engine] {ts : List Term} {c : Command}
    (h : readInstruction ts = .ok c) :
    ∃ names, List.Forall₂ (GivesAlone ts) (scopePhrases (connected (segmentsOf ts))) names ∧
      c.specifier = names.getLast?.map Prod.fst ∧ c.isSection = names.any Prod.snd ∧
      (OneScope names c ↔ ∀ x ∈ names.getLast?, c.isSection → (x.1, true) ∈ names) := by
  obtain ⟨-, h⟩ := readInstruction_eq_ok_iff.mp h
  obtain ⟨names, d, hnames, hd, rfl⟩ := commandFrom_eq_ok_iff.mp h
  obtain ⟨hspecifier, hsection, -⟩ := scope_of_commandFrom hd
  refine ⟨names, hnames.imp ?_, ?_, ?_, oneScope_inScopes_iff hspecifier hsection names⟩
  · intro rest x hx front back hconnected
    have hunscoped : unscoped (unscoped front ++ (.on_, rest) :: unscoped back) =
        unscoped (connected (segmentsOf ts)) := by
      simp [hconnected]
    refine ⟨d.inScopes [x], commandFrom_eq_ok_iff.mpr ⟨[x], d, ?_, ?_, rfl⟩, rfl, ?_⟩
    · simpa using hx
    · rw [hunscoped]
      exact hd
    · simp [inScopes, hsection]
  · simp [inScopes, hspecifier]
  · simp [inScopes, hsection]

def rescoped : Text :=
  "Fill \"Name\" field on main with \"Ada\" on the \"Billing\" section."

open Regex.Builtin

/-- Behind a section that is named last, no earlier scope is left. -/
theorem readInstruction_scope_rescoped :
    ∃ c, readInstruction (lexicon rescoped) = .ok c ∧ c.specifier = some "Billing".toList ∧
      c.isSection = true ∧
      ∃ names, List.Forall₂ (GivesAlone (lexicon rescoped))
        (scopePhrases (connected (segmentsOf (lexicon rescoped)))) names ∧
        c.specifier = names.getLast?.map Prod.fst ∧ c.isSection = names.any Prod.snd ∧
        (OneScope names c ↔ ∀ x ∈ names.getLast?, c.isSection → (x.1, true) ∈ names) := by
  have hread : readInstruction (lexicon rescoped) =
      .ok { action := .fill, object := "Name", elementType := "textbox",
            specifier := some "Billing", isSection := true, value := some "Ada" } := by
    decide +kernel
  exact ⟨_, hread, rfl, rfl, readInstruction_scope hread⟩

def mixedScopes : Text := "Click \"X\" button on the \"Profile\" section on the nav."

/-- Behind a section and then a scope without quotes, the name of the one comes with the flag of
the other, which neither of them gives alone. -/
theorem readInstruction_scope_mixed :
    ∃ c, readInstruction (lexicon mixedScopes) = .ok c ∧ c.specifier = some "nav".toList ∧
      c.isSection = true ∧
      ∀ names, List.Forall₂ (GivesAlone (lexicon mixedScopes))
        (scopePhrases (connected (segmentsOf (lexicon mixedScopes)))) names →
        ¬ OneScope names c := by
  have hread : readInstruction (lexicon mixedScopes) =
      .ok { action := .click, object := "X", elementType := "button",
            specifier := some "nav", isSection := true } := by
    decide +kernel
  have hconnected : connected (segmentsOf (lexicon mixedScopes)) =
      ([(.on_, ["the", "\"Profile\"", "section"]), (.on_, ["the", "nav."])] :
        List (Connector × List Text)) := by
    decide +kernel
  have hfirst : commandFrom (positional (segmentsOf (lexicon mixedScopes)))
      [(.on_, ["the", "\"Profile\"", "section"])] (isNegated (lexicon mixedScopes)) =
      .ok { action := .click, object := "X", elementType := "button",
            specifier := some "Profile", isSection := true } := by
    decide +kernel
  have hsecond : commandFrom (positional (segmentsOf (lexicon mixedScopes)))
      [(.on_, ["the", "nav."])] (isNegated (lexicon mixedScopes)) =
      .ok { action := .click, object := "X", elementType := "button",
            specifier := some "nav" } := by
    decide +kernel
  refine ⟨_, hread, rfl, rfl, fun names hnames => ?_⟩
  rw [hconnected, scopePhrases_scope, scopePhrases_scope] at hnames
  obtain ⟨x, _, hx, htail, rfl⟩ := List.forall₂_cons_left_iff.mp hnames
  obtain ⟨y, _, hy, hnil, rfl⟩ := List.forall₂_cons_left_iff.mp htail
  obtain rfl := List.forall₂_nil_left_iff.mp hnil
  obtain ⟨c, hc, hxname, hxtitle⟩ := hx [] _ hconnected
  obtain rfl := Except.ok.inj (hfirst.symm.trans hc)
  obtain ⟨d, hd, -, hytitle⟩ := hy [_] [] hconnected
  obtain rfl := Except.ok.inj (hsecond.symm.trans hd)
  rintro (⟨hnil, -⟩ | ⟨z, hz, hzname, hztitle⟩)
  · cases hnil
  · rcases List.mem_pair.mp hz with rfl | rfl
    · exact absurd (hzname.trans hxname.symm) (by decide)
    · exact absurd (hztitle.trans hytitle.symm) (by decide)

/-! ## The order of phrases -/

@[simp] theorem positional_append (front back : List Segment) :
    positional (front ++ back) = positional front ++ positional back := by
  simp [positional]

@[simp] theorem connected_append (front back : List Segment) :
    connected (front ++ back) = connected front ++ connected back :=
  List.filterMap_append

theorem exists_connected {k : Connector} {ts : List Term} (h : isBlock k ts) :
    positional (segmentsOf ts) = [] ∧ ∃ rest, connected (segmentsOf ts) = [(k, rest)] := by
  obtain ⟨ws, hws⟩ := exists_segment h
  rw [hws]
  exact ⟨rfl, _, rfl⟩

/-- A block in the middle has its segment in the middle. -/
theorem read_around {front mid back : List Term} (hfront : Even (quotesOf front))
    (hmid : isCut mid) (hquotes : Even (quotesOf mid)) (hback : isCut back) :
    segmentsOf (front ++ mid ++ back) = segmentsOf front ++ segmentsOf mid ++ segmentsOf back ∧
      isNegated (front ++ mid ++ back) = (isNegated front || isNegated mid || isNegated back) := by
  have hboth : Even (quotesOf (front ++ mid)) := by
    rw [quotesOf_append]
    exact hfront.add hquotes
  obtain ⟨hsegments, hnegated⟩ := read_parts hboth hback
  obtain ⟨hsegments', hnegated'⟩ := read_parts hfront hmid
  rw [hsegments, hnegated, hsegments', hnegated']
  exact ⟨rfl, rfl⟩

/-- A scope phrase and another phrase behind it may trade places, whatever stands before them. -/
theorem readInstruction_swap [Regex.Engine] {front scope other : List Term} {k : Connector}
    (hk : k ≠ .on_) (hscope : isBlock .on_ scope) (hother : isBlock k other)
    (hscopeQuotes : Even (quotesOf scope)) (hotherQuotes : Even (quotesOf other)) (c : Command) :
    readInstruction (front ++ scope ++ other) = .ok c ↔
      readInstruction (front ++ other ++ scope) = .ok c := by
  rw [readInstruction_eq_ok_iff, readInstruction_eq_ok_iff]
  simp only [quotesOf_append, Nat.even_add, hscopeQuotes, hotherQuotes, iff_true]
  refine and_congr_right fun hfront => ?_
  obtain ⟨hsegments, hnegated⟩ :=
    read_around hfront (isCut_of_isBlock hscope) hscopeQuotes (isCut_of_isBlock hother)
  obtain ⟨hsegments', hnegated'⟩ :=
    read_around hfront (isCut_of_isBlock hother) hotherQuotes (isCut_of_isBlock hscope)
  obtain ⟨hnone, scopeWords, hscopeWords⟩ := exists_connected hscope
  obtain ⟨hnone', otherWords, hotherWords⟩ := exists_connected hother
  rw [hsegments, hnegated, hsegments', hnegated', Bool.or_right_comm]
  simp only [positional_append, connected_append, hnone, hnone', hscopeWords, hotherWords,
    List.append_nil]
  refine commandFrom_congr ?_ ?_ _ _ c
  · simp [hk]
  · simp [hk]

def billingTerms : List Term :=
  lexicon "Ensure \"Total\" element on the \"Billing\" section to not contain text \"10\""

/-- The section is the same when it is named behind the assertion. -/
theorem readInstruction_swap_billing :
    readInstruction (billingTerms.take 3 ++ billingTerms.drop 7 ++ (billingTerms.drop 3).take 4) =
      .ok { action := .ensure, object := "Total", elementType := "generic",
            specifier := some "Billing", isSection := true, isNegativeAssertion := true,
            assertion := some .contain, aspect := some .plain, value := some "10" } := by
  have hread : readInstruction
      (billingTerms.take 3 ++ (billingTerms.drop 3).take 4 ++ billingTerms.drop 7) =
      .ok { action := .ensure, object := "Total", elementType := "generic",
            specifier := some "Billing", isSection := true, isNegativeAssertion := true,
            assertion := some .contain, aspect := some .plain, value := some "10" } := by
    decide +kernel
  have hblocks : isBlock .on_ ((billingTerms.drop 3).take 4) ∧ isBlock .to_ (billingTerms.drop 7) ∧
      Even (quotesOf ((billingTerms.drop 3).take 4)) ∧ Even (quotesOf (billingTerms.drop 7)) := by
    decide +kernel
  obtain ⟨hscope, hother, hscopeQuotes, hotherQuotes⟩ := hblocks
  have hto : Connector.to_ ≠ .on_ := nofun
  exact (readInstruction_swap hto hscope hother hscopeQuotes hotherQuotes _).mp hread

/-! ## Negations -/

/-- A term outside quotes is tagged as a negation; `inQuote` says that a quoted span is open before
the terms. -/
def negates (inQuote : Bool) : List Term → Bool
  | [] => false
  | t :: r => (!inQuote && t.role == .negation) || negates (inQuote != t.togglesQuote) r

/-- The term negates by its role alone, and only without quotes. -/
structure Term.IsPlain (t : Term) : Prop where
  negative : t.negative = (t.role == .negation)
  unquoted : t.role = .negation → t.Unquoted

/-- A negation is read apart from the term before it. -/
theorem Term.Unquoted.isDetached {t : Term} (h : t.Unquoted) (hrole : t.role = .negation) :
    t.IsDetached := by
  obtain ⟨f, hf⟩ := h.role
  rw [hrole] at hf
  constructor
  · intro heq
    have hthe : ∀ f, roleOf "the" f ≠ .negation := by decide
    rw [heq] at hf
    exact hthe f hf.symm
  · refine unpaired_of_forall fun e he heq => ?_
    have hall : ∀ e ∈ wordPairs, ∀ f, roleOf e.2.1 f ≠ .negation := by decide
    rw [lower, ← heq] at hf
    exact hall e he f hf.symm

namespace Reading

theorem negated_endQuote (r : Reading) (s : Segment) : (r.endQuote s).negated = r.negated := by
  rw [endQuote]
  split <;> rfl

theorem negated_takeWord (r : Reading) (word : Text) (hyphenated : Bool) (role : Role) :
    (r.takeWord word hyphenated role).negated = r.negated := by
  obtain ⟨place, closed, negated⟩ := r
  cases place with
  | between | quoted s => cases role <;> rfl
  | inside s =>
      obtain ⟨kind, words⟩ := s
      cases kind <;> cases role <;> rfl

theorem negated_takeQuoted (r : Reading) (t : Term) : (r.takeQuoted t).negated = r.negated := by
  simp only [takeQuoted]
  cases t.togglesQuote with
  | true => rfl
  | false => exact negated_endQuote ..

variable {r : Reading} {t : Term} {ts : List Term}

theorem negated_take_of_isQuoted (hr : r.isQuoted) (t : Term) (next : Option Term) :
    (r.take t next).1.negated = r.negated := by
  obtain ⟨place, closed, negated⟩ := r
  cases place with
  | between | inside => cases hr
  | quoted s =>
      simp only [take]
      split
      · exact negated_endQuote ..
      · rfl

theorem negated_take_of_ne (hr : r.isQuoted = false) (hrole : t.role ≠ .negation)
    (hnegative : t.negative = false) (next : Option Term) :
    (r.take t next).1.negated = r.negated := by
  have hneg : (t.role == .negation || t.negative) = false := by simp [hrole, hnegative]
  rw [take_outside hr, hneg, if_neg Bool.false_ne_true]
  split
  · exact negated_takeQuoted r t
  · split
    · split <;> rfl
    · split <;> exact negated_takeWord ..

/-- Just the negations outside quotes negate. -/
theorem negated_take (ht : t.IsPlain) (r : Reading) (next : Option Term) :
    (r.take t next).1.negated = (r.negated || (!r.isQuoted && t.role == .negation)) := by
  cases hquoted : r.isQuoted with
  | true =>
      rw [negated_take_of_isQuoted hquoted]
      simp
  | false =>
      by_cases hrole : t.role = .negation
      · have hidle : r.IsIdle := fun s hs => by
          rw [isQuoted, hs] at hquoted
          cases hquoted
        rw [take_negation hidle (ht.unquoted hrole) hrole]
        simp [hrole]
      · have hnegative : t.negative = false := by
          rw [ht.negative]
          exact beq_false_of_ne hrole
        rw [negated_take_of_ne hquoted hrole hnegative]
        simp [hrole]

/-- What joins another term is no negation. -/
theorem role_of_take_joined {u : Term} (hu : u.IsPlain) (h : (r.take t (some u)).2 = true) :
    u.role ≠ .negation := by
  intro hrole
  rw [take_detached ((hu.unquoted hrole).isDetached hrole), take_none] at h
  cases h

theorem negated_read (h : ∀ t ∈ ts, t.IsPlain) (r : Reading) :
    (r.read ts).negated = (r.negated || negates r.isQuoted ts) := by
  fun_induction r.read ts with
  | case1 r => exact (Bool.or_false _).symm
  | case2 r t =>
      rw [negated_take (h t List.mem_cons_self), negates, negates, Bool.or_false]
  | case3 r t u rest r' htake ih =>
      obtain ⟨ht, hrest⟩ := List.forall_mem_cons.mp h
      obtain ⟨hu, hrest⟩ := List.forall_mem_cons.mp hrest
      have htaken := negated_take ht r (some u)
      have hjoined := role_of_take_joined (r := r) (t := t) hu (by rw [htake])
      obtain ⟨hopen, hnext⟩ := isQuoted_take r t (some u)
      rw [htake] at htaken hopen hnext
      have huRole : (u.role == .negation) = false := beq_false_of_ne hjoined
      have huQuotes : u.togglesQuote = false := by
        rw [togglesQuote_eq, hnext rfl u rfl]
        rfl
      rw [ih hrest, htaken, hopen, negates, negates, huRole, huQuotes, Bool.and_false,
        Bool.false_or, Bool.bne_false, togglesQuote_eq, Bool.or_assoc]
  | case4 r t u rest r' htake ih =>
      obtain ⟨ht, hrest⟩ := List.forall_mem_cons.mp h
      have htaken := negated_take ht r (some u)
      obtain ⟨hopen, -⟩ := isQuoted_take r t (some u)
      rw [htake] at htaken hopen
      rw [ih hrest, htaken, hopen, Bool.or_assoc]
      rfl

end Reading

theorem exists_of_mem_tagWords {f q : Bool} {ws : List Text} {t : Term} (h : t ∈ tagWords f q ws) :
    ∃ pre part post f q later, t = tagPart pre part post f q later := by
  induction ws generalizing f q with
  | nil => cases h
  | cons w ws ih =>
      rcases List.mem_append.mp h with h | h
      · obtain ⟨pre, part, post, f, later, ht⟩ := exists_of_mem_tagWord h
        exact ⟨pre, part, post, f, _, later, ht⟩
      · exact ih h

theorem isPlain_of_mem_lexicon {clause : Text} {t : Term} (h : t ∈ lexicon clause) :
    t.IsPlain := by
  obtain ⟨front, back, hsplit⟩ := List.append_of_mem h
  obtain ⟨_, _, _, f, q, _, rfl⟩ := exists_of_mem_tagWords h
  refine ⟨rfl, fun hrole => ?_⟩
  obtain ⟨hquotes, -⟩ := outside_tagWords hsplit (.inl (by rw [hrole]; decide))
  cases q with
  | true => cases hrole
  | false => exact ⟨hquotes, ⟨f, rfl⟩, rfl⟩

theorem isNegated_eq_negates {ts : List Term} (h : ∀ t ∈ ts, ∃ clause, t ∈ lexicon clause) :
    isNegated ts = negates false ts := by
  refine (Reading.negated_read (fun t ht => ?_) {}).trans (Bool.false_or _)
  obtain ⟨clause, hclause⟩ := h t ht
  exact isPlain_of_mem_lexicon hclause

/-- In a clause every negation stands outside quotes, and so each of them counts. -/
theorem negates_eq_any {clause : Text} {before ts after : List Term}
    (h : lexicon clause = before ++ ts ++ after) :
    negates (isOdd (quotesOf before)) ts = ts.any (·.role == .negation) := by
  induction ts generalizing before with
  | nil => rfl
  | cons t ts ih =>
      have hrest : lexicon clause = (before ++ [t]) ++ ts ++ after := by simpa using h
      have hparity : (isOdd (quotesOf before) != t.togglesQuote) =
          isOdd (quotesOf (before ++ [t])) := by
        rw [quotesOf_append, isOdd_add, togglesQuote_eq]
        rfl
      rw [negates, List.any_cons, hparity, ih hrest]
      by_cases hrole : t.role = .negation
      · have hsplit : lexicon clause = before ++ t :: (ts ++ after) := by simpa using h
        obtain ⟨-, hodd⟩ := outside_tagWords hsplit (.inl (by rw [hrole]; decide))
        have hbefore : isOdd (quotesOf before) = false := hodd
        rw [hbefore, Bool.not_false, Bool.true_and]
      · rw [beq_false_of_ne hrole, Bool.and_false]

/-- Without a scope phrase the command is the same but for its scope and for what the negations
among the words of the phrase do: outside quotes each of them negates the assertion, as if it stood
before it. -/
theorem readInstruction_unscoped [Regex.Engine] {front scope back : List Term} {c d : Command}
    (hlexicon : ∀ t ∈ scope, ∃ clause, t ∈ lexicon clause) (hscope : isBlock .on_ scope)
    (hfront : Even (quotesOf front)) (hback : isCut back)
    (hc : readInstruction (front ++ scope ++ back) = .ok c)
    (hd : readInstruction (front ++ back) = .ok d) :
    c = { d with
      specifier := c.specifier
      isSection := c.isSection
      isNegativeAssertion := d.isNegativeAssertion || negates false scope } ∧
    ∀ clause before after, lexicon clause = before ++ scope ++ after → Even (quotesOf before) →
      (c.isNegativeAssertion ↔ d.isNegativeAssertion ∨ ∃ t ∈ scope, t.role = .negation) := by
  have hcNegated := isNegativeAssertion_eq hc
  have hdNegated := isNegativeAssertion_eq hd
  obtain ⟨hquotes, hc⟩ := readInstruction_eq_ok_iff.mp hc
  obtain ⟨hquotes', hd⟩ := readInstruction_eq_ok_iff.mp hd
  have hscopeQuotes : Even (quotesOf scope) := by
    simp only [quotesOf_append, Nat.even_add, hfront, true_iff] at hquotes hquotes'
    exact hquotes.mpr hquotes'
  obtain ⟨hsegments, hnegated⟩ := read_around hfront (isCut_of_isBlock hscope) hscopeQuotes hback
  obtain ⟨hsegments', hnegated'⟩ := read_parts hfront hback
  have hflag : c.isNegativeAssertion = (d.isNegativeAssertion || negates false scope) := by
    rw [hcNegated, hdNegated, hnegated, hnegated', isNegated_eq_negates hlexicon,
      Bool.or_right_comm]
  constructor
  · rw [← hflag, hcNegated]
    obtain ⟨hnone, rest, hrest⟩ := exists_connected hscope
    obtain ⟨names, c', -, hc', rfl⟩ := commandFrom_eq_ok_iff.mp hc
    obtain ⟨names', d', -, hd', rfl⟩ := commandFrom_eq_ok_iff.mp hd
    rw [hsegments] at hc'
    rw [hsegments'] at hd'
    have htargets : positional (segmentsOf front ++ segmentsOf scope ++ segmentsOf back) =
        positional (segmentsOf front ++ segmentsOf back) := by
      simp [hnone]
    have hunscoped :
        unscoped (connected (segmentsOf front ++ segmentsOf scope ++ segmentsOf back)) =
          unscoped (connected (segmentsOf front ++ segmentsOf back)) := by
      simp [hrest]
    rw [htargets, hunscoped] at hc'
    rw [commandFrom_marked hc' hd']
    rfl
  · intro clause before after hclause hbefore
    have hany := negates_eq_any hclause
    rw [isOdd_eq_false.mpr hbefore] at hany
    rw [hflag, hany, Bool.or_eq_true]
    simp

def notFoundTerms : List Term :=
  lexicon "Ensure \"Banner\" element on the \"Not Found\" section to not be visible."

/-- A title between quotes holds no negation. -/
theorem readInstruction_unscoped_notFound :
    ∃ c d, readInstruction
        (notFoundTerms.take 3 ++ (notFoundTerms.drop 3).take 5 ++ notFoundTerms.drop 8) = .ok c ∧
      readInstruction (notFoundTerms.take 3 ++ notFoundTerms.drop 8) = .ok d ∧
      c.specifier = some "Not Found".toList ∧
      c = { d with
        specifier := c.specifier
        isSection := c.isSection
        isNegativeAssertion :=
          d.isNegativeAssertion || negates false ((notFoundTerms.drop 3).take 5) } ∧
      (c.isNegativeAssertion ↔
        d.isNegativeAssertion ∨ ∃ t ∈ (notFoundTerms.drop 3).take 5, t.role = .negation) := by
  have hc : readInstruction
      (notFoundTerms.take 3 ++ (notFoundTerms.drop 3).take 5 ++ notFoundTerms.drop 8) =
      .ok { action := .ensure, object := "Banner", elementType := "generic",
            specifier := some "Not Found", isSection := true, isNegativeAssertion := true,
            assertion := some .exist, aspect := some .plain } := by
    decide +kernel
  have hd : readInstruction (notFoundTerms.take 3 ++ notFoundTerms.drop 8) =
      .ok { action := .ensure, object := "Banner", elementType := "generic",
            isNegativeAssertion := true, assertion := some .exist, aspect := some .plain } := by
    decide +kernel
  have hparts : isBlock .on_ ((notFoundTerms.drop 3).take 5) ∧
      Even (quotesOf (notFoundTerms.take 3)) ∧ isCut (notFoundTerms.drop 8) ∧
      notFoundTerms =
        notFoundTerms.take 3 ++ (notFoundTerms.drop 3).take 5 ++ notFoundTerms.drop 8 := by
    decide +kernel
  obtain ⟨hscope, hfront, hback, hsplit⟩ := hparts
  obtain ⟨hsame, hflag⟩ := readInstruction_unscoped
    (fun t ht => ⟨_, List.mem_of_mem_drop (List.mem_of_mem_take ht)⟩) hscope hfront hback hc hd
  exact ⟨_, _, hc, hd, rfl, hsame, hflag _ _ _ hsplit hfront⟩

def bareTitleTerms : List Term :=
  lexicon "Ensure \"Banner\" element on the Not Found section to be visible."

/-- A negation in a title without quotes is taken from the title, and negates the assertion. -/
theorem readInstruction_unscoped_bareTitle :
    bareTitleTerms =
        bareTitleTerms.take 3 ++ (bareTitleTerms.drop 3).take 5 ++ bareTitleTerms.drop 8 ∧
      isBlock .on_ ((bareTitleTerms.drop 3).take 5) ∧ Even (quotesOf (bareTitleTerms.take 3)) ∧
      isCut (bareTitleTerms.drop 8) ∧
      (scopePhrases (connected (segmentsOf bareTitleTerms))).length = 1 ∧
      ∃ c d, readInstruction bareTitleTerms = .ok c ∧
        readInstruction (bareTitleTerms.take 3 ++ bareTitleTerms.drop 8) = .ok d ∧
        c.specifier = some "Found section".toList ∧
        c.isNegativeAssertion ≠ d.isNegativeAssertion := by
  have hc : readInstruction bareTitleTerms =
      .ok { action := .ensure, object := "Banner", elementType := "generic",
            specifier := some "Found section", isNegativeAssertion := true,
            assertion := some .exist, aspect := some .plain } := by
    decide +kernel
  have hd : readInstruction (bareTitleTerms.take 3 ++ bareTitleTerms.drop 8) =
      .ok { action := .ensure, object := "Banner", elementType := "generic",
            assertion := some .exist, aspect := some .plain } := by
    decide +kernel
  have hparts :
      bareTitleTerms =
        bareTitleTerms.take 3 ++ (bareTitleTerms.drop 3).take 5 ++ bareTitleTerms.drop 8 ∧
      isBlock .on_ ((bareTitleTerms.drop 3).take 5) ∧ Even (quotesOf (bareTitleTerms.take 3)) ∧
      isCut (bareTitleTerms.drop 8) ∧
      (scopePhrases (connected (segmentsOf bareTitleTerms))).length = 1 := by
    decide +kernel
  obtain ⟨hsplit, hscope, hfront, hback, hone⟩ := hparts
  exact ⟨hsplit, hscope, hfront, hback, hone, _, _, hc, hd, rfl, Bool.noConfusion⟩

end PlainSteps.Sentence
