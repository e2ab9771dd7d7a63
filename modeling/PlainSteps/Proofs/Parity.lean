import Mathlib.Algebra.Group.Even
import PlainSteps.Proofs.NormalForm
import PlainSteps.Proofs.Outside

/-!
# Quotes are counted alike

Clauses, words, terms, instructions and readings each keep track of quotes in a way of their own.
All of them agree on what stands inside quotes: wherever a text or a list of terms is cut, an even
number of quotes stands before the cut (`Cuts`), and no quote is lost. The main statement is
`quotes_agree`.
-/

namespace PlainSteps.Sentence

/-! ## Cuts outside quotes -/

def isOdd (n : ℕ) : Bool := n % 2 == 1

theorem isOdd_add (m n : ℕ) : isOdd (m + n) = (isOdd m != isOdd n) := by
  rcases Nat.mod_two_eq_zero_or_one m with hm | hm <;>
    rcases Nat.mod_two_eq_zero_or_one n with hn | hn <;>
    simp [isOdd, Nat.add_mod, hm, hn]

theorem isOdd_eq_false {n : ℕ} : isOdd n = false ↔ Even n := by
  rw [Nat.even_iff, isOdd]
  rcases Nat.mod_two_eq_zero_or_one n with hn | hn <;> simp [hn]

theorem isOdd_eq_true {n : ℕ} : isOdd n = true ↔ Odd n := by
  rw [← Nat.not_even_iff_odd, ← isOdd_eq_false, Bool.not_eq_false]

/-- The numbers of quotes of one or more parts, each cut from the next outside quotes; `inQuote`
says that a quoted span is open before the first. -/
inductive Cuts : (inQuote : Bool) → List ℕ → Prop
  | last (inQuote : Bool) (n : ℕ) : Cuts inQuote [n]
  | cons {inQuote : Bool} {n : ℕ} {ns : List ℕ} (hn : isOdd n = inQuote) (h : Cuts false ns) :
      Cuts inQuote (n :: ns)

theorem Cuts.add {q : Bool} {k n : ℕ} {ns : List ℕ} (h : Cuts (q != isOdd k) (n :: ns)) :
    Cuts q ((k + n) :: ns) := by
  cases h with
  | last => exact .last q (k + n)
  | cons hn h =>
      refine .cons ?_ h
      rw [isOdd_add, hn]
      cases q <;> cases isOdd k <;> rfl

theorem Cuts.exists_cons {q : Bool} {ns : List ℕ} (h : Cuts q ns) : ∃ m ms, ns = m :: ms := by
  cases h with
  | last => exact ⟨_, [], rfl⟩
  | cons => exact ⟨_, _, rfl⟩

theorem Cuts.even_of_mem_dropLast {ns : List ℕ} (h : Cuts false ns) :
    ∀ n ∈ ns.dropLast, Even n := by
  generalize hq : false = q at h
  induction h with
  | last => exact nofun
  | cons hn h ih =>
      obtain ⟨m, ms, rfl⟩ := h.exists_cons
      rw [← hq] at hn
      rw [List.dropLast_cons_cons]
      exact List.forall_mem_cons.mpr ⟨isOdd_eq_false.mp hn, ih rfl⟩

theorem sublist_dropLast {α : Type} {xs ys : List α} (h : xs.Sublist ys) :
    xs.dropLast.Sublist ys.dropLast := by
  have htail := h.reverse.tail
  rwa [List.tail_reverse, List.tail_reverse, List.reverse_sublist] at htail

/-- Parts without quotes can be left out. -/
theorem counts_filterMap {α β : Type} {g : α → Option β} {f : α → ℕ} {f' : β → ℕ} {xs : List α}
    (hnone : ∀ x ∈ xs, g x = none → f x = 0) (hsome : ∀ x ∈ xs, ∀ y, g x = some y → f' y = f x) :
    ((xs.filterMap g).map f').Sublist (xs.map f) ∧
      ((xs.filterMap g).map f').sum = (xs.map f).sum := by
  induction xs with
  | nil => exact ⟨.refl _, rfl⟩
  | cons x xs ih =>
      obtain ⟨hx, hnone⟩ := List.forall_mem_cons.mp hnone
      obtain ⟨hx', hsome⟩ := List.forall_mem_cons.mp hsome
      obtain ⟨hsub, hsum⟩ := ih hnone hsome
      rw [List.map_cons, List.sum_cons]
      cases hg : g x with
      | none =>
          rw [List.filterMap_cons_none hg, hx hg, Nat.zero_add]
          exact ⟨hsub.cons _, hsum⟩
      | some y =>
          rw [List.filterMap_cons_some hg, List.map_cons, List.sum_cons, hx' y hg, hsum]
          exact ⟨hsub.cons_cons _, rfl⟩

theorem counts_filter {α : Type} {p : α → Bool} {f : α → ℕ} {xs : List α}
    (h : ∀ x ∈ xs, p x = false → f x = 0) :
    ((xs.filter p).map f).Sublist (xs.map f) ∧ ((xs.filter p).map f).sum = (xs.map f).sum := by
  rw [← List.filterMap_eq_filter]
  refine counts_filterMap (fun x hx hnone => h x hx ?_) fun x _ y hsome => ?_
  · simpa using hnone
  · rw [(Option.guard_eq_some_iff.mp hsome).1]

theorem even_sum {α : Type} {f : α → ℕ} {xs : List α} (h : ∀ x ∈ xs, Even (f x)) :
    Even (xs.map f).sum := by
  rw [even_iff_two_dvd]
  refine List.dvd_sum fun n hn => ?_
  obtain ⟨x, hx, rfl⟩ := List.mem_map.mp hn
  exact (h x hx).two_dvd

/-- A part with an odd number of quotes can only be the last. -/
theorem odd_sum {α : Type} {f : α → ℕ} {xs : List α} (h : ∀ x ∈ xs.dropLast, Even (f x)) {x : α}
    (hx : x ∈ xs) (hodd : Odd (f x)) : Odd (xs.map f).sum := by
  rcases List.eq_nil_or_concat' xs with rfl | ⟨ys, y, rfl⟩
  · exact nomatch hx
  · rw [List.dropLast_concat] at h
    rcases List.mem_append.mp hx with hx | hx
    · exact absurd (h x hx) (Nat.not_even_iff_odd.mpr hodd)
    · obtain rfl := List.mem_singleton.mp hx
      rw [List.map_append, List.sum_append, List.map_singleton, List.sum_singleton]
      exact (even_sum h).add_odd hodd

/-- Where all but the last have an even number, so have all but the last of their parts. -/
theorem even_flatMap {α β : Type} {xs : List α} {g : α → List β} {f : α → ℕ} {f' : β → ℕ}
    (hfront : ∀ x, ∀ y ∈ (g x).dropLast, Even (f' y)) (hsum : ∀ x, ((g x).map f').sum = f x)
    (hxs : ∀ x ∈ xs.dropLast, Even (f x)) : ∀ y ∈ (xs.flatMap g).dropLast, Even (f' y) := by
  induction xs with
  | nil => exact nofun
  | cons x xs ih =>
      intro y hy
      rw [List.flatMap_cons] at hy
      rcases List.eq_nil_or_concat' (xs.flatMap g) with hnil | ⟨ys, z, hrest⟩
      · rw [hnil, List.append_nil] at hy
        exact hfront x y hy
      · have hne : xs ≠ [] := by
          rintro rfl
          simp at hrest
        rw [List.dropLast_cons_of_ne_nil hne] at hxs
        obtain ⟨hx, hxs⟩ := List.forall_mem_cons.mp hxs
        rw [hrest, ← List.append_assoc, List.dropLast_concat] at hy
        rcases List.mem_append.mp hy with hy | hy
        · -- An odd part of `x` would make `x` odd.
          refine Nat.not_odd_iff_even.mp fun hodd => ?_
          have hall := odd_sum (hfront x) hy hodd
          rw [hsum x] at hall
          exact Nat.not_odd_iff_even.mpr hx hall
        · refine ih hxs y ?_
          rw [hrest, List.dropLast_concat]
          exact hy

/-! ## Pieces and words -/

/-- The numbers of quotes in the parts of a text; `escaped` says that a backslash stands directly
before the first. -/
def partCounts (escaped : Bool) : List Text → List ℕ
  | [] => []
  | p :: ps => countQuotes escaped p :: ps.map quoteCount

theorem partCounts_false (ps : List Text) : partCounts false ps = ps.map quoteCount := by
  cases ps <;> rfl

namespace Nesting

theorem escaped_step (s : Nesting) (c : Char) :
    (s.step c).escaped = (!s.escaped && c == '\\') := by
  unfold step
  split_ifs <;> simp_all

theorem inQuote_step (s : Nesting) (c : Char) :
    (s.step c).inQuote = (s.inQuote != (!s.escaped && c == '"')) := by
  unfold step
  split_ifs <;> simp_all

/-- Only a plain character outside quotes leaves its piece. -/
theorem plain_of_verdict {s : Nesting} {c : Char} {next : Option Char}
    (h : s.verdict c next ≠ .keep) :
    s.inQuote = false ∧ s.escaped = false ∧ (c == '"') = false ∧ (c == '\\') = false := by
  have hopen : (s.escaped || s.inQuote) = false := by
    rw [← Bool.not_eq_true]
    exact fun hopen => h (if_pos hopen)
  obtain ⟨hescaped, hinQuote⟩ := Bool.or_eq_false_iff.mp hopen
  refine ⟨hinQuote, hescaped, beq_false_of_ne ?_, beq_false_of_ne ?_⟩
  all_goals
    rintro rfl
    exact h (by simp [verdict, hopen, isSeparator])

end Nesting

theorem cuts_pieces (s : Nesting) (t : Text) :
    Cuts s.inQuote (partCounts s.escaped (pieces s t)) ∧
      (partCounts s.escaped (pieces s t)).sum = countQuotes s.escaped t := by
  induction t generalizing s with
  | nil => exact ⟨.last _ _, rfl⟩
  | cons c r ih =>
      obtain ⟨hcuts, hsum⟩ := ih (s.step c)
      rw [Nesting.escaped_step, Nesting.inQuote_step] at hcuts
      rw [Nesting.escaped_step] at hsum
      rw [pieces, countQuotes_cons]
      cases hverdict : s.verdict c r.head? with
      | keep =>
          obtain ⟨m, ms, hms⟩ := hcuts.exists_cons
          cases hpieces : pieces (s.step c) r with
          | nil =>
              rw [hpieces] at hms
              cases hms
          | cons p ps =>
              have hquote : isOdd (if !s.escaped && c == '"' then 1 else 0) =
                  (!s.escaped && c == '"') := by
                cases !s.escaped && c == '"' <;> rfl
              rw [hpieces, partCounts] at hcuts hsum
              rw [← hquote] at hcuts
              simp only [consFirst, partCounts, countQuotes_cons]
              refine ⟨hcuts.add, ?_⟩
              rw [← hsum, List.sum_cons, List.sum_cons, Nat.add_assoc]
      | cut =>
          obtain ⟨hinQuote, hescaped, hquote, hslash⟩ :=
            Nesting.plain_of_verdict (by rw [hverdict]; decide)
          rw [hquote, hslash, Bool.and_false, hinQuote] at hcuts
          rw [hslash, Bool.and_false, partCounts_false] at hsum
          rw [hquote, hslash, Bool.and_false, hinQuote]
          rw [partCounts_false] at hcuts
          exact ⟨.cons rfl hcuts, by simp [partCounts, countQuotes, hsum]⟩
      | drop =>
          obtain ⟨hinQuote, hescaped, hquote, hslash⟩ :=
            Nesting.plain_of_verdict (by rw [hverdict]; decide)
          rw [hquote, hslash, Bool.and_false, hinQuote] at hcuts
          rw [hslash, Bool.and_false] at hsum
          rw [hquote, hslash, Bool.and_false, hinQuote, hescaped]
          exact ⟨hcuts, by simp [hsum]⟩

theorem ne_of_isBlank {c : Char} (h : isBlank c) : c ≠ '"' ∧ c ≠ '\\' := by
  constructor
  · rintro rfl
    exact absurd h (by decide)
  · rintro rfl
    exact absurd h (by decide)

theorem countQuotes_splitWith (e : Bool) (t : Text) :
    countQuotes e t = (partCounts e (Text.splitWith isBlank t)).sum := by
  induction t generalizing e with
  | nil => rfl
  | cons c r ih =>
      rw [countQuotes_cons, ih, Text.splitWith]
      cases hblank : isBlank c with
      | true =>
          obtain ⟨hquote, hslash⟩ := ne_of_isBlank hblank
          rw [beq_false_of_ne hquote, beq_false_of_ne hslash, Bool.and_false, partCounts_false]
          simp [partCounts, countQuotes]
      | false =>
          cases hsplit : Text.splitWith isBlank r with
          | nil => exact absurd hsplit (Text.splitWith_ne_nil _ r)
          | cons w ws =>
              simp only [Bool.false_eq_true, if_false, partCounts, List.sum_cons]
              rw [countQuotes_cons, Nat.add_assoc]

/-- No quote is lost between words. -/
theorem sum_words (t : Text) : ((Text.words t).map quoteCount).sum = quoteCount t := by
  rw [quoteCount, countQuotes_splitWith, partCounts_false]
  refine (counts_filter fun w _ hempty => ?_).2
  have hnil : w = [] := by simpa using hempty
  rw [hnil]
  rfl

/-! ## Clauses -/

theorem exists_trim (t : Text) : ∃ front back, (∀ c ∈ front, isBlank c) ∧
    (∀ c ∈ back, isBlank c) ∧ t = front ++ (Text.trim t ++ back) := by
  refine ⟨t.takeWhile isBlank, Text.takeEndWhile isBlank (t.dropWhile isBlank),
    fun c hc => List.mem_takeWhile_imp hc,
    fun c hc => List.mem_takeWhile_imp (List.mem_reverse.mp hc), ?_⟩
  rw [Text.trim, Text.trimMatches, dropEndWhile_append_takeEndWhile,
    List.takeWhile_append_dropWhile]

theorem quoteCount_trim (t : Text) : quoteCount (Text.trim t) = quoteCount t := by
  obtain ⟨front, back, hfront, hback, ht⟩ := exists_trim t
  have hfront' : quoteCount front = 0 :=
    countQuotes_of_forall (fun c hc => (ne_of_isBlank (hfront c hc)).1) false
  have hback' : countQuotes (escapedBehind false (Text.trim t)) back = 0 :=
    countQuotes_of_forall (fun c hc => (ne_of_isBlank (hback c hc)).1) _
  have hslash : escapedBehind false front = false :=
    escapedBehind_of_forall fun c hc => (ne_of_isBlank (hfront c hc)).2
  calc quoteCount (Text.trim t)
      = quoteCount front + quoteCount (Text.trim t ++ back) := by
        rw [hfront', Nat.zero_add, quoteCount, quoteCount, countQuotes_append, hback', Nat.add_zero]
    _ = quoteCount (front ++ (Text.trim t ++ back)) := (quoteCount_append hslash _).symm
    _ = quoteCount t := by rw [← ht]

theorem quoteCount_of_closeClause_none {piece : Text} (h : closeClause piece = none) :
    quoteCount piece = 0 := by
  rw [← quoteCount_trim, closeClause_eq_none.mp h]
  rfl

theorem quoteCount_of_closeClause {piece clause : Text} (h : closeClause piece = some clause) :
    quoteCount clause = quoteCount piece := by
  obtain ⟨-, rfl⟩ := closeClause_eq_some h
  have hstop : ∀ c ∈ ['.'], c ≠ '"' := by decide
  rw [quoteCount, countQuotes_append, countQuotes_of_forall hstop, Nat.add_zero]
  exact quoteCount_trim piece

/-- The clauses of a sentence have its quotes, and all but the last an even number of them. -/
theorem quotes_clauses (sentence : Text) :
    (∀ c ∈ (clauses sentence).dropLast, Even (quoteCount c)) ∧
      ((clauses sentence).map quoteCount).sum = quoteCount sentence := by
  obtain ⟨hcuts, hsum⟩ := cuts_pieces {} sentence
  rw [partCounts_false] at hcuts hsum
  obtain ⟨hsub, hkept⟩ := counts_filterMap (f := quoteCount)
    (fun p (_ : p ∈ pieces {} sentence) => quoteCount_of_closeClause_none)
    fun _ _ _ => quoteCount_of_closeClause
  refine ⟨fun c hc => ?_, hkept.trans hsum⟩
  refine hcuts.even_of_mem_dropLast _ ((sublist_dropLast hsub).mem ?_)
  rw [← List.map_dropLast]
  exact List.mem_map_of_mem hc

/-! ## Terms -/

/-- The terms of a clause have its quotes. -/
theorem quotes_lexicon (clause : Text) :
    ((lexicon clause).map Term.quotes).sum = quoteCount clause := by
  rw [lexicon, quotes_tagWords, sum_words]

/-- A term that is taken for anything but a noun has no quotes and stands outside of them. -/
theorem outside_tagWords {first q : Bool} {ws : List Text} {pre post : List Term} {t : Term}
    (h : tagWords first q ws = pre ++ t :: post) (ht : t.role ≠ .noun ∨ t.negative) :
    t.quotes = 0 ∧ isOdd (pre.map Term.quotes).sum = q := by
  induction ws generalizing first q pre with
  | nil => simp [tagWords] at h
  | cons w ws ih =>
      rw [tagWords] at h
      -- The term belongs to a later word or to this one.
      have hsplit : (∃ pre', pre = tagWord first (q || quoteCount w > 0) w ++ pre' ∧
          tagWords false (q != isOdd (quoteCount w)) ws = pre' ++ t :: post) ∨
          ∃ mid, tagWord first (q || quoteCount w > 0) w = pre ++ t :: mid := by
        rcases List.append_eq_append_iff.mp h with h | ⟨mid, hword, hrest⟩
        · exact .inl h
        · cases mid with
          | nil => exact .inl ⟨[], by simpa using hword.symm, hrest.symm⟩
          | cons u mid =>
              rw [(List.cons.inj hrest).1]
              exact .inr ⟨mid, hword⟩
      rcases hsplit with ⟨pre', rfl, hrest⟩ | ⟨mid, hword⟩
      · obtain ⟨hquotes, hodd⟩ := ih hrest
        refine ⟨hquotes, ?_⟩
        rw [List.map_append, List.sum_append, (spells_tagWord _ _ w).quotes, isOdd_add, hodd]
        cases q <;> cases isOdd (quoteCount w) <;> rfl
      · have hmem : t ∈ tagWord first (q || quoteCount w > 0) w := by
          rw [hword]
          simp
        have hsum := (spells_tagWord first (q || quoteCount w > 0) w).quotes
        cases hquoted : q || decide (quoteCount w > 0) with
        | true =>
            rw [hquoted] at hmem
            obtain ⟨_, _, _, _, _, rfl⟩ := exists_of_mem_tagWord hmem
            exact absurd ht (by simp [tagPart])
        | false =>
            obtain ⟨hq, hw⟩ := Bool.or_eq_false_iff.mp hquoted
            have hw : quoteCount w = 0 := by simpa using hw
            rw [hword, hw, List.map_append, List.map_cons, List.sum_append, List.sum_cons] at hsum
            have hpre : (pre.map Term.quotes).sum = 0 := by omega
            rw [hpre, hq]
            exact ⟨by omega, rfl⟩

/-! ## Instructions -/

/-- The number of quotes of a list of terms. -/
def quotesOf (ts : List Term) : ℕ := (ts.map Term.quotes).sum

theorem quotesOf_cons (t : Term) (ts : List Term) : quotesOf (t :: ts) = t.quotes + quotesOf ts :=
  List.sum_cons

theorem quotesOf_append (ts us : List Term) :
    quotesOf (ts ++ us) = quotesOf ts + quotesOf us := by
  rw [quotesOf, List.map_append, List.sum_append]
  rfl

theorem togglesQuote_eq (t : Term) : t.togglesQuote = isOdd t.quotes := rfl

theorem cuts_rawParts {q : Bool} {ts : List Term}
    (h : ∀ t ∈ ts, t.role = .conjunction → t.quotes = 0) :
    Cuts q ((rawParts q ts).map quotesOf) ∧ ((rawParts q ts).map quotesOf).sum = quotesOf ts := by
  induction ts generalizing q with
  | nil => exact ⟨.last q 0, rfl⟩
  | cons t ts ih =>
      obtain ⟨ht, hts⟩ := List.forall_mem_cons.mp h
      obtain ⟨hcuts, hsum⟩ := ih (q := q != t.togglesQuote) hts
      rw [quotesOf_cons, ← hsum]
      obtain ⟨p, ps, hrest, ⟨hends, hparts⟩ | ⟨-, hparts⟩⟩ := rawParts_cases q t ts
      · obtain ⟨rfl, hrole, -⟩ := endsPart_iff.mp hends
        rw [Term.togglesQuote_of_quotes (ht hrole)] at hcuts hrest ⊢
        rw [hparts, ← hrest, List.map_cons, List.sum_cons, ht hrole]
        exact ⟨.cons rfl hcuts, rfl⟩
      · rw [hrest, List.map_cons] at hcuts
        rw [hparts, hrest, List.map_cons, List.map_cons, quotesOf_cons, List.sum_cons,
          List.sum_cons, Nat.add_assoc]
        exact ⟨Cuts.add hcuts, rfl⟩

theorem quotesOf_dropTrailingConjunctions {p : List Term}
    (h : ∀ t ∈ p, t.role = .conjunction → t.quotes = 0) :
    quotesOf (dropTrailingConjunctions p) = quotesOf p := by
  have hsplit := dropTrailingConjunctions_append p
  have hdropped : quotesOf (p.reverse.takeWhile (·.role == .conjunction)).reverse = 0 := by
    refine List.sum_eq_zero_iff_forall_eq_nat.mpr fun n hn => ?_
    obtain ⟨t, ht, rfl⟩ := List.mem_map.mp hn
    have htake := List.mem_reverse.mp ht
    have hmem := List.mem_reverse.mp ((List.takeWhile_sublist _).mem htake)
    have hrole := List.mem_takeWhile_imp (p := fun t : Term => t.role == .conjunction) htake
    exact h t hmem (eq_of_beq hrole)
  conv_rhs => rw [← hsplit, quotesOf_append, hdropped, Nat.add_zero]

/-- The instructions of a clause have its quotes, and all but the last an even number of them. -/
theorem quotes_instructions {ts : List Term}
    (h : ∀ t ∈ ts, t.role = .conjunction → t.quotes = 0) :
    (∀ p ∈ (instructions ts).dropLast, Even (quotesOf p)) ∧
      ((instructions ts).map quotesOf).sum = quotesOf ts := by
  obtain ⟨hcuts, hsum⟩ := cuts_rawParts (q := false) h
  have hparts : ((rawParts false ts).map dropTrailingConjunctions).map quotesOf =
      (rawParts false ts).map quotesOf := by
    rw [List.map_map]
    refine List.map_congr_left fun p hp => ?_
    exact quotesOf_dropTrailingConjunctions fun t ht => h t (mem_of_mem_rawParts p hp t ht)
  obtain ⟨hsub, hkept⟩ := counts_filter (f := quotesOf) (p := fun p => !p.isEmpty)
    fun p (_ : p ∈ (rawParts false ts).map dropTrailingConjunctions) hempty => by
      have hnil : p = [] := by simpa using hempty
      rw [hnil]
      rfl
  rw [hparts] at hsub hkept
  refine ⟨fun p hp => ?_, hkept.trans hsum⟩
  refine hcuts.even_of_mem_dropLast _ ((sublist_dropLast hsub).mem ?_)
  rw [← List.map_dropLast]
  exact List.mem_map_of_mem hp

/-- The instructions of a sentence have its quotes, and all but the last an even number. -/
theorem quotes_instructionsOf (sentence : Text) :
    (∀ p ∈ (instructionsOf .standard sentence).dropLast, Even (quotesOf p)) ∧
      ((instructionsOf .standard sentence).map quotesOf).sum = quoteCount sentence := by
  have hplain (clause : Text) : ∀ t ∈ lexicon clause, t.role = .conjunction → t.quotes = 0 := by
    intro t ht hrole
    obtain ⟨pre, post, hsplit⟩ := List.append_of_mem ht
    exact (outside_tagWords hsplit (.inl (by rw [hrole]; decide))).1
  have hsum (clause : Text) :
      ((instructions (lexicon clause)).map quotesOf).sum = quoteCount clause :=
    (quotes_instructions (hplain clause)).2.trans (quotes_lexicon clause)
  obtain ⟨hclauses, hall⟩ := quotes_clauses sentence
  constructor
  · exact even_flatMap (fun clause => (quotes_instructions (hplain clause)).1) hsum hclauses
  · rw [instructionsOf, List.map_flatMap, List.flatMap_def, List.sum_flatten, List.map_map, ← hall]
    exact congrArg List.sum (List.map_congr_left fun clause _ => hsum clause)

/-! ## Readings -/

namespace Reading

/-- A quoted span is open. -/
def isQuoted (r : Reading) : Bool :=
  match r.place with
  | .quoted _ => true
  | _ => false

theorem isQuoted_endQuote (r : Reading) (s : Segment) : (r.endQuote s).isQuoted = false := by
  rw [endQuote]
  split <;> rfl

theorem isQuoted_takeWord {r : Reading} (h : r.isQuoted = false) (word : Text) (hyphenated : Bool)
    (role : Role) : (r.takeWord word hyphenated role).isQuoted = false := by
  obtain ⟨place, closed, negated⟩ := r
  cases place with
  | quoted s => cases h
  | between => cases role <;> rfl
  | inside s =>
      obtain ⟨kind, words⟩ := s
      cases kind <;> cases role <;> rfl

theorem isQuoted_takeQuoted (r : Reading) (t : Term) :
    (r.takeQuoted t).isQuoted = t.togglesQuote := by
  simp only [takeQuoted]
  cases t.togglesQuote with
  | true => rfl
  | false => exact isQuoted_endQuote _ _

theorem take_outside {r : Reading} (h : r.isQuoted = false) (t : Term) (next : Option Term) :
    r.take t next =
      if t.hasQuote then (r.takeQuoted t, false)
      else if beginsConnected t next then
        match Connector.ofWord? t.lower with
        | some k => (r.start ⟨.connector k, [t.lower]⟩, false)
        | none => ({ r with place := .between, closed := r.segments }, false)
      else if t.role == .negation || t.negative then ({ r with negated := true }, false)
      else match next.bind (joined? t) with
        | some word => (r.takeWord word false .noun, true)
        | none => (r.takeWord t.raw t.hyphenated t.role, false) := by
  obtain ⟨place, closed, negated⟩ := r
  cases place with
  | quoted s => cases h
  | between | inside s => rfl

/-- A term that is joined to the one before it has no quotes. -/
theorem quotes_of_joined {t u : Term} {word : Text} (h : joined? t u = some word) :
    u.quotes = 0 := by
  rw [joined?] at h
  split at h
  · cases h
  next hnone =>
    simp only [Bool.or_eq_true, not_or] at hnone
    simpa [Term.hasQuote, Term.quotes] using hnone.1.2

/-- A term opens or closes a span exactly if it has an odd number of quotes, and a term that is
taken together with the one before it has none. -/
theorem isQuoted_take (r : Reading) (t : Term) (next : Option Term) :
    (r.take t next).1.isQuoted = (r.isQuoted != isOdd t.quotes) ∧
      ((r.take t next).2 = true → ∀ u ∈ next, u.quotes = 0) := by
  cases hquoted : r.isQuoted with
  | true =>
      obtain ⟨place, closed, negated⟩ := r
      cases place with
      | between | inside => cases hquoted
      | quoted s =>
          refine ⟨?_, Bool.noConfusion⟩
          simp only [take, ← togglesQuote_eq]
          cases t.togglesQuote with
          | true => exact isQuoted_endQuote _ _
          | false => rfl
  | false =>
      rw [take_outside hquoted]
      cases hquote : t.hasQuote with
      | true =>
          refine ⟨(isQuoted_takeQuoted r t).trans ?_, Bool.noConfusion⟩
          rw [togglesQuote_eq, Bool.false_bne]
      | false =>
          have hzero : t.quotes = 0 := by simpa [Term.hasQuote, Term.quotes] using hquote
          rw [hzero]
          simp only [Bool.false_eq_true, if_false]
          split
          · cases Connector.ofWord? t.lower <;> exact ⟨rfl, Bool.noConfusion⟩
          · split
            · exact ⟨hquoted, Bool.noConfusion⟩
            · cases hjoined : next.bind (joined? t) with
              | none => exact ⟨isQuoted_takeWord hquoted _ _ _, Bool.noConfusion⟩
              | some word =>
                  refine ⟨isQuoted_takeWord hquoted _ _ _, fun _ u hu => ?_⟩
                  obtain rfl : next = some u := hu
                  exact quotes_of_joined hjoined

/-- A reading stands inside a quoted span exactly behind an odd number of quotes. -/
theorem isQuoted_read (r : Reading) (ts : List Term) :
    (r.read ts).isQuoted = (r.isQuoted != isOdd (quotesOf ts)) := by
  fun_induction r.read ts with
  | case1 r => cases r.isQuoted <;> rfl
  | case2 r t => exact (isQuoted_take r t none).1
  | case3 r t u rest r' h ih =>
      obtain ⟨hopen, hnext⟩ := isQuoted_take r t (some u)
      rw [h] at hopen hnext
      rw [ih, hopen, quotesOf_cons, quotesOf_cons, hnext rfl u rfl, Nat.zero_add, isOdd_add,
        Bool.bne_assoc]
  | case4 r t u rest r' h ih =>
      obtain ⟨hopen, -⟩ := isQuoted_take r t (some u)
      rw [h] at hopen
      rw [ih, hopen, quotesOf_cons t, isOdd_add, Bool.bne_assoc]

end Reading

/-! ## Unterminated quotes -/

/-- The computation does not fail for an open quote. -/
def Spares {α : Type} (x : Except Cause α) : Prop := x ≠ .error .unterminatedQuote

theorem Spares.bind {α β : Type} {x : Except Cause α} {f : α → Except Cause β} (hx : Spares x)
    (hf : ∀ a, Spares (f a)) : Spares (x >>= f) := by
  cases x with
  | error cause => exact fun h => hx (congrArg Except.error (Except.error.inj h))
  | ok a => exact hf a

theorem Spares.foldlM {α β : Type} {f : β → α → Except Cause β} (hf : ∀ b a, Spares (f b a))
    (xs : List α) (b : β) : Spares (xs.foldlM f b) := by
  induction xs generalizing b with
  | nil => rintro ⟨⟩
  | cons x xs ih =>
      rw [List.foldlM_cons]
      exact (hf b x).bind ih

theorem spares_checkRegex [Regex.Engine] (pattern : Text) : Spares (checkRegex pattern) := by
  rw [checkRegex]
  cases Regex.compile pattern <;> rintro ⟨⟩

theorem spares_slashPattern? [Regex.Engine] (t : Text) : Spares (slashPattern? t) := by
  unfold slashPattern?
  split
  · split
    · rintro ⟨⟩
    · split
      · rintro ⟨⟩
      · refine (spares_checkRegex _).bind fun _ => ?_
        rintro ⟨⟩
  · rintro ⟨⟩

theorem spares_addExpected [Regex.Engine] (c : Command) (a : Assertion) (operand : Text) :
    Spares (addExpected c a operand) := by
  simp only [addExpected]
  split
  · rintro ⟨⟩
  · split
    · refine (spares_slashPattern? _).bind fun literal => ?_
      split
      · rintro ⟨⟩
      · split
        · rintro ⟨⟩
        · refine (spares_checkRegex _).bind fun _ => ?_
          rintro ⟨⟩
    · refine Spares.bind (by rintro ⟨⟩) fun literal => ?_
      split
      · rintro ⟨⟩
      · split <;> rintro ⟨⟩

theorem spares_addAssertion [Regex.Engine] (c : Command) (rest : List Text) :
    Spares (addAssertion c rest) := by
  have hhead : Spares (assertionHead c rest) := by
    unfold assertionHead
    split
    · rintro ⟨⟩
    · dsimp only
      split
      · rintro ⟨⟩
      · split <;> rintro ⟨⟩
  rw [addAssertion]
  refine hhead.bind fun head => ?_
  obtain ⟨a, tail⟩ := head
  dsimp only
  split
  · rintro ⟨⟩
  · exact spares_addExpected _ a _

theorem spares_addScope (c : Command) (rest : List Text) : Spares (addScope c rest) := by
  rw [addScope]
  dsimp only
  generalize Text.trim (Text.unwords (skipArticles rest)) = text
  split
  · cases unquote? text <;> rintro ⟨⟩
  · cases stripPunctuation text <;> rintro ⟨⟩

theorem spares_addValue (c : Command) (rest : List Text) : Spares (addValue c rest) := by
  rw [addValue]
  cases unquote? (Text.unwords rest) with
  | some value => rintro ⟨⟩
  | none =>
      dsimp only
      generalize stripPunctuation _ = value
      cases value <;> rintro ⟨⟩

theorem spares_addPosition (c : Command) (rest : List Text) : Spares (addPosition c rest) := by
  rw [addPosition]
  cases (unquote? (Text.unwords rest)).or (rest.getLast?.map stripPunctuation) with
  | none => rintro ⟨⟩
  | some value => cases value <;> rintro ⟨⟩

theorem spares_addStoreName (c : Command) (rest : List Text) : Spares (addStoreName c rest) := by
  rw [addStoreName]
  generalize (unquote? (Text.unwords rest)).or _ = name
  cases name with
  | none => rintro ⟨⟩
  | some name =>
      dsimp only
      split <;> rintro ⟨⟩

theorem spares_addConnected [Regex.Engine] (c : Command) (k : Connector) (rest : List Text) :
    Spares (addConnected c k rest) := by
  cases k with
  | on_ => exact spares_addScope c rest
  | with_ => exact spares_addValue c rest
  | to_ | into_ =>
      simp only [addConnected]
      split
      · exact spares_addPosition c rest
      · exact spares_addStoreName c rest
      · exact spares_addAssertion c rest
      · rintro ⟨⟩

theorem spares_target (segments : List (List Text)) : Spares (target segments) := by
  unfold target
  split
  · dsimp only
    split
    · split
      · rintro ⟨⟩
      · split <;> rintro ⟨⟩
    · rintro ⟨⟩
  · rintro ⟨⟩
  · rintro ⟨⟩

theorem fault?_ne_unterminatedQuote (c : Command) : c.fault? ≠ some .unterminatedQuote := by
  have hoperands : c.operandFault? ≠ some .unterminatedQuote := by
    unfold Command.operandFault?
    repeat' split
    all_goals rintro ⟨⟩
  unfold Command.fault?
  split
  · rintro ⟨⟩
  · split
    · rintro ⟨⟩
    · split
      next cause hcause => rwa [← hcause]
      · split <;> rintro ⟨⟩

theorem spares_checked (c : Command) : Spares (checked c) := by
  rw [checked]
  split
  · rintro ⟨⟩
  · split
    next cause hcause =>
      intro h
      rw [Except.error.inj h] at hcause
      exact fault?_ne_unterminatedQuote c hcause
    · rintro ⟨⟩

theorem spares_command [Regex.Engine] (r : Reading) : Spares r.command := by
  rw [Reading.command_eq]
  refine (spares_target _).bind fun c => Spares.bind ?_ spares_checked
  exact Spares.foldlM (fun c (s : Connector × List Text) => spares_addConnected c s.1 s.2) _ _

/-- A quoted span is open at the end of an instruction exactly if the instruction fails for it. -/
theorem readInstruction_quotes [Regex.Engine] (ts : List Term) :
    (∀ c, readInstruction ts = .ok c → Even (quotesOf ts)) ∧
      ∀ clause, readInstruction ts = .error ⟨.unterminatedQuote, clause⟩ → Odd (quotesOf ts) := by
  have hread : (({} : Reading).read ts).isQuoted = isOdd (quotesOf ts) :=
    (Reading.isQuoted_read {} ts).trans (Bool.false_bne _)
  rw [← isOdd_eq_false, ← isOdd_eq_true, ← hread, readInstruction, commandOf, Reading.isQuoted]
  have hspares := spares_command (({} : Reading).read ts)
  generalize (({} : Reading).read ts).command = result at *
  cases (({} : Reading).read ts).place with
  | quoted s =>
      refine ⟨fun c h => ?_, fun _ _ => rfl⟩
      simp only [Except.mapError] at h
      cases h
  | between | inside s =>
      refine ⟨fun _ _ => rfl, fun clause h => ?_⟩
      cases result with
      | ok c => cases h
      | error cause =>
          obtain rfl : cause = .unterminatedQuote := congrArg Fault.cause (Except.error.inj h)
          exact absurd rfl hspares

/-- All that look at quotes agree. The clauses of a sentence have its quotes, and all but the last
an even number of them. The terms of a clause have its quotes, and a term that is taken for
anything but a noun has none and stands behind an even number. A sentence that is read has an even
number of quotes, and one that is refused for an open quote an odd number. -/
theorem quotes_agree [Regex.Engine] (sentence : Text) :
    (∀ c ∈ (clauses sentence).dropLast, Even (quoteCount c)) ∧
      ((clauses sentence).map quoteCount).sum = quoteCount sentence ∧
      (∀ clause, ((lexicon clause).map Term.quotes).sum = quoteCount clause ∧
        ∀ (pre post : List Term) (t : Term), lexicon clause = pre ++ t :: post →
          t.role ≠ .noun ∨ t.negative → t.quotes = 0 ∧ Even (pre.map Term.quotes).sum) ∧
      (∀ commands, parse sentence = .ok commands → Even (quoteCount sentence)) ∧
      ∀ clause, parse sentence = .error ⟨.unterminatedQuote, clause⟩ →
        Odd (quoteCount sentence) := by
  obtain ⟨hclauses, hsum⟩ := quotes_clauses sentence
  obtain ⟨hfront, hall⟩ := quotes_instructionsOf sentence
  refine ⟨hclauses, hsum, fun clause => ⟨quotes_lexicon clause, fun pre post t hsplit ht => ?_⟩,
    fun commands hparse => ?_, fun clause hparse => ?_⟩
  · obtain ⟨hquotes, hodd⟩ := outside_tagWords hsplit ht
    exact ⟨hquotes, isOdd_eq_false.mp hodd⟩
  · rw [← hall]
    refine even_sum fun ts hts => ?_
    obtain ⟨c, hread⟩ := exists_of_mapM hparse ts hts
    exact (readInstruction_quotes ts).1 c hread
  · obtain ⟨ts, hts, hfail⟩ := exists_of_mapM_error hparse
    rw [← hall]
    exact odd_sum hfront hts ((readInstruction_quotes ts).2 clause hfail)

end PlainSteps.Sentence
