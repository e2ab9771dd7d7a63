import PlainSteps.Proofs.Parity

/-!
# Quoted spans and clauses

Cutting a sentence into clauses leaves its quoted spans as they are, and takes away nothing but
white space, full stops and commas outside of them. Both follow from one fact: whatever is
collected from a text while its spans are read, and makes nothing of loose characters outside
spans, is collected from the clauses all the same (`collect_clauses`). The main statement is
`spans_clauses`.
-/

namespace PlainSteps.Sentence

/-! ## Spans -/

/-- White space, full stops and commas. -/
def isLoose (c : Char) : Bool := isBlank c || c == '.' || c == ','

theorem isLoose_of_isBlank {c : Char} (h : isBlank c) : isLoose c := by
  rw [isLoose, h]
  rfl

/-- Where the reading of quoted spans stands. -/
structure Quoting where
  /-- The open span as far as it has been read. -/
  span : Option Text := none
  /-- A backslash shields the next character. -/
  escaped : Bool := false
  deriving DecidableEq

namespace Quoting

def isQuote (q : Quoting) (c : Char) : Bool := !q.escaped && c == '"'

def step (q : Quoting) (c : Char) : Quoting where
  span :=
    match q.span with
    | none => if q.isQuote c then some [c] else none
    | some s => if q.isQuote c then none else some (s ++ [c])
  escaped := !q.escaped && c == '\\'

def run (q : Quoting) (t : Text) : Quoting := t.foldl step q

/-- The span that a character ends. -/
def ended (q : Quoting) (c : Char) : List Text :=
  match q.span with
  | none => []
  | some s => if q.isQuote c then [s ++ [c]] else []

/-- The character itself, unless it is loose and stands outside spans. -/
def kept (q : Quoting) (c : Char) : Text := if q.span.isNone && isLoose c then [] else [c]

/-- All that the characters of a text give, one after the other. -/
def collect {α : Type} (out : Quoting → Char → List α) (q : Quoting) : Text → List α
  | [] => []
  | c :: r => out q c ++ collect out (q.step c) r

end Quoting

open Quoting

/-- The quoted spans of a text, each from an unescaped double quote through the next one. -/
def spans (t : Text) : List Text := collect ended {} t

/-- The text without the loose characters outside its spans. -/
def packed (t : Text) : Text := collect kept {} t

example : spans "a \"b, \\\" c\", \\\"d \"\"." = ["\"b, \\\" c\"".toList, "\"\"".toList] := by
  decide

namespace Quoting

theorem escaped_step (q : Quoting) (c : Char) :
    (q.step c).escaped = (!q.escaped && c == '\\') := rfl

theorem isSome_step (q : Quoting) (c : Char) :
    (q.step c).span.isSome = (q.span.isSome != q.isQuote c) := by
  obtain ⟨span, escaped⟩ := q
  cases span <;> simp only [step] <;> split <;> simp_all

/-- A span is open exactly behind an odd number of quotes. -/
theorem isSome_run (q : Quoting) (t : Text) :
    (q.run t).span.isSome = (q.span.isSome != isOdd (countQuotes q.escaped t)) := by
  induction t generalizing q with
  | nil => cases h : q.span <;> simp [run, countQuotes, isOdd, h]
  | cons c r ih =>
      have hquote : isOdd (if !q.escaped && c == '"' then 1 else 0) = q.isQuote c := by
        rw [isQuote]
        cases !q.escaped && c == '"' <;> rfl
      calc (q.run (c :: r)).span.isSome
          = ((q.step c).run r).span.isSome := rfl
        _ = ((q.step c).span.isSome != isOdd (countQuotes (q.step c).escaped r)) := ih _
        _ = (q.span.isSome != isOdd (countQuotes q.escaped (c :: r))) := by
          rw [isSome_step, countQuotes_cons, isOdd_add, hquote, escaped_step, Bool.bne_assoc]

theorem span_run {t : Text} (h : Even (quoteCount t)) : (run {} t).span = none := by
  have hsome := isSome_run {} t
  rw [show isOdd (countQuotes false t) = false from isOdd_eq_false.mpr h] at hsome
  simpa using hsome

/-- A span stands in its text as it is. -/
theorem infix_of_mem {span : Text} {q : Quoting} {t : Text} (h : span ∈ collect ended q t) :
    span <:+: q.span.getD [] ++ t := by
  induction t generalizing q with
  | nil => cases h
  | cons c r ih =>
      obtain ⟨s, escaped⟩ := q
      rcases List.mem_append.mp h with h | h
      · cases s with
        | none => cases h
        | some s =>
            simp only [ended] at h
            split at h
            · obtain rfl := List.mem_singleton.mp h
              exact ⟨[], r, by simp⟩
            · cases h
      · have ih := ih h
        have hr : ∀ s : Text, r <:+: s ++ c :: r := fun s => ⟨s ++ [c], [], by simp⟩
        cases s with
        | none =>
            by_cases hc : isQuote ⟨none, escaped⟩ c
            · simpa [step, hc] using ih
            · have ih : span <:+: r := by simpa [step, hc] using ih
              exact ih.trans (hr [])
        | some s =>
            by_cases hc : isQuote ⟨some s, escaped⟩ c
            · have ih : span <:+: r := by simpa [step, hc] using ih
              exact ih.trans (hr s)
            · simpa [step, hc] using ih

/-! ## Loose characters -/

theorem ne_of_isLoose {c : Char} (h : isLoose c) : c ≠ '"' ∧ c ≠ '\\' := by
  constructor
  · rintro rfl
    exact absurd h (by decide)
  · rintro rfl
    exact absurd h (by decide)

theorem step_of_isLoose {q : Quoting} {c : Char} (hq : q.span = none) (hc : isLoose c) :
    q.step c = {} := by
  obtain ⟨hquote, hslash⟩ := ne_of_isLoose hc
  simp [step, isQuote, hq, hquote, hslash]

theorem run_loose {t : Text} (h : ∀ c ∈ t, isLoose c) : run {} t = {} := by
  induction t with
  | nil => rfl
  | cons c r ih =>
      obtain ⟨hc, hr⟩ := List.forall_mem_cons.mp h
      rw [run, List.foldl_cons, step_of_isLoose rfl hc]
      exact ih hr

/-- A loose character outside spans gives nothing. -/
def Ignores {α : Type} (out : Quoting → Char → List α) : Prop :=
  ∀ ⦃q : Quoting⦄ ⦃c : Char⦄, q.span = none → isLoose c → out q c = []

theorem ignores_ended : Ignores ended := by
  intro q c hq _
  rw [ended, hq]

theorem ignores_kept : Ignores kept := by
  intro q c hq hc
  simp [kept, hq, hc]

section Collect

variable {α : Type} {out : Quoting → Char → List α}

theorem collect_append (q : Quoting) (s t : Text) :
    collect out q (s ++ t) = collect out q s ++ collect out (q.run s) t := by
  induction s generalizing q with
  | nil => rfl
  | cons c r ih =>
      rw [List.cons_append, collect, collect, ih, List.append_assoc]
      rfl

theorem collect_flatten {ts : List Text} (h : ∀ t ∈ ts, run {} t = {}) :
    collect out {} ts.flatten = ts.flatMap (collect out {}) := by
  induction ts with
  | nil => rfl
  | cons t ts ih =>
      obtain ⟨ht, hts⟩ := List.forall_mem_cons.mp h
      rw [List.flatten_cons, collect_append, ht, ih hts, List.flatMap_cons]

variable (hout : Ignores out)
include hout

theorem collect_loose {q : Quoting} (hq : q.span = none) {t : Text} (h : ∀ c ∈ t, isLoose c) :
    collect out q t = [] := by
  induction t generalizing q with
  | nil => rfl
  | cons c r ih =>
      obtain ⟨hc, hr⟩ := List.forall_mem_cons.mp h
      rw [collect, hout hq hc, step_of_isLoose hq hc, ih rfl hr]
      rfl

/-! ## Clauses -/

theorem collect_trim {t : Text} (h : Even (quoteCount t)) {stop : Text}
    (hstop : ∀ c ∈ stop, isLoose c) : collect out {} (Text.trim t ++ stop) = collect out {} t := by
  obtain ⟨front, back, hfront, hback, ht⟩ := exists_trim t
  have hfront' : ∀ c ∈ front, isLoose c := fun c hc => isLoose_of_isBlank (hfront c hc)
  have hback' : ∀ c ∈ back, isLoose c := fun c hc => isLoose_of_isBlank (hback c hc)
  have htrim : (run {} (Text.trim t)).span = none := by
    apply span_run
    rwa [quoteCount_trim]
  calc collect out {} (Text.trim t ++ stop)
      = collect out {} (Text.trim t) := by
        rw [collect_append, collect_loose hout htrim hstop, List.append_nil]
    _ = collect out {} (Text.trim t ++ back) := by
        rw [collect_append, collect_loose hout htrim hback', List.append_nil]
    _ = collect out {} (front ++ (Text.trim t ++ back)) := by
        rw [collect_append {} front, collect_loose hout rfl hfront', run_loose hfront',
          List.nil_append]
    _ = collect out {} t := by rw [← ht]

theorem collect_closeClause {ps : List Text} (h : ∀ p ∈ ps, Even (quoteCount p)) :
    (ps.filterMap closeClause).flatMap (collect out {}) = ps.flatMap (collect out {}) := by
  induction ps with
  | nil => rfl
  | cons p ps ih =>
      obtain ⟨hp, hps⟩ := List.forall_mem_cons.mp h
      rw [List.flatMap_cons, ← ih hps]
      cases hempty : (Text.trim p).isEmpty with
      | true =>
          have hclose : closeClause p = none := by simp [closeClause, hempty]
          have hnil : collect out {} p = [] := by
            rw [← collect_trim hout hp (List.forall_mem_nil _), List.isEmpty_iff.mp hempty]
            rfl
          rw [List.filterMap_cons_none hclose, hnil, List.nil_append]
      | false =>
          have hclose : closeClause p = some (Text.trim p ++ ['.']) := by
            simp [closeClause, hempty]
          have hstop : ∀ c ∈ ['.'], isLoose c := by decide
          rw [List.filterMap_cons_some hclose, List.flatMap_cons, collect_trim hout hp hstop]

end Collect

/-- The two readings of a text agree on quotes and backslashes. -/
structure Agrees (s : Nesting) (q : Quoting) : Prop where
  inQuote : q.span.isSome = s.inQuote
  escaped : q.escaped = s.escaped

theorem Agrees.step {s : Nesting} {q : Quoting} (h : Agrees s q) (c : Char) :
    Agrees (s.step c) (q.step c) where
  inQuote := by rw [isSome_step, Nesting.inQuote_step, isQuote, h.inQuote, h.escaped]
  escaped := by rw [escaped_step, Nesting.escaped_step, h.escaped]

/-- What does not stay in its piece is loose and stands outside spans. -/
theorem Agrees.loose {s : Nesting} {q : Quoting} (h : Agrees s q) {c : Char}
    {next : Option Char} (hverdict : s.verdict c next ≠ .keep) : q = {} ∧ isLoose c := by
  obtain ⟨hinQuote, hescaped, -, -⟩ := Nesting.plain_of_verdict hverdict
  constructor
  · obtain ⟨span, escaped⟩ := q
    obtain rfl : escaped = false := h.escaped.trans hescaped
    obtain rfl : span = none := by simpa [hinQuote] using h.inQuote
    rfl
  · by_contra hloose
    simp only [isLoose, Bool.or_eq_true, not_or, Bool.not_eq_true] at hloose
    obtain ⟨⟨hblank, hstop⟩, hcomma⟩ := hloose
    have hne (d : Char) (hd : isBlank d) : (c == d) = false := by
      rw [beq_eq_false_iff_ne]
      rintro rfl
      rw [hd] at hblank
      cases hblank
    have hline := hne '\n' (by decide)
    have hreturn := hne '\r' (by decide)
    apply hverdict
    simp [Nesting.verdict, isSeparator, hstop, hcomma, hline, hreturn]

theorem collect_pieces {α : Type} {out : Quoting → Char → List α} (hout : Ignores out)
    {s : Nesting} {q : Quoting} (h : Agrees s q) (t : Text) :
    ∃ p ps, pieces s t = p :: ps ∧
      collect out q t = collect out q p ++ ps.flatMap (collect out {}) := by
  induction t generalizing s q with
  | nil => exact ⟨[], [], rfl, rfl⟩
  | cons c r ih =>
      obtain ⟨p, ps, hpieces, hcollect⟩ := ih (h.step c)
      rw [pieces, collect, hpieces]
      by_cases hverdict : s.verdict c r.head? = .keep
      · rw [hverdict]
        refine ⟨c :: p, ps, rfl, ?_⟩
        rw [hcollect, collect, List.append_assoc]
      · obtain ⟨rfl, hloose⟩ := h.loose hverdict
        rw [step_of_isLoose rfl hloose] at hcollect ⊢
        rw [hout rfl hloose, hcollect, List.nil_append]
        cases hcase : s.verdict c r.head? with
        | keep => exact absurd hcase hverdict
        | cut => exact ⟨[], p :: ps, rfl, rfl⟩
        | drop => exact ⟨p, ps, rfl, rfl⟩

end Quoting

theorem even_of_mem_pieces {sentence : Text} (h : Even (quoteCount sentence)) :
    ∀ p ∈ pieces {} sentence, Even (quoteCount p) := by
  intro p hp
  obtain ⟨hcuts, hsum⟩ := cuts_pieces {} sentence
  rw [partCounts_false] at hcuts hsum
  rw [← Nat.not_odd_iff_even]
  intro hodd
  have hfront : ∀ n ∈ ((pieces {} sentence).map quoteCount).dropLast, Even (id n) :=
    hcuts.even_of_mem_dropLast
  have hall := odd_sum hfront (List.mem_map_of_mem hp) hodd
  rw [List.map_id, hsum] at hall
  exact Nat.not_odd_iff_even.mpr h hall

/-- The clauses give what the sentence gives. -/
theorem collect_clauses {α : Type} {out : Quoting → Char → List α} (hout : Ignores out)
    {sentence : Text} (h : Even (quoteCount sentence)) :
    (clauses sentence).flatMap (collect out {}) = collect out {} sentence := by
  have hstart : Agrees {} {} := ⟨rfl, rfl⟩
  obtain ⟨p, ps, hpieces, hcollect⟩ := collect_pieces hout hstart sentence
  rw [clauses, collect_closeClause hout (even_of_mem_pieces h), hpieces, hcollect]
  rfl

theorem run_of_mem_clauses {sentence clause : Text} (h : Even (quoteCount sentence))
    (hclause : clause ∈ clauses sentence) : run {} clause = {} := by
  obtain ⟨p, hp, hclose⟩ := List.mem_filterMap.mp hclause
  obtain ⟨-, rfl⟩ := closeClause_eq_some hclose
  have hspan : (run {} (Text.trim p)).span = none := by
    apply span_run
    rw [quoteCount_trim]
    exact even_of_mem_pieces h p hp
  rw [run, List.foldl_append]
  exact step_of_isLoose hspan (by decide)

/-- The quoted spans of a sentence are those of its clauses, character for character and in order,
and each stands inside one clause. Apart from them the clauses have the characters of the sentence,
white space, full stops and commas aside. -/
theorem spans_clauses {sentence : Text} (h : Even (quoteCount sentence)) :
    (clauses sentence).flatMap spans = spans sentence ∧
      (∀ span ∈ spans sentence, ∃ clause ∈ clauses sentence, span <:+: clause) ∧
      packed (clauses sentence).flatten = packed sentence := by
  have hspans : (clauses sentence).flatMap spans = spans sentence :=
    collect_clauses ignores_ended h
  refine ⟨hspans, fun span hspan => ?_, ?_⟩
  · rw [← hspans] at hspan
    obtain ⟨clause, hclause, hmem⟩ := List.mem_flatMap.mp hspan
    exact ⟨clause, hclause, infix_of_mem hmem⟩
  · calc packed (clauses sentence).flatten
        = (clauses sentence).flatMap packed :=
          collect_flatten fun clause hclause => run_of_mem_clauses h hclause
      _ = packed sentence := collect_clauses ignores_kept h

/-- Separators in quotes and in braces, escaped quotes in and out of spans, a shielded line end and
two clauses that are blank. -/
def crowded : Text :=
  "Click \"a., \\\"b\\\"\" link on \x7bx, \"y\"\x7d.\r\n , Fill \\\"c \"3.\n5\" at 3.5\\\n, hover"

theorem spans_clauses_crowded :
    Even (quoteCount crowded) ∧ (clauses crowded).length = 3 ∧
      (clauses crowded).flatMap spans =
        ["\"a., \\\"b\\\"\"".toList, "\"y\"".toList, "\"3.\n5\"".toList] ∧
      packed (clauses crowded).flatten = packed crowded := by
  have heven : Even (quoteCount crowded) := by decide +kernel
  obtain ⟨hspans, -, hpacked⟩ := spans_clauses heven
  exact ⟨heven, by decide +kernel, hspans.trans (by decide +kernel), hpacked⟩

end PlainSteps.Sentence
