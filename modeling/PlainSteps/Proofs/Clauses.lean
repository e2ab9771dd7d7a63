import PlainSteps.Proofs.Quotation
import PlainSteps.Sentence.Clause

/-!
# Sentences of one clause

A text is seamless if no cut falls into it and no character is dropped from it. Seamless texts can
be put together, quoted texts are seamless, and a seamless text that ends outside quotes and
braces is one clause when a separator follows (`IsClause.clauses_append`).
-/

namespace PlainSteps.Sentence

/-- From `s` on, a text stays in one piece, whatever comes behind it, and leads to `s'`. -/
def Seamless (s : Nesting) (t : Text) (s' : Nesting) : Prop :=
  ∀ u, pieces s (t ++ u) = t.foldr consFirst (pieces s' u)

theorem foldr_consFirst (t p : Text) (ps : List Text) :
    t.foldr consFirst (p :: ps) = (t ++ p) :: ps := by
  induction t with
  | nil => rfl
  | cons c r ih => rw [List.foldr_cons, ih, consFirst, List.cons_append]

theorem Seamless.nil (s : Nesting) : Seamless s [] s := fun _ => rfl

theorem Seamless.append {s s' s'' : Nesting} {t u : Text} (ht : Seamless s t s')
    (hu : Seamless s' u s'') : Seamless s (t ++ u) s'' := by
  intro v
  rw [List.append_assoc, ht, hu, List.foldr_append]

theorem Seamless.cons {s s' : Nesting} {c : Char} {t : Text}
    (hc : ∀ next, s.verdict c next = .keep) (ht : Seamless (s.step c) t s') :
    Seamless s (c :: t) s' := by
  intro u
  rw [List.cons_append, pieces, hc, List.foldr_cons, ht]

/-- Characters that neither cut nor open anything. -/
def isOrdinary (c : Char) : Bool :=
  !(['\\', '"', '{', '}', '.', ',', '\n', '\r'].contains c)

theorem seamless_ordinary {t : Text} (h : t.all isOrdinary) (d : ℕ) :
    Seamless { depth := d } t { depth := d } := by
  induction t with
  | nil => exact .nil _
  | cons c r ih =>
      rw [List.all_cons, Bool.and_eq_true] at h
      have hc : c ≠ '\\' ∧ c ≠ '"' ∧ c ≠ '{' ∧ c ≠ '}' ∧ c ≠ '.' ∧ c ≠ ',' ∧ c ≠ '\n' ∧
          c ≠ '\r' := by
        simpa [isOrdinary] using h.1
      obtain ⟨h₁, h₂, h₃, h₄, h₅, h₆, h₇, h₈⟩ := hc
      refine .cons (fun next => ?_) ?_
      · simp [Nesting.verdict, isSeparator, h₅, h₆, h₇, h₈]
      · simpa [Nesting.step, h₁, h₂, h₃, h₄] using ih h.2

/-- Inside quotes nothing cuts. -/
theorem seamless_inQuote {e : Bool} {t : Text} (h : countQuotes e t = 0) (d : ℕ) :
    Seamless { inQuote := true, escaped := e, depth := d } t
      { inQuote := true, escaped := escapedBehind e t, depth := d } := by
  induction t generalizing e with
  | nil => exact .nil _
  | cons c r ih =>
      obtain ⟨hc, hr⟩ := countQuotes_cons_eq_zero h
      refine .cons (fun next => by simp [Nesting.verdict]) ?_
      have hstep : ({ inQuote := true, escaped := e, depth := d } : Nesting).step c =
          { inQuote := true, escaped := !e && c == '\\', depth := d } := by
        cases e with
        | true => simp [Nesting.step]
        | false =>
            have hq : c ≠ '"' := by simpa using hc
            by_cases hb : c = '\\'
            · simp [Nesting.step, hb]
            · have hb' : (c == '\\') = false := by simpa using hb
              simp [Nesting.step, hb', hq]
      rw [hstep]
      exact ih hr

theorem seamless_quoted {t : Text} (ht : EvenBackslashes t) (d : ℕ) :
    Seamless { depth := d } (quoted t) { depth := d } := by
  obtain ⟨hcount, hend⟩ := escapeQuotes_of_evenRuns ((evenBackslashes_iff t).mp ht)
  have hbody := seamless_inQuote hcount d
  rw [hend] at hbody
  rw [quoted, List.cons_append]
  refine .cons (fun next => by simp [Nesting.verdict, isSeparator]) (hbody.append ?_)
  refine .cons (fun next => by simp [Nesting.verdict]) ?_
  exact .nil _

/-- Inside braces a name is kept, whatever punctuation it has. -/
theorem seamless_inBraces {name : Text}
    (h : ∀ c ∈ name, c ≠ '\\' ∧ c ≠ '"' ∧ c ≠ '{' ∧ c ≠ '}' ∧ c ≠ '\r') (d : ℕ) :
    Seamless { depth := d + 1 } name { depth := d + 1 } := by
  induction name with
  | nil => exact .nil _
  | cons c r ih =>
      obtain ⟨h₁, h₂, h₃, h₄, h₅⟩ := h c List.mem_cons_self
      refine .cons (fun next => by simp [Nesting.verdict, h₅]) ?_
      simpa [Nesting.step, h₁, h₂, h₃, h₄] using ih fun d hd => h d (List.mem_cons_of_mem c hd)

theorem seamless_nested {t : Text} {d : ℕ}
    (h : Seamless { depth := d + 1 } t { depth := d + 1 }) :
    Seamless { depth := d } ('{' :: t ++ ['}']) { depth := d } := by
  rw [List.cons_append]
  refine .cons (fun next => by simp [Nesting.verdict, isSeparator]) (h.append ?_)
  refine .cons (fun next => by simp [Nesting.verdict, isSeparator]) ?_
  exact .nil _

theorem seamless_braced {name : Text}
    (h : ∀ c ∈ name, c ≠ '\\' ∧ c ≠ '"' ∧ c ≠ '{' ∧ c ≠ '}' ∧ c ≠ '\r') :
    Seamless {} ('{' :: name ++ ['}']) {} :=
  seamless_nested (seamless_inBraces h 0)

/-! ## Clauses -/

/-- A seamless text with no white space at its ends. -/
structure IsClause (t : Text) : Prop where
  seamless : Seamless {} t {}
  nonempty : t ≠ []
  head : ∀ c ∈ t.head?, isBlank c = false
  last : ∀ c ∈ t.getLast?, isBlank c = false

/-- In front of the text the character ends a clause. -/
def Separates (c : Char) (t : Text) : Prop :=
  c = ',' ∨ c = '\n' ∨ c = '.' ∧ ∀ d ∈ t.head?, isAlphanumeric d = false

theorem pieces_of_separates {c : Char} {t : Text} (h : Separates c t) :
    pieces {} (c :: t) = [] :: pieces {} t := by
  obtain rfl | rfl | ⟨rfl, hhead⟩ := h
  · rfl
  · rfl
  · have hcut : ({} : Nesting).verdict '.' t.head? = .cut := by
      cases hnext : t.head? with
      | none => rfl
      | some d => simp [Nesting.verdict, isSeparator, hhead d hnext]
    rw [pieces, hcut]
    rfl

theorem closeClause_eq_none {piece : Text} :
    closeClause piece = none ↔ Text.trim piece = [] := by
  simp [closeClause]

theorem closeClause_eq_some {piece clause : Text} (h : closeClause piece = some clause) :
    Text.trim piece ≠ [] ∧ clause = Text.trim piece ++ ['.'] := by
  simp only [closeClause] at h
  split at h
  · cases h
  next hne => exact ⟨by simpa using hne, (Option.some.inj h).symm⟩

namespace IsClause

variable {t : Text} (h : IsClause t)
include h

/-- What stands behind the separator does not change the clause, nor the clause what stands
there. -/
theorem clauses_append {c : Char} {u : Text} (hc : Separates c u) :
    clauses (t ++ c :: u) = (t ++ ['.']) :: clauses u := by
  have hclose : closeClause t = some (t ++ ['.']) := by
    rw [closeClause, Text.trim_eq_self h.head h.last]
    simp [h.nonempty]
  rw [clauses, h.seamless, pieces_of_separates hc, foldr_consFirst, List.append_nil,
    List.filterMap_cons_some hclose]
  rfl

theorem clauses_stop : clauses (t ++ ['.']) = [t ++ ['.']] :=
  h.clauses_append (.inr (.inr ⟨rfl, by simp⟩))

end IsClause

end PlainSteps.Sentence
