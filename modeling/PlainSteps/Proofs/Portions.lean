import PlainSteps.Proofs.Blocks
import PlainSteps.Regex.Builtin

/-!
# What a reading takes

A reading takes its terms in portions: one term, or two neighbours that stand for one word
(`Takes`). Whatever the terms are, the portions make them up, so that none is passed over or taken
twice (`exists_takes`), and a quoted span is open behind the last portion exactly if the number of
quotes is odd. So an open quote is reported for an odd number of quotes alone, and then in place of
any other fault. The main statement is `readInstruction_portions`.
-/

namespace PlainSteps.Sentence

/-! ## Portions -/

/-- What one step of a reading takes. -/
inductive Portion where
  | single (t : Term)
  | pair (t u : Term)

def Portion.terms : Portion → List Term
  | single t => [t]
  | pair t u => [t, u]

/-- The portions, taken in order, lead from a reading to another. A step looks ahead to the first
term of the next portion. -/
inductive Takes : Reading → List Portion → Reading → Prop
  | nil (r : Reading) : Takes r [] r
  | single {r r' r'' : Reading} {t : Term} {ps : List Portion}
      (h : r.take t (ps.flatMap Portion.terms).head? = (r', false)) (hps : Takes r' ps r'') :
      Takes r (.single t :: ps) r''
  | pair {r r'' : Reading} {t u : Term} {word : Text} {ps : List Portion}
      (hword : joined? t u = some word)
      (h : r.take t (some u) = (r.takeWord word false .noun, true))
      (hps : Takes (r.takeWord word false .noun) ps r'') : Takes r (.pair t u :: ps) r''

namespace Reading

/-- The next term is taken along only for the word that the two stand for. -/
theorem joined_of_take {r r' : Reading} {t u : Term} (h : r.take t (some u) = (r', true)) :
    ∃ word, joined? t u = some word ∧ r' = r.takeWord word false .noun := by
  cases hquoted : r.isQuoted with
  | true =>
      obtain ⟨place, closed, negated⟩ := r
      cases place with
      | between | inside => cases hquoted
      | quoted s => cases h
  | false =>
      rw [take_outside hquoted] at h
      split at h
      · cases h
      · split at h
        · split at h <;> cases h
        · split at h
          · cases h
          · split at h
            next word hword => exact ⟨word, hword, (Prod.ext_iff.mp h).1.symm⟩
            next => cases h

/-- A reading takes every term once, alone or together with the one before it. -/
theorem exists_takes (r : Reading) (ts : List Term) :
    ∃ ps, Takes r ps (r.read ts) ∧ ps.flatMap Portion.terms = ts := by
  fun_induction r.read ts with
  | case1 r => exact ⟨[], .nil r, rfl⟩
  | case2 r t =>
      have htake : r.take t none = ((r.take t none).1, false) := by rw [← take_none r t]
      exact ⟨[.single t], .single htake (.nil _), rfl⟩
  | case3 r t u rest r' h ih =>
      obtain ⟨ps, hps, hterms⟩ := ih
      obtain ⟨word, hword, rfl⟩ := joined_of_take h
      exact ⟨.pair t u :: ps, .pair hword h hps, by rw [List.flatMap_cons, hterms]; rfl⟩
  | case4 r t u rest r' h ih =>
      obtain ⟨ps, hps, hterms⟩ := ih
      refine ⟨.single t :: ps, .single ?_ hps, by rw [List.flatMap_cons, hterms]; rfl⟩
      rw [hterms]
      exact h

end Reading

/-! ## Open quotes -/

/-- An open quote is reported for an odd number of quotes, and for nothing else. -/
theorem readInstruction_eq_unterminatedQuote_iff [Regex.Engine] {ts : List Term} {clause : Text} :
    readInstruction ts = .error ⟨.unterminatedQuote, clause⟩ ↔
      Odd (quotesOf ts) ∧ clause = clauseOf ts := by
  constructor
  · intro h
    refine ⟨(readInstruction_quotes ts).2 clause h, ?_⟩
    rw [readInstruction] at h
    cases hcommand : commandOf ts with
    | ok c =>
        rw [hcommand] at h
        cases h
    | error cause =>
        rw [hcommand] at h
        exact (congrArg Fault.clause (Except.error.inj h)).symm
  · rintro ⟨hodd, rfl⟩
    have hquoted : (({} : Reading).read ts).isQuoted = true := by
      rw [Reading.isQuoted_read, isOdd_eq_true.mpr hodd]
      rfl
    rw [readInstruction, commandOf]
    cases hplace : (({} : Reading).read ts).place with
    | quoted s => rfl
    | between | inside s =>
        rw [Reading.isQuoted, hplace] at hquoted
        cases hquoted

-- There is neither an action `jump` nor an element type.
open Regex.Builtin

example : readInstruction (lexicon "Jump \"over") =
    .error ⟨.unterminatedQuote, "Jump \"over".toList⟩ := by
  decide

/-- Behind an even number of quotes nothing but the gathered segments decides. -/
theorem readInstruction_of_even [Regex.Engine] {ts : List Term} (h : Even (quotesOf ts)) :
    readInstruction ts =
      (({} : Reading).read ts).command.mapError fun cause => ⟨cause, clauseOf ts⟩ := by
  have hidle := isIdle_of_even h
  rw [readInstruction, commandOf]
  cases hplace : (({} : Reading).read ts).place with
  | quoted s => exact absurd hplace (hidle s)
  | between | inside s => rfl

/-- Terms of any tagger are taken in portions that make them up exactly. An open quote is reported
exactly if the number of quotes is odd, whatever else is wrong; if it is even, the reading behind
the last portion decides. -/
theorem readInstruction_portions [Regex.Engine] (ts : List Term) :
    ∃ ps r, Takes {} ps r ∧ ps.flatMap Portion.terms = ts ∧
      (∀ clause, readInstruction ts = .error ⟨.unterminatedQuote, clause⟩ ↔
        Odd (quotesOf ts) ∧ clause = clauseOf ts) ∧
      (Even (quotesOf ts) →
        readInstruction ts = r.command.mapError fun cause => ⟨cause, clauseOf ts⟩) := by
  obtain ⟨ps, hps, hterms⟩ := Reading.exists_takes {} ts
  exact ⟨ps, _, hps, hterms, fun _ => readInstruction_eq_unterminatedQuote_iff,
    readInstruction_of_even⟩

end PlainSteps.Sentence
