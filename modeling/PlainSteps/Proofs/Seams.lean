import PlainSteps.Proofs.NormalForm
import PlainSteps.Regex.Builtin
import PlainSteps.Sentence

/-!
# Sentences put together

A text that leaves no quote, brace or backslash open can be continued behind a comma or a line end
as if nothing stood before it. So the clauses of the two parts stand one behind the other, and the
commands as well (`parse_append`); the first fault of the whole is the first fault of the parts.
-/

namespace PlainSteps.Sentence

/-! ## Pieces -/

theorem pieces_ne_nil (s : Nesting) (t : Text) : pieces s t ≠ [] := by
  induction t generalizing s with
  | nil => exact List.cons_ne_nil _ _
  | cons c r ih =>
      rw [pieces]
      cases s.verdict c r.head? with
      | keep => cases pieces (s.step c) r <;> exact List.cons_ne_nil _ _
      | cut => exact List.cons_ne_nil _ _
      | drop => exact ih (s.step c)

theorem consFirst_append {ps : List Text} (h : ps ≠ []) (c : Char) (qs : List Text) :
    consFirst c (ps ++ qs) = consFirst c ps ++ qs := by
  obtain ⟨p, ps, rfl⟩ := List.exists_cons_of_ne_nil h
  rfl

/-- Only in front of letters and digits does it matter what comes next. -/
theorem Nesting.verdict_before {d : Char} (hd : isAlphanumeric d = false) (s : Nesting)
    (c : Char) : s.verdict c (some d) = s.verdict c none := by
  rw [verdict, verdict, Option.any_some, hd]
  rfl

section Seam

variable {sep : Char} (hsep : sep = '\n' ∨ sep = ',')
include hsep

theorem verdict_before_separator (s : Nesting) (c : Char) :
    s.verdict c (some sep) = s.verdict c none := by
  apply Nesting.verdict_before
  rcases hsep with rfl | rfl <;> decide

theorem separates_before (t : Text) : Separates sep t :=
  hsep.elim (fun h => .inr (.inl h)) .inl

/-- The separator cuts where nothing is open, and the scan starts afresh behind it. -/
theorem pieces_append {s : Nesting} {t : Text} (ht : s.run t = {}) (u : Text) :
    pieces s (t ++ sep :: u) = pieces s t ++ pieces {} u := by
  induction t generalizing s with
  | nil =>
      obtain rfl : s = {} := ht
      exact pieces_of_separates (separates_before hsep u)
  | cons c r ih =>
      have ih := ih (s := s.step c) ht
      -- A full stop at the end of the first text is cut off there in either text.
      have hverdict : s.verdict c (r ++ sep :: u).head? = s.verdict c r.head? := by
        cases r with
        | nil => exact verdict_before_separator hsep s c
        | cons d r => rfl
      rw [List.cons_append, pieces, pieces, hverdict, ih]
      cases s.verdict c r.head? with
      | keep => exact consFirst_append (pieces_ne_nil (s.step c) r) c _
      | cut => rfl
      | drop => rfl

theorem clauses_append {s : Text} (hs : Nesting.run {} s = {}) (t : Text) :
    clauses (s ++ sep :: t) = clauses s ++ clauses t := by
  rw [clauses, pieces_append hsep hs, List.filterMap_append]
  rfl

/-! ## Commands -/

omit hsep in
theorem parseWith_of_clauses [Regex.Engine] (tagger : Tagger) {s t u : Text}
    (h : clauses s = clauses t ++ clauses u) :
    parseWith tagger s =
      match parseWith tagger t with
      | .error fault => .error fault
      | .ok commands => (parseWith tagger u).map (commands ++ ·) := by
  have hinstructions :
      instructionsOf tagger s = instructionsOf tagger t ++ instructionsOf tagger u := by
    rw [instructionsOf, h, List.flatMap_append]
    rfl
  rw [parseWith, hinstructions, List.mapM_append]
  change (parseWith tagger t >>= fun first => parseWith tagger u >>= fun second =>
    pure (first ++ second)) = _
  cases parseWith tagger t with
  | error fault => rfl
  | ok first => cases parseWith tagger u <;> rfl

theorem parseWith_append [Regex.Engine] (tagger : Tagger) {s : Text} (hs : Nesting.run {} s = {})
    (t : Text) :
    parseWith tagger (s ++ sep :: t) =
      match parseWith tagger s with
      | .error fault => .error fault
      | .ok commands => (parseWith tagger t).map (commands ++ ·) :=
  parseWith_of_clauses tagger (clauses_append hsep hs t)

/-- Two sentences with a comma or a line end between them have the clauses of the one and then
those of the other. They are refused for the fault of the first, else for that of the second, and
otherwise read as the commands of both. -/
theorem parse_append [Regex.Engine] {s : Text} (hs : Nesting.run {} s = {}) (t : Text) :
    clauses (s ++ sep :: t) = clauses s ++ clauses t ∧
      parse (s ++ sep :: t) =
        match parse s with
        | .error fault => .error fault
        | .ok commands => (parse t).map (commands ++ ·) :=
  ⟨clauses_append hsep hs t, parseWith_append hsep .standard hs t⟩

end Seam

/-- Commas inside quotes and braces, and an escaped quote. -/
def filled : Text :=
  "Fill \"A, \\\"b\\\"\" field with \x7b\x7bglobalEnv.NET, GROSS\x7d\x7d"

open Regex.Builtin

/-- The comma between the sentences is the only one that cuts. -/
theorem parse_append_filled :
    Nesting.run {} filled = {} ∧
      clauses (filled ++ ',' :: " hover \"B\" link") =
        [filled ++ ['.'], "hover \"B\" link.".toList] ∧
      ∃ c d, parse filled = .ok [c] ∧ parse " hover \"B\" link" = .ok [d] ∧
        parse (filled ++ ',' :: " hover \"B\" link") = .ok [c, d] := by
  have hrun : Nesting.run {} filled = {} := by decide +kernel
  have hfirst : parse filled =
      .ok [{ action := .fill, object := "A, \"b\"", elementType := "textbox",
             value := some "\x7b\x7bglobalEnv.NET, GROSS\x7d\x7d" }] := by
    decide +kernel
  have hsecond : parse " hover \"B\" link" =
      .ok [{ action := .hover, object := "B", elementType := "link" }] := by
    decide +kernel
  obtain ⟨hclauses, hparse⟩ := parse_append (.inr rfl) hrun " hover \"B\" link"
  rw [hfirst, hsecond] at hparse
  exact ⟨hrun, hclauses.trans (by decide +kernel), _, _, hfirst, hsecond, hparse⟩

end PlainSteps.Sentence
