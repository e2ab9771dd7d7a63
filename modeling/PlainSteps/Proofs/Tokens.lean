import PlainSteps.Proofs.Globals
import PlainSteps.Proofs.Letters
import PlainSteps.Proofs.Literal
import PlainSteps.Proofs.Seams
import PlainSteps.Regex.Builtin

/-!
# Tokens in sentences

A sentence takes a value in four places (`Slot`). A token that stands there, bare or in quotes, is
the value, whatever clause follows, and the settings say what it stands for
(`parse_clause_token`).
-/

namespace PlainSteps

namespace Sentence

/-! ## Operands -/

/-- Where a value is due the piece is read as `v`. -/
structure Piece.Gives [Regex.Engine] (x : Piece) (v : Text) : Prop where
  value : ∀ {p : Text}, IsStop p → ∀ c,
    addValue c ("value".toList :: x.out p) = .ok (c.withValue v)
  position : ∀ {p : Text}, IsStop p → ∀ c,
    addPosition c ("value".toList :: x.out p) = .ok (c.withValue v)
  expected : ∀ {p : Text}, IsStop p → ∀ c {a}, a ≠ .fits → x.out p ≠ [] ∧
    addExpected c a (Text.trim (Text.unwords (x.out p))) = .ok (c.withValue v)

theorem Piece.gives_quote [Regex.Engine] {v : Text} (hv : Quotable v) (hne : v ≠ []) :
    (quote v hv).Gives v where
  value hp c := addValue_quoted hv hp c
  position hp c := addPosition_quoted hv hne hp c
  expected {p} hp c a ha := by
    obtain ⟨hout, hjoin⟩ := quote_operand hv hp
    rw [hjoin]
    exact ⟨hout, addExpected_quoted hv hp c ha⟩

/-- A word without quotes and with no punctuation at its ends. It is no name in braces. -/
structure IsBare (w : Text) : Prop extends IsKeyword w where
  unquoted : ∀ c ∈ w, c ≠ '"'
  innerHead : ∀ c ∈ w.head?, isInner c
  innerLast : ∀ c ∈ w.getLast?, isInner c
  reference : variableReference? w = none

section Bare

variable {w p : Text} (hw : IsBare w) (hp : IsStop p)
include hw hp

theorem IsBare.stripPunctuation : stripPunctuation (w ++ p) = w :=
  stripPunctuation_append hp hw.word.1 hw.innerHead hw.innerLast

theorem IsBare.unquoted_append : ∀ c ∈ w ++ p, c ≠ '"' := by
  have hstop : ∀ c ∈ p, c ≠ '"' := by rcases hp with rfl | rfl <;> decide
  exact List.forall_mem_append.mpr ⟨hw.unquoted, hstop⟩

theorem IsBare.unquote?_value : unquote? (Text.unwords ["value".toList, w ++ p]) = none := by
  refine unquote?_unwords_eq_none (List.forall_mem_cons.mpr ⟨by decide, ?_⟩)
  exact List.forall_mem_singleton.mpr (hw.unquoted_append hp)

theorem addValue_bare (c : Command) :
    addValue c ["value".toList, w ++ p] = .ok (c.withValue w) := by
  have harticle : articles.contains (Text.toLower "value") = false := by decide
  have hdescriptor : descriptors.contains (Text.toLower "value") = true := by decide
  have hskip : skipArticles ["value".toList, w ++ p] = ["value".toList, w ++ p] := by
    rw [skipArticles, List.dropWhile_cons_of_neg (by simpa using harticle)]
  have hempty : w.isEmpty = false := List.isEmpty_eq_false_iff.mpr hw.word.1
  simp only [addValue, hw.unquote?_value hp, hskip, hdescriptor, if_true, Text.unwords_singleton,
    hw.stripPunctuation hp, hempty, Bool.false_eq_true, if_false]

theorem addPosition_bare (c : Command) :
    addPosition c ["value".toList, w ++ p] = .ok (c.withValue w) := by
  have hempty : w.isEmpty = false := List.isEmpty_eq_false_iff.mpr hw.word.1
  simp only [addPosition, hw.unquote?_value hp, List.getLast?_cons_cons, List.getLast?_singleton,
    Option.map_some, Option.none_or, hw.stripPunctuation hp, hempty, Bool.false_eq_true, if_false]

theorem addExpected_bare [Regex.Engine] (c : Command) {a : Assertion} (ha : a ≠ .fits) :
    addExpected c a (w ++ p) = .ok (c.withValue w) := by
  have hempty : (w ++ p).isEmpty = false := by simp [hw.word.1]
  have hstop : stripFullStop (w ++ p) = w :=
    stripFullStop_append hp hw.word.1 hw.innerHead hw.innerLast
  have hstrip := hw.stripPunctuation (.inl rfl)
  rw [List.append_nil] at hstrip
  simp only [addExpected, hempty, unquote?_eq_none (hw.unquoted_append hp), hstop, if_neg ha,
    hw.reference, Option.getD_none, hstrip]
  rfl

end Bare

theorem Piece.gives_bare [Regex.Engine] {w : Text} (hw : IsBare w) :
    (word w hw.toIsKeyword).Gives w where
  value hp c := addValue_bare hw hp c
  position hp c := addPosition_bare hw hp c
  expected {p} hp c a ha := by
    have htrim : Text.trim (w ++ p) = w ++ p := trim_append hp hw.word.1 hw.innerHead hw.innerLast
    change [w ++ p] ≠ [] ∧ addExpected c a (Text.trim (w ++ p)) = _
    rw [htrim]
    exact ⟨List.cons_ne_nil _ _, addExpected_bare hw hp c ha⟩

/-! ## Tokens -/

theorem isName_of_isKey {key : Text} (h : IsKey key) : IsName (globalHead ++ key) := by
  refine ⟨by simp [h.1], List.forall_mem_append.mpr ⟨by decide, fun c hc => ?_⟩⟩
  rcases h.2 c hc with halnum | rfl | rfl
  · have hne : ∀ d, isAlphanumeric d = false → c ≠ d := by
      rintro d hd rfl
      rw [hd] at halnum
      exact nomatch halnum
    have hblank : isBlank c = false := by
      cases hc : isBlank c with
      | false => rfl
      | true => exact absurd rfl (hne c (isAlphanumeric_of_isBlank hc))
    exact ⟨hblank, hne _ (by decide), hne _ (by decide), hne _ (by decide), hne _ (by decide)⟩
  · decide
  · decide

theorem token_eq (key : Text) : token key = braced (braced (globalHead ++ key)) := by
  simp [token, braced]

section Token

variable {key : Text} (hkey : IsKey key)
include hkey

theorem dense_token : ∀ c ∈ token key, isBlank c = false ∧ c ≠ '"' ∧ c ≠ '\\' := by
  have hname := (isName_of_isKey hkey).2
  refine List.forall_mem_append.mpr
    ⟨List.forall_mem_append.mpr ⟨by decide, fun c hc => ?_⟩, by decide⟩
  obtain ⟨hblank, hquote, hslash, -⟩ := hname c hc
  exact ⟨hblank, hquote, hslash⟩

theorem isKeyword_token : IsKeyword (token key) := by
  have hname := isName_of_isKey hkey
  rw [token_eq]
  refine isKeyword_inBraces (fun c hc => ?_) (seamless_nested (hname.seamless 1))
  have hmem : c ∈ token key := by
    rw [token_eq]
    exact List.mem_append_left ['}'] (List.mem_cons_of_mem '{' hc)
  obtain ⟨hblank, hquote, -⟩ := dense_token hkey c hmem
  exact ⟨hblank, hquote⟩

theorem isBare_token : IsBare (token key) where
  toIsKeyword := isKeyword_token hkey
  unquoted c hc := (dense_token hkey c hc).2.1
  innerHead := token_eq key ▸ isInner_head_braced _
  innerLast := token_eq key ▸ isInner_last_braced _
  reference := by
    have hlist : token key = '{' :: (braced (globalHead ++ key) ++ ['}']) := token_eq key
    rw [hlist, variableReference?, Text.dropTail?_append]
    simp [braced]

theorem quotable_token : Quotable (token key) := by
  have hdense := dense_token hkey
  refine ⟨Text.singleSpaced_of_dense fun c hc => (hdense c hc).1,
    fun before run after hsplit hrun _ _ => ?_⟩
  obtain rfl : run = [] := List.eq_nil_iff_forall_not_mem.mpr fun c hc => by
    have hmem : c ∈ token key := by rw [hsplit]; simp [hc]
    exact (hdense c hmem).2.2 (hrun c hc)
  exact Even.zero

end Token

/-- A token is given bare as well as in quotes. -/
theorem exists_gives_token [Regex.Engine] {key : Text} (hkey : IsKey key) {operand : Text}
    (h : operand = token key ∨ operand = '"' :: token key ++ ['"']) :
    ∃ x : Piece, x.text = operand ∧ x.Gives (token key) := by
  have hbare := isBare_token hkey
  obtain rfl | rfl := h
  · exact ⟨.word _ hbare.toIsKeyword, rfl, Piece.gives_bare hbare⟩
  · exact ⟨.quote _ (quotable_token hkey), quoted_of_forall hbare.unquoted,
      Piece.gives_quote _ hbare.word.1⟩

/-! ## Clauses with a value -/

theorem value_mem_keywords : "value".toList ∈ keywords := by decide

/-- The places for a value in a sentence. -/
inductive Slot where
  | fill
  | slide
  | have_
  | contain

namespace Slot

def action : Slot → Action
  | fill => .fill
  | slide => .slide
  | have_ | contain => .ensure

/-- How the clause names its element type. -/
def word : Slot → Text
  | fill => "input"
  | slide => "slider"
  | have_ | contain => "element"

def elementType : Slot → Text
  | fill => "textbox"
  | slide => "slider"
  | have_ | contain => "generic"

def assertion? : Slot → Option Assertion
  | fill | slide => none
  | have_ => some .exact
  | contain => some .contain

/-- The words in front of the operand. -/
def lead : Slot → Text
  | fill => "with value"
  | slide => "to value"
  | have_ => "to have value"
  | contain => "to contain text"

/-- The clause with an operand in the slot. -/
def clause (object operand : Text) (slot : Slot) : Text :=
  slot.action.headword ++ ' ' :: quoted object ++ ' ' :: slot.word ++ ' ' :: slot.lead ++
    ' ' :: operand

example : clause "X" (token "A.b") .fill =
    "Fill \"X\" input with value \x7b\x7bglobalEnv.A.b\x7d\x7d" := by decide

/-- The command with a value in the slot, and with no variable. -/
def command (object value : Text) (slot : Slot) : Command :=
  { action := slot.action, object, elementType := slot.elementType, assertion := slot.assertion?,
    aspect := slot.assertion?.map fun _ => .plain, value := some value }

/-- The phrase of the operand. -/
def phrase (x : Piece) : Slot → Phrase
  | fill => .ofPiece .with_ false ((keywordPiece "value" value_mem_keywords).append x)
  | slide => .ofPiece .to_ false ((keywordPiece "value" value_mem_keywords).append x)
  | have_ => .ofPiece .to_ false (comparisonPiece .exact .plain x)
  | contain => .ofPiece .to_ false (comparisonPiece .contain .plain x)

theorem names_word (slot : Slot) : Names slot.word slot.elementType := by
  cases slot with
  | fill => exact ⟨by decide, by decide, by decide, by decide⟩
  | slide => exact names_of_standardRole (by decide +kernel)
  | have_ | contain => exact names_element

theorem phraseText_phrase (slot : Slot) (x : Piece) :
    phraseText [slot.phrase x] = ' ' :: slot.lead ++ ' ' :: x.text := by
  cases slot <;> exact phraseText_ofPiece _ _ _

theorem clause_eq (slot : Slot) (object : Text) (x : Piece) : slot.clause object x.text =
    slot.action.headword ++ ' ' :: quoted object ++ ' ' :: slot.word ++
      phraseText [slot.phrase x] := by
  rw [phraseText_phrase, clause, ← List.append_assoc]

theorem ends_phrase (slot : Slot) (x : Piece) : (slot.phrase x).Ends := by
  cases slot <;> exact Phrase.ends_ofPiece _ _ _

theorem applies_phrase [Regex.Engine] (slot : Slot) (object : Text) {x : Piece} {v : Text}
    (hx : x.Gives v) :
    Applies { action := slot.action, object, elementType := slot.elementType } [slot.phrase x]
      (slot.command object v) := by
  cases slot with
  | fill => exact applies_ofPiece false fun p hp => hx.value hp _
  | slide => exact applies_ofPiece false fun p hp => hx.position hp _
  | have_ =>
      exact applies_comparison false (by decide) .plain rfl fun p hp => hx.expected hp _ (by decide)
  | contain =>
      exact applies_comparison false (by decide) .plain rfl fun p hp => hx.expected hp _ (by decide)

section Reading

variable (slot : Slot) {object : Text} (hobject : Quotable object)
include hobject

theorem isClause_clause (x : Piece) : IsClause (slot.clause object x.text) := by
  rw [clause_eq]
  exact isClause_sentenceOf slot.action hobject slot.names_word (seamless_phraseText _)
    (getLast?_phraseText _)

theorem parse_clause [Regex.Engine] (hnamed : Text.blank object = false) {x : Piece} {v : Text}
    (hx : x.Gives v) :
    parse (slot.clause object x.text ++ ['.']) = .ok [slot.command object v] := by
  have hends : ∀ q ∈ [slot.phrase x].getLast?, q.Ends := by
    rintro q ⟨⟩
    exact slot.ends_phrase x
  have hneg : [slot.phrase x].any (·.negates) = false := by cases slot <;> rfl
  have hassertion : (decide ((slot.command object v).action = .ensure) &&
      (slot.command object v).assertion.isNone) = false := by cases slot <;> rfl
  have hfault : (slot.command object v).fault? = none := by
    cases slot <;> simp [command, action, assertion?, Command.fault?, Command.operandFault?, hnamed]
  rw [clause_eq]
  refine parse_of_applies hobject slot.names_word hends ?_ hassertion hfault
  rw [hneg]
  exact slot.applies_phrase object hx

/-- Further clauses give further commands. -/
theorem parse_clause_append [Regex.Engine] (hnamed : Text.blank object = false) {x : Piece}
    {v : Text} (hx : x.Gives v) {c : Char} {more : Text} (hc : Separates c more) :
    parse (slot.clause object x.text ++ c :: more) =
      (parse more).map (slot.command object v :: ·) := by
  have hclause := slot.isClause_clause hobject x
  have hclauses : clauses (slot.clause object x.text ++ c :: more) =
      clauses (slot.clause object x.text ++ ['.']) ++ clauses more := by
    rw [hclause.clauses_append hc, hclause.clauses_stop]
    rfl
  have hone : parseWith .standard (slot.clause object x.text ++ ['.']) =
      .ok [slot.command object v] := slot.parse_clause hobject hnamed hx
  rw [parse, parseWith_of_clauses .standard hclauses, hone]
  rfl

end Reading

end Slot

end Sentence

open Sentence

/-- A token in a slot, bare or in quotes, is read as the value and as no variable, alone or in
front of further clauses. It stands for what the settings give its key, and for nothing if they
give it no value. -/
theorem parse_clause_token [Regex.Engine] {s : Settings} (hs : s.InOrder) {key : Text}
    (hkey : IsKey key) (slot : Slot) {object : Text} (hobject : Quotable object)
    (hnamed : Text.blank object = false) {operand : Text}
    (hoperand : operand = token key ∨ operand = '"' :: token key ++ ['"']) :
    parse (slot.clause object operand ++ ['.']) = .ok [slot.command object (token key)] ∧
      (∀ c more, Separates c more → parse (slot.clause object operand ++ c :: more) =
        (parse more).map (slot.command object (token key) :: ·)) ∧
      (∀ v, (key, some v) ∈ s.globals → s.values.substitute (token key) = .ok v) ∧
      ((∀ v, (key, some v) ∉ s.globals) → s.values.substitute (token key) =
        .error (.unknownVariable (globalHead ++ key))) := by
  obtain ⟨x, rfl, hx⟩ := exists_gives_token hkey hoperand
  exact ⟨slot.parse_clause hobject hnamed hx,
    fun c more hc => slot.parse_clause_append hobject hnamed hx hc,
    fun v hv => Settings.substitute_token_of_mem hs hkey hv,
    Settings.substitute_token_of_not_mem hs hkey⟩

open Regex.Builtin

/-- A key with a full stop, in quotes and in front of another clause, and a key without a value. -/
theorem parse_clause_token_contain :
    let s : Settings := { globals := [("BASE", none), ("NET.v_1", some "a, b.")] }
    let operand : Text := '"' :: token "NET.v_1" ++ ['"']
    s.InOrder ∧ IsKey "NET.v_1" ∧ IsKey "BASE" ∧ Quotable "X" ∧
      parse (Slot.contain.clause "X" operand ++ ',' :: " hover \"B\" link") =
        .ok [Slot.contain.command "X" (token "NET.v_1"),
          { action := .hover, object := "B", elementType := "link" }] ∧
      s.values.substitute (token "NET.v_1") = .ok "a, b." ∧
      parse (Slot.slide.clause "X" (token "BASE") ++ ['.']) =
        .ok [Slot.slide.command "X" (token "BASE")] ∧
      s.values.substitute (token "BASE") = .error (.unknownVariable "globalEnv.BASE") := by
  intro s operand
  have hs : s.InOrder := by decide
  have hkey : IsKey "NET.v_1" := by decide
  have hbase : IsKey "BASE" := by decide
  have hobject : Quotable "X" := by decide
  have hnull : ∀ v, ("BASE".toList, some v) ∉ s.globals := by
    rintro v hv
    rcases List.mem_cons.mp hv with h | h
    · cases h
    · have hname : "BASE".toList = "NET.v_1".toList :=
        congrArg Prod.fst (List.mem_singleton.mp h)
      exact absurd hname (by decide)
  have hnext : parse " hover \"B\" link" =
      .ok [{ action := .hover, object := "B", elementType := "link" }] := by decide +kernel
  obtain ⟨-, hmore, hvalue, -⟩ :=
    parse_clause_token hs hkey .contain hobject (by decide) (.inr rfl)
  obtain ⟨halone, -, -, hunknown⟩ :=
    parse_clause_token hs hbase .slide hobject (by decide) (.inl rfl)
  have hparse := hmore ',' " hover \"B\" link" (.inl rfl)
  rw [hnext] at hparse
  exact ⟨hs, hkey, hbase, hobject, hparse, hvalue _ (by decide), halone, hunknown hnull⟩

end PlainSteps
