import Mathlib.Data.List.Nodup
import PlainSteps.Proofs.Accounts
import PlainSteps.Proofs.Failures
import PlainSteps.Regex.Builtin

/-!
# Suites that are fit to run

`Suite.Violates` says what is wrong with a suite and where, one fault apart from another. Places are
lists of numbers, and their order is that of the file. The check of a suite finds the fault that
stands first (`first_fault?`), and none just if the suite is fit to run (`Suite.IsFit`). In a run of
such a suite every pattern of a wait can be read; the main statement is `fault?_first`.
-/

namespace PlainSteps

open Run

namespace Suite

/-! ## Faults and their places -/

/-- What is wrong with a step: its sentence or the pattern of its address comes first, the pattern
of its title behind. -/
inductive Step.Violates [Regex.Engine] (case : Text) (index : Nat) : Step → List Nat → Fault → Prop
  | sentence {step : Step} {text : Text} : step.sentence? = some text → Text.blank text →
      Violates case index step [0] (.emptyStep case index)
  | url {url : Text} {title : Option Text} {f : Failure} : Pattern.parse url = .error f →
      Violates case index (.navigation url title) [0] (.invalidPattern case index f.message)
  | title {url title : Text} {f : Failure} : Pattern.parse title = .error f →
      Violates case index (.navigation url (some title)) [1]
        (.invalidPattern case index f.message)

/-- What is wrong with a case behind cases with some names: first its own name, and its steps
last. -/
inductive Case.Violates [Regex.Engine] (earlier : List Text) (index : Nat) (c : Case) :
    List Nat → Fault → Prop
  | unnamed : Text.blank c.name → Violates earlier index c [0] (.unnamedCase index)
  | repeated : c.name ∈ earlier → Violates earlier index c [1] (.repeatedName c.name)
  | noSteps : c.steps = [] → Violates earlier index c [2] (.noSteps c.name)
  | step {j : Nat} {step : Step} {place : List Nat} {f : Fault} : c.steps[j]? = some step →
      step.Violates c.name j place f → Violates earlier index c (3 :: j :: place) f

/-- What is wrong with a suite, whatever else is wrong with it. -/
inductive Violates [Regex.Engine] (s : Suite) : List Nat → Fault → Prop
  | noTests : s.cases = [] → Violates s [] .noTests
  | case {i : Nat} {c : Case} {place : List Nat} {f : Fault} : s.cases[i]? = some c →
      c.Violates ((s.cases.take i).map (·.name)) i place f → Violates s (i :: place) f

/-- There are cases, each with a name of its own that is not blank and with steps; no sentence is
blank, and all patterns can be read. -/
structure IsFit [Regex.Engine] (s : Suite) : Prop where
  cases : s.cases ≠ []
  named : ∀ c ∈ s.cases, ¬ Text.blank c.name
  distinct : (s.cases.map (·.name)).Nodup
  steps : ∀ c ∈ s.cases, c.steps ≠ []
  sentences : ∀ c ∈ s.cases, ∀ step ∈ c.steps, ∀ text, step.sentence? = some text →
    ¬ Text.blank text
  patterns : ∀ c ∈ s.cases, ∀ url title, .navigation url title ∈ c.steps →
    (∃ p, Pattern.parse url = .ok p) ∧ ∀ t, title = some t → ∃ p, Pattern.parse t = .ok p

/-! ## The fault that stands first -/

/-- A place stands before another one, or is the same. -/
def Precedes : List Nat → List Nat → Prop
  | [], _ => True
  | _ :: _, [] => False
  | i :: place, j :: place' => i < j ∨ i = j ∧ Precedes place place'

theorem Precedes.refl (place : List Nat) : Precedes place place := by
  induction place with
  | nil => exact trivial
  | cons i place ih => exact .inr ⟨rfl, ih⟩

theorem Precedes.antisymm {place place' : List Nat} (h : Precedes place place')
    (h' : Precedes place' place) : place = place' := by
  induction place generalizing place' with
  | nil =>
      cases place' with
      | nil => rfl
      | cons j place' => exact h'.elim
  | cons i place ih =>
      cases place' with
      | nil => exact h.elim
      | cons j place' =>
          rcases h with hlt | ⟨rfl, h⟩
          · rcases h' with hlt' | ⟨rfl, -⟩ <;> omega
          · rcases h' with hlt' | ⟨-, h'⟩
            · omega
            · rw [ih h h']

/-- The answer of a check that looks for the first of some faults. -/
inductive First (V : List Nat → Fault → Prop) : Option Fault → Prop
  | fault {place : List Nat} {f : Fault} : V place f →
      (∀ place' f', V place' f' → Precedes place place') → First V (some f)
  | clear : (∀ place f, ¬ V place f) → First V none

/-- The faults of the items of a list, the first of which has the number `k`. -/
def Rows {α : Type} (V : Nat → α → List Nat → Fault → Prop) (k : Nat) (items : List α)
    (place : List Nat) (f : Fault) : Prop :=
  ∃ i x rest, place = (k + i) :: rest ∧ items[i]? = some x ∧ V (k + i) x rest f

theorem rows_zero {α : Type} {V : Nat → α → List Nat → Fault → Prop} {items : List α}
    {place : List Nat} {f : Fault} : Rows V 0 items place f ↔
      ∃ i x rest, place = i :: rest ∧ items[i]? = some x ∧ V i x rest f := by
  simp only [Rows, Nat.zero_add]

namespace First

variable {V W : List Nat → Fault → Prop} {found found' : Option Fault}

theorem congr (h : First V found) (hVW : ∀ place f, V place f ↔ W place f) : First W found := by
  obtain rfl : V = W := funext fun place => funext fun f => propext (hVW place f)
  exact h

theorem eq_none_iff (h : First V found) : found = none ↔ ∀ place f, ¬ V place f := by
  cases h with
  | fault hV _ => exact iff_of_false nofun fun hnone => hnone _ _ hV
  | clear hnone => exact iff_of_true rfl hnone

/-- At one place there is one fault, so that the first place says what the answer is. -/
theorem eq_some_iff (h : First V found) (hV : ∀ place f g, V place f → V place g → f = g)
    {f : Fault} :
    found = some f ↔ ∃ place, V place f ∧ ∀ place' f', V place' f' → Precedes place place' := by
  cases h with
  | clear hnone =>
      refine iff_of_false nofun ?_
      rintro ⟨place, hplace, -⟩
      exact hnone place f hplace
  | @fault place g hplace hfirst =>
      constructor
      · rintro ⟨⟩
        exact ⟨place, hplace, hfirst⟩
      · rintro ⟨place', hplace', hfirst'⟩
        obtain rfl : place = place' := (hfirst _ _ hplace').antisymm (hfirst' _ _ hplace)
        exact congrArg _ (hV _ _ _ hplace hplace')

/-- A check that goes on where nothing has been found finds what stands first, if all that it goes
on to stands behind. -/
theorem or (h : First V found) (h' : First W found')
    (hVW : ∀ place f place' f', V place f → W place' f' → Precedes place place') :
    First (fun place f => V place f ∨ W place f) (found.or found') := by
  cases h with
  | fault hplace hfirst =>
      refine .fault (.inl hplace) ?_
      rintro place' f' (hV | hW)
      · exact hfirst place' f' hV
      · exact hVW _ _ _ _ hplace hW
  | clear hnone =>
      refine h'.congr fun place f => (or_iff_right (hnone place f)).symm

theorem test {p : Prop} [Decidable p] (place₀ : List Nat) (g : Fault) :
    First (fun place f => p ∧ place = place₀ ∧ f = g) (if p then some g else none) := by
  by_cases hp : p
  · rw [if_pos hp]
    refine .fault ⟨hp, rfl, rfl⟩ ?_
    rintro _ f ⟨-, rfl, -⟩
    exact .refl _
  · rw [if_neg hp]
    exact .clear fun place f h => hp h.1

theorem under (h : First V found) (k : Nat) :
    First (fun place f => ∃ rest, place = k :: rest ∧ V rest f) found := by
  cases h with
  | fault hplace hfirst =>
      refine .fault ⟨_, rfl, hplace⟩ ?_
      rintro _ f' ⟨rest, rfl, hV⟩
      exact .inr ⟨rfl, hfirst rest f' hV⟩
  | clear hnone =>
      refine .clear ?_
      rintro _ f ⟨rest, rfl, hV⟩
      exact hnone rest f hV

theorem rows_nil {α : Type} {V : Nat → α → List Nat → Fault → Prop} {k : Nat} :
    First (Rows V k []) none := by
  refine .clear ?_
  rintro _ f ⟨i, x, rest, rfl, hx, -⟩
  cases hx

theorem rows_cons {α : Type} {V : Nat → α → List Nat → Fault → Prop} {k : Nat} {x : α}
    {items : List α} (h : First (V k x) found) (h' : First (Rows V (k + 1) items) found') :
    First (Rows V k (x :: items)) (found.or found') := by
  refine ((h.under k).or h' ?_).congr fun place f => ?_
  · rintro _ f _ f' ⟨rest, rfl, -⟩ ⟨i, y, rest', rfl, -⟩
    exact .inl (by omega)
  · constructor
    · rintro (⟨rest, rfl, hV⟩ | ⟨i, y, rest, rfl, hy, hV⟩)
      · exact ⟨0, x, rest, rfl, rfl, hV⟩
      · rw [Nat.add_right_comm, Nat.add_assoc] at hV ⊢
        exact ⟨i + 1, y, rest, rfl, hy, hV⟩
    · rintro ⟨i, y, rest, rfl, hy, hV⟩
      cases i with
      | zero =>
          obtain rfl : x = y := Option.some.inj hy
          exact .inl ⟨rest, rfl, hV⟩
      | succ i =>
          rw [← Nat.add_assoc, Nat.add_right_comm] at hV ⊢
          exact .inr ⟨i, y, rest, rfl, hy, hV⟩

end First

/-! ## The checks -/

variable [Regex.Engine]

theorem Step.first_fault? (case : Text) (index : Nat) (step : Step) :
    First (step.Violates case index) (step.fault? case index) := by
  cases step with
  | sentence text | command text =>
      by_cases hblank : Text.blank text
      · simp only [Step.fault?, if_pos hblank]
        refine .fault (.sentence rfl hblank) ?_
        rintro place' f' ⟨-, -⟩
        exact .refl [0]
      · simp only [Step.fault?, if_neg hblank]
        refine .clear ?_
        rintro place f ⟨⟨⟩, hblank'⟩
        exact hblank hblank'
  | navigation url title =>
      unfold Step.fault?
      cases hurl : Pattern.parse url with
      | error f =>
          simp only [List.findSome?_cons, hurl]
          refine .fault (.url hurl) ?_
          rintro place' f' (⟨-, -⟩ | - | -)
          · exact .refl [0]
          · exact .refl [0]
          · exact .inl (by decide)
      | ok p =>
          cases title with
          | none =>
              simp only [Option.toList_none, List.findSome?_cons, List.findSome?_nil, hurl]
              refine .clear ?_
              rintro place f (⟨⟨⟩, -⟩ | hurl' | -)
              exact nomatch hurl.symm.trans hurl'
          | some title =>
              cases htitle : Pattern.parse title with
              | error f =>
                  simp only [Option.toList_some, List.findSome?_cons, hurl, htitle]
                  refine .fault (.title htitle) ?_
                  rintro place f (⟨⟨⟩, -⟩ | hurl' | -)
                  · exact nomatch hurl.symm.trans hurl'
                  · exact .refl [1]
              | ok q =>
                  simp only [Option.toList_some, List.findSome?_cons, List.findSome?_nil, hurl,
                    htitle]
                  refine .clear ?_
                  rintro place f (⟨⟨⟩, -⟩ | hurl' | htitle')
                  · exact nomatch hurl.symm.trans hurl'
                  · exact nomatch htitle.symm.trans htitle'

theorem first_stepsFault? (case : Text) (index : Nat) (steps : List Step) :
    First (Rows (fun j step => step.Violates case j) index steps)
      (stepsFault? case index steps) := by
  induction steps generalizing index with
  | nil => exact .rows_nil
  | cons step steps ih => exact .rows_cons (step.first_fault? case index) (ih (index + 1))

theorem Case.first_fault? {earlier names : List Text} (hnames : ∀ t, t ∈ earlier ↔ t ∈ names)
    (index : Nat) (c : Case) : First (c.Violates names index) (caseFault? earlier index c) := by
  have hstages : caseFault? earlier index c =
      (if Text.blank c.name then some (.unnamedCase index) else none).or
        ((if c.name ∈ names then some (.repeatedName c.name) else none).or
          ((if c.steps = [] then some (.noSteps c.name) else none).or
            (stepsFault? c.name 0 c.steps))) := by
    simp only [caseFault?, List.contains_iff_mem, hnames, List.isEmpty_iff]
    split_ifs <;> rfl
  have hsteps := (first_stepsFault? c.name 0 c.steps).under 3
  rw [hstages]
  refine ((First.test [0] _).or ((First.test [1] _).or ((First.test [2] _).or hsteps ?_) ?_)
    ?_).congr fun place f => ?_
  · rintro _ f _ f' ⟨-, rfl, -⟩ ⟨rest, rfl, -⟩
    exact .inl (by decide)
  · rintro _ f _ f' ⟨-, rfl, -⟩ (⟨-, rfl, -⟩ | ⟨rest, rfl, -⟩)
    · exact .inl (by decide)
    · exact .inl (by decide)
  · rintro _ f _ f' ⟨-, rfl, -⟩ (⟨-, rfl, -⟩ | ⟨-, rfl, -⟩ | ⟨rest, rfl, -⟩)
    · exact .inl (by decide)
    · exact .inl (by decide)
    · exact .inl (by decide)
  · constructor
    · rintro (⟨h, rfl, rfl⟩ | ⟨h, rfl, rfl⟩ | ⟨h, rfl, rfl⟩ | ⟨_, rfl, hrows⟩)
      · exact .unnamed h
      · exact .repeated h
      · exact .noSteps h
      · obtain ⟨j, step, rest, rfl, hj, h⟩ := rows_zero.mp hrows
        exact .step hj h
    · rintro (h | h | h | ⟨hj, h⟩)
      · exact .inl ⟨h, rfl, rfl⟩
      · exact .inr (.inl ⟨h, rfl, rfl⟩)
      · exact .inr (.inr (.inl ⟨h, rfl, rfl⟩))
      · exact .inr (.inr (.inr ⟨_, rfl, rows_zero.mpr ⟨_, _, _, rfl, hj, h⟩⟩))

theorem first_casesFault? {s : Suite} {front rest : List Case} (hcases : s.cases = front ++ rest)
    {earlier : List Text} (hearlier : ∀ t, t ∈ earlier ↔ t ∈ front.map (·.name)) :
    First (Rows (fun i c => c.Violates ((s.cases.take i).map (·.name)) i) front.length rest)
      (casesFault? earlier front.length rest) := by
  induction rest generalizing front earlier with
  | nil => exact .rows_nil
  | cons c rest ih =>
      have htake : s.cases.take front.length = front := by rw [hcases, List.take_left]
      refine .rows_cons ?_ ?_
      · rw [htake]
        exact c.first_fault? hearlier front.length
      · have hrest : s.cases = (front ++ [c]) ++ rest := by rw [hcases, List.append_assoc]; rfl
        have hnames : ∀ t, t ∈ c.name :: earlier ↔ t ∈ (front ++ [c]).map (·.name) := by
          intro t
          rw [List.mem_cons, hearlier, List.map_append, List.mem_append, List.map_singleton,
            List.mem_singleton, or_comm]
        have hfirst := ih hrest hnames
        rwa [List.length_append, List.length_singleton] at hfirst

theorem first_fault? (s : Suite) : First s.Violates s.fault? := by
  have hstages : s.fault? =
      (if s.cases = [] then some .noTests else none).or (casesFault? [] 0 s.cases) := by
    simp only [fault?, List.isEmpty_iff]
    split_ifs <;> rfl
  have hcases := @first_casesFault? _ s [] s.cases rfl [] fun _ => Iff.rfl
  rw [hstages]
  refine ((First.test [] _).or hcases ?_).congr fun place f => ?_
  · rintro _ f place' f' ⟨-, rfl, -⟩ -
    exact trivial
  · constructor
    · rintro (⟨h, rfl, rfl⟩ | hrows)
      · exact .noTests h
      · obtain ⟨i, c, rest, rfl, hi, h⟩ := rows_zero.mp hrows
        exact .case hi h
    · rintro (h | ⟨hi, h⟩)
      · exact .inl ⟨h, rfl, rfl⟩
      · exact .inr (rows_zero.mpr ⟨_, _, _, rfl, hi, h⟩)

/-! ## Fitness -/

theorem Step.Violates.unique {case : Text} {index : Nat} {step : Step} {place : List Nat}
    {f g : Fault} (hf : step.Violates case index place f) (hg : step.Violates case index place g) :
    f = g := by
  cases hf with
  | sentence htext hblank => cases hg with
    | sentence => rfl
    | url => cases htext
  | url hf => cases hg with
    | sentence htext => cases htext
    | url hg => rw [Except.error.inj (hf.symm.trans hg)]
  | title hf => cases hg with
    | title hg => rw [Except.error.inj (hf.symm.trans hg)]

theorem Case.Violates.unique {earlier : List Text} {index : Nat} {c : Case} {place : List Nat}
    {f g : Fault} (hf : c.Violates earlier index place f) (hg : c.Violates earlier index place g) :
    f = g := by
  cases hf with
  | unnamed => cases hg with
    | unnamed => rfl
  | repeated => cases hg with
    | repeated => rfl
  | noSteps => cases hg with
    | noSteps => rfl
  | step hj hf => cases hg with
    | step hj' hg =>
        obtain rfl := Option.some.inj (hj.symm.trans hj')
        exact hf.unique hg

theorem Violates.unique {s : Suite} {place : List Nat} {f g : Fault} (hf : s.Violates place f)
    (hg : s.Violates place g) : f = g := by
  cases hf with
  | noTests => cases hg with
    | noTests => rfl
  | case hi hf => cases hg with
    | case hi' hg =>
        obtain rfl := Option.some.inj (hi.symm.trans hi')
        exact hf.unique hg

omit [Regex.Engine] in
theorem nodup_names_iff {cases : List Case} : (cases.map (·.name)).Nodup ↔
    ∀ i c, cases[i]? = some c → c.name ∉ (cases.take i).map (·.name) := by
  rw [List.nodup_iff_getElem?_ne_getElem?]
  simp only [List.getElem?_map, List.length_map, List.mem_map, List.mem_take_iff_getElem]
  constructor
  · rintro h i c hc ⟨d, ⟨k, hk, rfl⟩, hname⟩
    have hi := (List.getElem?_eq_some_iff.mp hc).1
    refine h k i (by omega) hi ?_
    rw [hc, List.getElem?_eq_getElem (by omega), Option.map_some, Option.map_some, hname]
  · intro h i j hij hj hsame
    refine h j cases[j] (List.getElem?_eq_getElem hj) ⟨cases[i], ⟨i, by omega, rfl⟩, ?_⟩
    rw [List.getElem?_eq_getElem (by omega), List.getElem?_eq_getElem hj] at hsame
    exact Option.some.inj hsame

theorem isFit_iff (s : Suite) : s.IsFit ↔ ∀ place f, ¬ s.Violates place f := by
  constructor
  · rintro hfit place f (h | ⟨hi, h⟩)
    · exact hfit.cases h
    · have hc := List.mem_of_getElem? hi
      rcases h with h | h | h | ⟨hj, h⟩
      · exact hfit.named _ hc h
      · exact nodup_names_iff.mp hfit.distinct _ _ hi h
      · exact hfit.steps _ hc h
      · have hstep := List.mem_of_getElem? hj
        rcases h with ⟨htext, hblank⟩ | hurl | htitle
        · exact hfit.sentences _ hc _ hstep _ htext hblank
        · obtain ⟨p, hp⟩ := (hfit.patterns _ hc _ _ hstep).1
          exact nomatch hp.symm.trans hurl
        · obtain ⟨p, hp⟩ := (hfit.patterns _ hc _ _ hstep).2 _ rfl
          exact nomatch hp.symm.trans htitle
  · intro hnone
    have hparse {t : Text} (h : ∀ f, Pattern.parse t ≠ .error f) :
        ∃ p, Pattern.parse t = .ok p := by
      cases hp : Pattern.parse t with
      | ok p => exact ⟨p, rfl⟩
      | error f => exact absurd hp (h f)
    constructor
    · exact fun h => hnone _ _ (.noTests h)
    · intro c hc h
      obtain ⟨i, hi⟩ := List.getElem?_of_mem hc
      exact hnone _ _ (.case hi (.unnamed h))
    · exact nodup_names_iff.mpr fun i c hi h => hnone _ _ (.case hi (.repeated h))
    · intro c hc h
      obtain ⟨i, hi⟩ := List.getElem?_of_mem hc
      exact hnone _ _ (.case hi (.noSteps h))
    · intro c hc step hstep text htext h
      obtain ⟨i, hi⟩ := List.getElem?_of_mem hc
      obtain ⟨j, hj⟩ := List.getElem?_of_mem hstep
      exact hnone _ _ (.case hi (.step hj (.sentence htext h)))
    · intro c hc url title hstep
      obtain ⟨i, hi⟩ := List.getElem?_of_mem hc
      obtain ⟨j, hj⟩ := List.getElem?_of_mem hstep
      refine ⟨hparse fun f h => hnone _ _ (.case hi (.step hj (.url h))), ?_⟩
      rintro t rfl
      exact hparse fun f h => hnone _ _ (.case hi (.step hj (.title h)))

theorem fault?_eq_none_iff (s : Suite) : s.fault? = none ↔ s.IsFit :=
  s.first_fault?.eq_none_iff.trans s.isFit_iff.symm

end Suite

/-! ## Waits in a run -/

namespace Runner

variable {σ : Type} [Regex.Engine]

/-- The wait reads both of its patterns. It ends early only for its time, or as the backend itself
fails. -/
structure Awaits (r : Runner σ) (s : Suite) (page : σ) (i : Nat) (c : Suite.Case) (j : Nat)
    (url : Text) (title : Option Text) (t : StepReport) : Prop where
  readsUrl : ∃ p, Pattern.parse url = .ok p
  readsTitle : ∀ text, title = some text → ∃ p, Pattern.parse text = .ok p
  error : ∃ failure, (r.outcome s c j (.navigation url title)
      (r.progressAt s page i c j).world).1.failure = failure ∧
    t.error = failure.map Failure.message ∧
    ∀ f, failure = some f → (∃ awaited ms, f = .timeout awaited ms) ∨ r.backend.CanRaise f

theorem Executed.awaits {r : Runner σ} {s : Suite} {page : σ} {i j : Nat} {c : Suite.Case}
    {url : Text} {title : Option Text} {t : StepReport} (hfit : s.IsFit)
    (h : r.Executed s page i c j (.navigation url title) t) :
    r.Awaits s page i c j url title t := by
  obtain ⟨hurl, htitle⟩ :=
    hfit.patterns c (List.mem_of_getElem? h.case) url title (List.mem_of_getElem? h.step)
  have hraises :
      Raises (navigate r.backend r.options (place s c j (.navigation url title)) url title)
      fun f => (∃ awaited ms, f = .timeout awaited ms) ∨ r.backend.CanRaise f := by
    refine .navigate (fun f => .inr) (fun awaited ms => .inl ⟨awaited, ms, rfl⟩) _ _ ?_ ?_
    · intro f hf
      obtain ⟨p, hp⟩ := hurl
      exact nomatch hp.symm.trans hf
    · intro text htext f hf
      obtain ⟨p, hp⟩ := htitle text htext
      exact nomatch hp.symm.trans hf
  obtain ⟨ht, -, -⟩ := h.eq_outcome
  exact ⟨hurl, htitle, _, rfl, congrArg StepReport.error ht,
    fun f hf => performStep_navigation_failure hraises hf⟩

end Runner

namespace Suite

/-- The check of a suite finds nothing just if the suite is fit to run, and else the fault that
stands first of all that are there. In no run of a suite that is fit does a wait end early for a
pattern that cannot be read. -/
theorem fault?_first [Regex.Engine] (s : Suite) :
    (s.fault? = none ↔ s.IsFit) ∧
    (∀ f, s.fault? = some f ↔ ∃ place, s.Violates place f ∧
      ∀ place' f', s.Violates place' f' → Precedes place place') ∧
    (s.fault? = none → ∀ {σ : Type} (r : Runner σ) page i c j url title t,
      r.Executed s page i c j (.navigation url title) t → r.Awaits s page i c j url title t) := by
  refine ⟨s.fault?_eq_none_iff, fun f => ?_, fun hnone σ r page i c j url title t h => ?_⟩
  · exact s.first_fault?.eq_some_iff fun _ _ _ => Violates.unique
  · exact h.awaits (s.fault?_eq_none_iff.mp hnone)

open Regex.Builtin

/-- The second case has the name of the first and no steps, but before that stands a pattern that
cannot be read. -/
example : fault? { cases :=
      [{ name := "t", steps := [.sentence "Go.", .navigation "/" (some "/(/")] },
        { name := "t", steps := [] }] } =
    some (.invalidPattern "t" 1 "Invalid pattern \"/(/\": regex parse error: unclosed group") := by
  decide +kernel

/-- The address is not the one that is waited for. -/
theorem fault?_first_elsewhere :
    let url : Text := "/ho?me/"
    let step : Step := .navigation url (some "*")
    let message : Text := "Timed out after 0ms waiting for URL matching /ho?me/ (last /)"
    let t : StepReport := { index := 0, text := step.describe, error := some message }
    let c : Case := { name := "t", steps := [step] }
    (Runner.only step).fault? = none ∧
      Runner.hasty.Executed (Runner.only step) Runner.savePage 0 c 0 step t ∧
      Runner.hasty.Awaits (Runner.only step) Runner.savePage 0 c 0 url (some "*") t := by
  intro url step message t c
  have hfault : (Runner.only step).fault? = none := by decide +kernel
  have h : Runner.hasty.Executed (Runner.only step) Runner.savePage 0 c 0 step t :=
    ⟨rfl, rfl, by decide +kernel, rfl⟩
  exact ⟨hfault, h, (fault?_first (Runner.only step)).2.2 hfault _ _ _ _ _ _ _ _ h⟩

end Suite

end PlainSteps
