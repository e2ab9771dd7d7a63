import PlainSteps.Proofs.Executed

/-!
# Moments of a run

A run comes to a moment behind each of its cases, steps and commands, behind a command that fails,
and before and behind a reset (`Runner.Reaches`). The events at a moment are the first of the run
(`Reaches.isPrefix`), and there is a moment for every prefix of its events (`exists_reaches`).
-/

namespace PlainSteps

open Run

variable {σ : Type}

theorem prefix_append_cases {α : Type} {xs ys zs : List α} (h : zs <+: xs ++ ys) :
    zs <+: xs ∨ ∃ us, us <+: ys ∧ zs = xs ++ us := by
  rcases List.prefix_or_prefix_of_prefix h (List.prefix_append xs ys) with h' | ⟨us, rfl⟩
  · exact .inl h'
  · exact .inr ⟨us, (List.prefix_append_right_inj xs).mp h, rfl⟩

namespace Run

/-! ## Commands -/

variable [Regex.Engine] {b : Backend σ} {o : Options} {at_ : Place} {w v : World σ}
  {cs : List Command} {fs : List Finding}

/-- Commands go on from what the commands before them leave. -/
theorem Completes.performAll_append (h : Completes b o at_ w cs fs v) (ds : List Command) :
    performAll b o at_ (cs ++ ds) w =
      ((fs ++ (performAll b o at_ ds v).1.1, (performAll b o at_ ds v).1.2),
        (performAll b o at_ ds v).2) := by
  induction h with
  | nil w => rfl
  | cons hperform _ ih => simp only [List.cons_append, performAll, hperform, ih]

theorem Completes.of_prefix (h : Completes b o at_ w cs fs v) {gs : List Finding}
    (hgs : gs <+: fs) : ∃ k v', Completes b o at_ w (cs.take k) gs v' := by
  induction h generalizing gs with
  | nil w =>
      obtain rfl := List.prefix_nil.mp hgs
      exact ⟨0, w, .nil w⟩
  | @cons w _ _ _ _ _ _ hperform _ ih =>
      rcases List.prefix_cons_iff.mp hgs with rfl | ⟨gs, rfl, hrest⟩
      · exact ⟨0, w, .nil w⟩
      · obtain ⟨k, v', hdone⟩ := ih hrest
        exact ⟨k + 1, v', .cons hperform hdone⟩

section Step

variable {tagger : Sentence.Tagger} {step : Suite.Step} {commands : List Command} {k : Nat}
variable (hcommands : step.commands tagger = .ok commands)
  (hdone : Completes b o at_ w (commands.take k) fs v)
include hcommands hdone

/-- Commands of a step that run to their end are the first to find anything in it. -/
theorem prefix_findings : fs <+: (performStep b o tagger at_ step w).1.findings := by
  cases step with
  | navigation url title =>
      obtain rfl : [] = commands := Except.ok.inj hcommands
      rw [List.take_nil] at hdone
      cases hdone
      exact List.nil_prefix
  | sentence | command =>
      rw [performStep_of_parse rfl hcommands]
      have hall := hdone.performAll_append (commands.drop k)
      rw [List.take_append_drop] at hall
      rw [hall]
      exact List.prefix_append _ _

/-- A command that fails ends its step. -/
theorem performStep_of_fails {d : Command} (hd : commands[k]? = some d) {f : Failure}
    {v' : World σ} (hfails : Fails b o at_ v d f v') :
    (performStep b o tagger at_ step w).1 = ⟨commands.length, fs, some f⟩ := by
  cases step with
  | navigation url title =>
      obtain rfl : [] = commands := Except.ok.inj hcommands
      cases hd
  | sentence | command =>
      obtain ⟨hk, rfl⟩ := List.getElem?_eq_some_iff.mp hd
      have hall := hdone.performAll_append (commands.drop k)
      rw [List.take_append_drop, List.drop_eq_getElem_cons hk] at hall
      rw [performStep_of_parse rfl hcommands, hall]
      simp only [performAll, hfails.1, List.append_nil]

end Step

/-- What a step has found first has no event to tell of it, is all that the step finds, or is what
its first commands have found. -/
theorem findings_prefix_cases {tagger : Sentence.Tagger} {step : Suite.Step}
    (hfs : fs <+: (performStep b o tagger at_ step w).1.findings) (case : Text) (index : Nat) :
    fs.filterMap (Finding.event? case index) = [] ∨
      (fs = (performStep b o tagger at_ step w).1.findings ∧
        (performStep b o tagger at_ step w).1.failure = none) ∨
      ∃ commands k v, step.commands tagger = .ok commands ∧
        Completes b o at_ w (commands.take k) fs v := by
  cases hcommands : step.commands tagger with
  | error fault =>
      cases step with
      | navigation => cases hcommands
      | sentence | command =>
          rw [performStep_of_fault rfl hcommands] at hfs
          obtain rfl := List.prefix_nil.mp hfs
          exact .inl rfl
  | ok commands =>
      cases step with
      | sentence | command =>
          rw [performStep_of_parse rfl hcommands] at hfs
          obtain ⟨k, -, gs, v, hdone, ⟨-, hall⟩ | ⟨d, f, w', -, -, hall⟩⟩ :=
            performAll_eq b o at_ commands w
          all_goals
            rw [hall] at hfs
            obtain ⟨k', v', hdone'⟩ := hdone.of_prefix hfs
            rw [List.take_take] at hdone'
            exact .inr (.inr ⟨commands, _, v', rfl, hdone'⟩)
      | navigation url title =>
          obtain ⟨f, hfound⟩ | ⟨-, hfound⟩ | ⟨-, hfound⟩ | ⟨f, -, hfound, -⟩ :=
            performStep_navigation b o tagger at_ w url title
          · rw [hfound] at hfs
            obtain rfl := List.prefix_nil.mp hfs
            exact .inl rfl
          · rw [hfound] at hfs
            obtain rfl := List.prefix_nil.mp hfs
            exact .inl rfl
          · rw [hfound] at hfs
            refine .inl (List.filterMap_eq_nil_iff.mpr fun found hmem => ?_)
            rw [List.mem_singleton.mp (hfs.subset hmem)]
            rfl
          · rw [hfound] at hfs ⊢
            rcases List.prefix_cons_iff.mp hfs with rfl | ⟨gs, rfl, hrest⟩
            · exact .inl rfl
            · obtain rfl := List.prefix_nil.mp hrest
              exact .inr (.inl ⟨rfl, rfl⟩)

end Run

namespace Runner

/-! ## Moments -/

section Definitions

variable [Regex.Engine] (r : Runner σ) (s : Suite)

/-- The events so far, in a step whose commands have found `fs`. -/
def eventsWithin (page : σ) (i : Nat) (c : Suite.Case) (j : Nat) (step : Suite.Step)
    (fs : List Finding) : List Event :=
  (r.progressAt s page i c j).events ++
    .stepStarted c.name j step.describe :: fs.filterMap (Finding.event? c.name j)

/-- The run on a page is about to carry out the command `d` at a place, with the events `es` so far
and in the world `w`. -/
inductive ComesTo (page : σ) : Place → Command → List Event → World σ → Prop
  | intro {i j k : Nat} {c : Suite.Case} {step : Suite.Step} {t : StepReport}
      {commands : List Command} {d : Command} {fs : List Finding} {w : World σ} :
      r.Executed s page i c j step t → step.commands r.tagger = .ok commands →
      Run.Completes r.backend r.options (place s c j step) (r.progressAt s page i c j).world
        (commands.take k) fs w → commands[k]? = some d →
      ComesTo page (place s c j step) d (r.eventsWithin s page i c j step fs) w

/-- The run on a page comes to a moment with the events `es` so far and in the world `w`. -/
inductive Reaches (page : σ) : List Event → World σ → Prop
  /-- Behind cases. -/
  | cases {i : Nat} : i ≤ (r.run s page).1.cases.length →
      Reaches page (r.executeCases s (s.cases.take i) (r.start page)).2.events
        (r.executeCases s (s.cases.take i) (r.start page)).2.world
  /-- At the start of a case. -/
  | entered {i : Nat} {c : Suite.Case} {report : CaseReport} : s.cases[i]? = some c →
      (r.run s page).1.cases[i]? = some report →
      Reaches page (r.progressAt s page i c 0).events (r.progressAt s page i c 0).world
  /-- At the start of a step. -/
  | started {i j : Nat} {c : Suite.Case} {step : Suite.Step} {t : StepReport} :
      r.Executed s page i c j step t →
      Reaches page (r.eventsWithin s page i c j step []) (r.progressAt s page i c j).world
  /-- Behind commands of a step. -/
  | commands {i j k : Nat} {c : Suite.Case} {step : Suite.Step} {t : StepReport}
      {commands : List Command} {fs : List Finding} {w : World σ} :
      r.Executed s page i c j step t → step.commands r.tagger = .ok commands →
      Run.Completes r.backend r.options (place s c j step) (r.progressAt s page i c j).world
        (commands.take k) fs w →
      Reaches page (r.eventsWithin s page i c j step fs) w
  /-- Behind a command that fails. -/
  | failed {at_ : Place} {d : Command} {f : Failure} {es : List Event} {w w' : World σ} :
      r.ComesTo s page at_ d es w → Fails r.backend r.options at_ w d f w' → Reaches page es w'
  /-- Behind a step. -/
  | finished {i j : Nat} {c : Suite.Case} {step : Suite.Step} {t : StepReport} :
      r.Executed s page i c j step t →
      Reaches page (r.progressAt s page i c (j + 1)).events
        (r.progressAt s page i c (j + 1)).world
  /-- Behind the steps of a case, and a call for the end of the run if it is heard there. -/
  | stopped {i : Nat} {c : Suite.Case} {report : CaseReport} {done rest : List Suite.Step}
      {stop : Bool} {q : Progress σ} : s.cases[i]? = some c →
      (r.run s page).1.cases[i]? = some report →
      r.Course s c (r.executeCases s (s.cases.take i) (r.start page)).2 done rest stop q →
      Reaches page q.events q.world
  /-- Behind the reset of the page. -/
  | reset {i : Nat} {c : Suite.Case} {report : CaseReport} {done rest : List Suite.Step}
      {stop : Bool} {q : Progress σ} : s.cases[i]? = some c →
      (r.run s page).1.cases[i]? = some report →
      r.Course s c (r.executeCases s (s.cases.take i) (r.start page)).2 done rest stop q →
      Reaches page q.events (r.resetPage q).2.world

end Definitions

variable [Regex.Engine] {r : Runner σ} {s : Suite} {page : σ}

/-! ## The events at a moment -/

namespace Executed

variable {i j : Nat} {c : Suite.Case} {step : Suite.Step} {t : StepReport}
variable (h : r.Executed s page i c j step t)
include h

theorem events_progressAt_succ : (r.progressAt s page i c (j + 1)).events =
    (r.progressAt s page i c j).events ++ .stepStarted c.name j step.describe ::
      (r.outcome s c j step (r.progressAt s page i c j).world).1.events c.name j := by
  rw [h.eq_runStep.2.1, events_runStep]

theorem isPrefix : (r.progressAt s page i c (j + 1)).events <+: (r.run s page).2.events := by
  obtain ⟨-, hnext, hfollows⟩ := h.eq_runStep
  rw [hnext]
  exact hfollows.isPrefix

theorem prefix_eventsWithin {fs : List Finding}
    (hfs : fs <+: (r.outcome s c j step (r.progressAt s page i c j).world).1.findings) :
    r.eventsWithin s page i c j step fs <+: (r.run s page).2.events := by
  refine List.IsPrefix.trans ?_ h.isPrefix
  rw [h.events_progressAt_succ]
  refine (List.prefix_append_right_inj _).mpr ((List.prefix_cons_inj _).mpr ?_)
  exact (hfs.filterMap _).trans (List.prefix_append _ _)

end Executed

theorem ComesTo.isPrefix {at_ : Place} {d : Command} {es : List Event} {w : World σ}
    (h : r.ComesTo s page at_ d es w) : es <+: (r.run s page).2.events := by
  obtain ⟨hexecuted, hcommands, hdone, -⟩ := h
  exact hexecuted.prefix_eventsWithin (prefix_findings hcommands hdone)

/-- The failure of a command is told of. -/
theorem ComesTo.prefix_of_fails {at_ : Place} {d : Command} {es : List Event} {w w' : World σ}
    {f : Failure} (h : r.ComesTo s page at_ d es w)
    (hfails : Fails r.backend r.options at_ w d f w') :
    es ++ [.stepError at_.case at_.step f.message] <+: (r.run s page).2.events := by
  obtain ⟨hexecuted, hcommands, hdone, hd⟩ := h
  have hprefix := hexecuted.isPrefix
  rw [hexecuted.events_progressAt_succ, outcome,
    performStep_of_fails hcommands hdone hd hfails] at hprefix
  rw [eventsWithin, List.append_assoc, List.cons_append]
  exact hprefix

theorem Reaches.isPrefix {es : List Event} {w : World σ} (h : r.Reaches s page es w) :
    es <+: (r.run s page).2.events := by
  cases h with
  | cases hi => exact (follows_run hi).isPrefix
  | @entered i c report hc hreport =>
      obtain ⟨done, rest, stop, q, hcourse⟩ :=
        r.exists_course s c (r.executeCases s (s.cases.take i) (r.start page)).2
      have hrest := hcourse.follows.trans (runCase_of_report hc hreport).2
      exact ((hcourse.follows_take (Nat.zero_le _)).trans hrest).isPrefix
  | started hexecuted => exact hexecuted.prefix_eventsWithin List.nil_prefix
  | commands hexecuted hcommands hdone =>
      exact hexecuted.prefix_eventsWithin (prefix_findings hcommands hdone)
  | failed hcomes => exact hcomes.isPrefix
  | finished hexecuted => exact hexecuted.isPrefix
  | stopped hc hreport hcourse | reset hc hreport hcourse =>
      exact (hcourse.follows_ending.trans (runCase_of_report hc hreport).2).isPrefix

/-! ## Every prefix of the events -/

/-- In the course of a step its events come one by one. -/
theorem Executed.exists_reaches {i j : Nat} {c : Suite.Case} {step : Suite.Step} {t : StepReport}
    (h : r.Executed s page i c j step t) {es : List Event}
    (hes : es <+: (r.outcome s c j step (r.progressAt s page i c j).world).1.events c.name j) :
    ∃ w, r.Reaches s page
      ((r.progressAt s page i c j).events ++ .stepStarted c.name j step.describe :: es) w := by
  generalize hfound : (r.outcome s c j step (r.progressAt s page i c j).world).1 = found at hes
  have hwhole : ∃ w, r.Reaches s page ((r.progressAt s page i c j).events ++
      .stepStarted c.name j step.describe :: found.events c.name j) w := by
    have hlast := Reaches.finished h
    rw [h.events_progressAt_succ, hfound] at hlast
    exact ⟨_, hlast⟩
  have hwithin {fs : List Finding} (hfs : fs <+: found.findings) : ∃ w, r.Reaches s page
      ((r.progressAt s page i c j).events ++
        .stepStarted c.name j step.describe :: fs.filterMap (Finding.event? c.name j)) w := by
    rw [← hfound] at hfs
    rcases findings_prefix_cases hfs c.name j with
      hnone | ⟨hall, hfailure⟩ | ⟨_, _, v, hcommands, hdone⟩
    · rw [hnone]
      exact ⟨_, .started h⟩
    · have hevents : found.events c.name j = fs.filterMap (Finding.event? c.name j) := by
        rw [hall, Findings.events, ← hfound, outcome, hfailure]
        exact List.append_nil _
      rw [← hevents]
      exact hwhole
    · exact ⟨v, .commands h hcommands hdone⟩
  rcases prefix_append_cases hes with hes | ⟨us, hus, rfl⟩
  · obtain ⟨fs, hfs, rfl⟩ := List.prefix_filterMap_iff.mp hes
    exact hwithin hfs
  · rw [Findings.events] at hwhole
    cases hfailure : found.failure with
    | none =>
        rw [hfailure] at hus
        obtain rfl := List.prefix_nil.mp hus
        rw [List.append_nil]
        exact hwithin (List.prefix_refl _)
    | some f =>
        rw [hfailure] at hus hwhole
        rcases List.prefix_cons_iff.mp hus with rfl | ⟨us, rfl, hrest⟩
        · rw [List.append_nil]
          exact hwithin (List.prefix_refl _)
        · obtain rfl := List.prefix_nil.mp hrest
          exact hwhole

section Case

variable {i : Nat} {c : Suite.Case} {report : CaseReport} {done rest : List Suite.Step}
  {stop : Bool} {q : Progress σ}
variable (hc : s.cases[i]? = some c) (hreport : (r.run s page).1.cases[i]? = some report)
  (h : r.Course s c (r.executeCases s (s.cases.take i) (r.start page)).2 done rest stop q)
include hc hreport h

theorem Course.exists_executed {j : Nat} (hj : j < done.length) :
    ∃ step t, r.Executed s page i c j step t := by
  obtain ⟨hcase, -⟩ := runCase_of_report hc hreport
  generalize hp : (r.executeCases s (s.cases.take i) (r.start page)).2 = p at *
  have hlength : (r.enter s c done p).1.length = done.length := r.length_execute s c 0 done _
  have hj' : j < (r.enter s c done p).1.length := by rw [hlength]; exact hj
  refine ⟨done[j], (r.enter s c done p).1[j], hc, ?_, ?_, ?_⟩
  · rw [h.steps, List.getElem?_append_left hj, List.getElem?_eq_getElem hj]
  · rw [hreport, Option.bind_some, ← hcase, h.report]
    exact (List.getElem?_append_left hj').trans (List.getElem?_eq_getElem hj')
  · exact r.skipped_of_mem_execute s _ (List.getElem_mem hj')

/-- In the course of a case its events come one by one. -/
theorem Course.exists_reaches
    (hbefore : ∀ es, es <+: (r.executeCases s (s.cases.take i) (r.start page)).2.events →
      ∃ w, r.Reaches s page es w) {es : List Event} (hes : es <+: (r.runCase s c
        (r.executeCases s (s.cases.take i) (r.start page)).2).2.events) :
    es = (r.runCase s c (r.executeCases s (s.cases.take i) (r.start page)).2).2.events ∨
      ∃ w, r.Reaches s page es w := by
  have hsteps (j : Nat) (hj : j ≤ done.length) {es : List Event}
      (hes : es <+: (r.progressAt s page i c j).events) : ∃ w, r.Reaches s page es w := by
    induction j generalizing es with
    | zero =>
        rw [progressAt, List.take_zero, enter, execute, Progress.events_record] at hes
        rcases List.prefix_concat_iff.mp hes with rfl | hes
        · have hentered := Reaches.entered hc hreport
          rw [progressAt, List.take_zero, enter, execute, Progress.events_record] at hentered
          exact ⟨_, hentered⟩
        · exact hbefore es hes
    | succ j ih =>
        obtain ⟨step, t, hexecuted⟩ := h.exists_executed hc hreport hj
        rw [hexecuted.events_progressAt_succ] at hes
        rcases prefix_append_cases hes with hes | ⟨us, hus, rfl⟩
        · exact ih (Nat.le_of_lt hj) hes
        · rcases List.prefix_cons_iff.mp hus with rfl | ⟨us, rfl, hrest⟩
          · rw [List.append_nil]
            exact ih (Nat.le_of_lt hj) (List.prefix_refl _)
          · exact hexecuted.exists_reaches hrest
  have hlast {es : List Event} (hes : es <+: q.events) : ∃ w, r.Reaches s page es w := by
    have hdone : es <+: (r.progressAt s page i c done.length).events → _ :=
      hsteps done.length (Nat.le_refl _)
    rw [progressAt, h.take_steps (Nat.le_refl _), List.take_length] at hdone
    have hstopped := Reaches.stopped hc hreport h
    cases h.ending with
    | finished => exact hdone hes
    | failed => exact hdone hes
    | cancelled =>
        rw [Progress.events_record] at hes hstopped
        rcases List.prefix_concat_iff.mp hes with rfl | hes
        · exact ⟨_, hstopped⟩
        · exact hdone hes
  rw [h.progress, Progress.events_record, events_resetPage] at hes ⊢
  exact (List.prefix_concat_iff.mp hes).imp_right hlast

end Case

theorem exists_reaches_cases {i : Nat} (hi : i ≤ (r.run s page).1.cases.length) {es : List Event}
    (hes : es <+: (r.executeCases s (s.cases.take i) (r.start page)).2.events) :
    ∃ w, r.Reaches s page es w := by
  induction i generalizing es with
  | zero =>
      obtain rfl := List.prefix_nil.mp hes
      exact ⟨_, .cases hi⟩
  | succ i ih =>
      obtain ⟨hlength, -, -⟩ := run_eq_executeCases r s page
      have hcase : i < s.cases.length := by
        rw [List.length_take] at hlength
        omega
      have hc : s.cases[i]? = some s.cases[i] := List.getElem?_eq_getElem hcase
      have hreport := List.getElem?_eq_getElem (l := (r.run s page).1.cases) hi
      have hnext : (r.executeCases s (s.cases.take (i + 1)) (r.start page)).2 =
          (r.runCase s s.cases[i] (r.executeCases s (s.cases.take i) (r.start page)).2).2 := by
        rw [List.take_succ_eq_append_getElem hcase, executeCases_append]
        rfl
      obtain ⟨done, rest, stop, q, hcourse⟩ :=
        r.exists_course s s.cases[i] (r.executeCases s (s.cases.take i) (r.start page)).2
      rw [hnext] at hes
      rcases hcourse.exists_reaches hc hreport (fun es => ih (Nat.le_of_lt hi)) hes with rfl | h
      · rw [← hnext]
        exact ⟨_, .cases hi⟩
      · exact h

/-- For every prefix of the events of a run there is a moment at which it is all that the run has
told of. -/
theorem exists_reaches {es : List Event} (h : es <+: (r.run s page).2.events) :
    ∃ w, r.Reaches s page es w := by
  obtain ⟨-, -, hrun⟩ := run_eq_executeCases r s page
  rw [hrun] at h
  exact exists_reaches_cases (Nat.le_refl _) h

end Runner

end PlainSteps
