import PlainSteps.Proofs.Calls
import PlainSteps.Proofs.Interpolation

/-!
# The calls of a drag

A drag is an approach, a press, the correction and a release (`converge_eq`). The approach and the
correction are made of calls that leave the pointer's button alone, and a failure comes of the call
that ends them (`Blamed`). What a whole drag logs, however the page answers and wherever it fails,
is gathered in `Control.Drives`; the main statement is `converge_calls`.
-/

namespace PlainSteps

/-- The failure that a slider has not reached its target. -/
def Failure.isStall : Failure → Bool
  | .sliderDidNotConverge .. => true
  | _ => false

namespace Exchange

/-- No call presses or releases the pointer. -/
def Quiet (log : List Exchange) : Prop := ∀ e ∈ log, e.isButton = false

/-- Calls without the pointer's button that a failure comes of: one of them is to blame if it says
that a slider has not reached its target. -/
structure Blamed (f : Failure) (log : List Exchange) : Prop where
  quiet : Quiet log
  blame : f.isStall → ∃ e ∈ log, e.FailsWith f

/-- What is learnt from a call: nothing of the pointer's button, and of a stall only that the call
failed with it. -/
structure Explains {α : Type} (x : Except Failure α) (e : Exchange) : Prop where
  isButton : e.isButton = false
  blame : ∀ f, x = .error f → f.isStall → e.FailsWith f

theorem quiet_nil : Quiet [] := fun _ he => absurd he List.not_mem_nil

theorem Quiet.cons {e : Exchange} {log : List Exchange} (he : e.isButton = false)
    (h : Quiet log) : Quiet (e :: log) :=
  List.forall_mem_cons.mpr ⟨he, h⟩

theorem blamed_nil {f : Failure} (h : f.isStall = false) : Blamed f [] := by
  refine ⟨quiet_nil, fun hstall => ?_⟩
  rw [h] at hstall
  cases hstall

theorem Blamed.cons {f : Failure} {e : Exchange} {log : List Exchange} (he : e.isButton = false)
    (h : Blamed f log) : Blamed f (e :: log) := by
  refine ⟨h.quiet.cons he, fun hstall => ?_⟩
  obtain ⟨e', hmem, hfails⟩ := h.blame hstall
  exact ⟨e', List.mem_cons_of_mem e hmem, hfails⟩

theorem Explains.blamed {α : Type} {f : Failure} {e : Exchange}
    (h : Explains (α := α) (.error f) e) : Blamed f [e] :=
  ⟨quiet_nil.cons h.isButton, fun hstall => ⟨e, List.mem_singleton_self e, h.blame f rfl hstall⟩⟩

end Exchange

namespace Run

open Exchange (Quiet Blamed Explains quiet_nil blamed_nil)
open Numeral (IsInt64)

variable {σ α β : Type}

/-! ## Looks -/

/-- The statement holds of whatever failure comes of calls without the pointer's button. -/
def Tolerates (P : Except Failure α → List Exchange → Prop) : Prop :=
  ∀ f log, Blamed f log → P (.error f) log

theorem Tolerates.cons {P : Except Failure α → List Exchange → Prop} (h : Tolerates P)
    {e : Exchange} (he : e.isButton = false) : Tolerates fun x log => P x (e :: log) :=
  fun f log hblamed => h f (e :: log) (hblamed.cons he)

/-- The session makes one call, from which it learns as `S` says. -/
def Learns (m : Session (σ × List Exchange) α) (S : Except Failure α → Exchange → Prop) : Prop :=
  Logs m fun x log => ∃ e, log = [e] ∧ S x e ∧ Explains x e

/-- Behind one call, what comes next goes on from its answer. -/
theorem Learns.bind {m : Session (σ × List Exchange) α} {S : Except Failure α → Exchange → Prop}
    (h : Learns m S) {next : α → Session (σ × List Exchange) β}
    {P : Except Failure β → List Exchange → Prop} (hP : Tolerates P)
    (hnext : ∀ x e, S (.ok x) e → Explains (.ok x) e →
      Logs (next x) fun z log => P z (e :: log)) : Logs (m >>= next) P := by
  refine Logs.bind h ?_ ?_
  · rintro f _ ⟨e, rfl, -, hexplains⟩
    exact hP f [e] hexplains.blamed
  · rintro x _ ⟨e, rfl, hS, hexplains⟩
    exact hnext x e hS hexplains

theorem learns_call (b : Backend σ) (r : Request α) (h : ∀ x, Explains x (r.exchange x)) :
    Learns (b.logged.answer r) fun x e => e = r.exchange x :=
  .call b fun x => ⟨_, rfl, rfl, h x⟩

namespace Control

variable (c : Control)

/-- An attribute as a whole number. -/
def attributeValue (name : Text) : Option Text → Except Failure Int
  | some raw => wholeReading raw name
  | none => .error (.missingAttribute c.name name)

/-- What the control says when it is asked for an attribute. -/
def attributeReading? (name : Text) : Exchange → Option (Except Failure Int)
  | .readAttribute h asked answer =>
    if h = c.readout ∧ asked = name then some (answer.bind (c.attributeValue name)) else none
  | _ => none

/-- What the control says when it is asked for its value. -/
def reading? (e : Exchange) : Option (Except Failure Int) :=
  match c.kind, e with
  | .native, .value h answer =>
    if h = c.readout then some (answer.bind (wholeReading · "value")) else none
  | .native, _ => none
  | .shadcn, e => c.attributeReading? c.kind.valueAttribute e

/-- The value that the control reports. -/
def reported? (e : Exchange) : Option Int := (c.reading? e).bind Except.toOption

variable {c} {b : Backend σ}

theorem isStall_wholeReading {raw name : Text} {f : Failure}
    (h : wholeReading raw name = .error f) : f.isStall = false := by
  unfold wholeReading at h
  split at h
  · cases h
  · cases h
    rfl

theorem isStall_attributeValue {name : Text} {raw? : Option Text} {f : Failure}
    (h : c.attributeValue name raw? = .error f) : f.isStall = false := by
  cases raw? with
  | some raw => exact isStall_wholeReading h
  | none =>
      cases h
      rfl

/-- A number cannot be read as a stall. -/
theorem eq_error_of_bind {answer : Except Failure α} {read : α → Except Failure Int} {f : Failure}
    (h : answer.bind read = .error f) (hread : ∀ x, read x = .error f → f.isStall = false)
    (hstall : f.isStall) : answer = .error f := by
  cases answer with
  | error f' => exact congrArg Except.error (Except.error.inj h)
  | ok x => exact nomatch (hread x h).symm.trans hstall

theorem learns_read (name : Text) :
    Learns (c.read b.logged name) fun x e => c.attributeReading? name e = some x := by
  have hblame (answer : Except Failure (Option Text)) :
      Explains (answer.bind (c.attributeValue name)) (.readAttribute c.readout name answer) :=
    ⟨rfl, fun f hf => eq_error_of_bind hf fun raw? => isStall_attributeValue⟩
  have hreading (answer : Except Failure (Option Text)) :
      c.attributeReading? name (.readAttribute c.readout name answer) =
        some (answer.bind (c.attributeValue name)) := by
    rw [attributeReading?, if_pos ⟨rfl, rfl⟩]
  refine (Logs.call b (r := .readAttribute c.readout name)
    (P := fun x log => log = [.readAttribute c.readout name x]) fun _ => rfl).bind ?_ ?_
  · rintro f _ rfl
    exact ⟨_, rfl, hreading (.error f), hblame (.error f)⟩
  · rintro (_ | raw) _ rfl
    · exact .throw ⟨_, rfl, hreading (.ok none), hblame (.ok none)⟩
    · exact .ofExcept ⟨_, rfl, hreading (.ok (some raw)), hblame (.ok (some raw))⟩

theorem learns_value : Learns (c.value b.logged) fun x e => c.reading? e = some x := by
  unfold Control.value reading?
  cases c.kind with
  | native =>
      have hblame (answer : Except Failure Text) :
          Explains (answer.bind (wholeReading · "value")) (.value c.readout answer) :=
        ⟨rfl, fun f hf => eq_error_of_bind hf fun raw => isStall_wholeReading⟩
      refine (Logs.call b (r := .value c.readout)
        (P := fun x log => log = [.value c.readout x]) fun _ => rfl).bind ?_ ?_
      · rintro f _ rfl
        exact ⟨_, rfl, if_pos rfl, hblame (.error f)⟩
      · rintro raw _ rfl
        exact .ofExcept ⟨_, rfl, if_pos rfl, hblame (.ok raw)⟩
  | shadcn => exact learns_read _

theorem learns_box (h : Handle) :
    Learns (b.logged.boundingBox h) fun x e => e = .box h x :=
  learns_call b (.boundingBox h) fun _ => ⟨rfl, fun _ hf _ => hf⟩

theorem learns_move (place : Point) :
    Learns (b.logged.pointerMove place) fun x e => e = .move place x :=
  learns_call b (.pointerMove place) fun _ => ⟨rfl, fun _ hf _ => hf⟩

/-! ## The correction -/

/-- The last value that the control reports, after an earlier one. -/
def lastReported (c : Control) (last : Int) (log : List Exchange) : Int :=
  (log.filterMap c.reported?).getLast?.getD last

theorem isMove_of_attributeReading? {name : Text} {e : Exchange} {x : Except Failure Int}
    (h : c.attributeReading? name e = some x) : e.isMove = false := by
  cases e with
  | move => cases h
  | _ => rfl

theorem isMove_of_reading? {e : Exchange} {x : Except Failure Int} (h : c.reading? e = some x) :
    e.isMove = false := by
  unfold reading? at h
  split at h
  · rfl
  · cases h
  · exact isMove_of_attributeReading? h

theorem reported?_of_isMove (place : Point) (answer : Except Failure Unit) :
    c.reported? (.move place answer) = none := by
  unfold reported? reading?
  cases c.kind <;> rfl

theorem reported?_of_isButton {e : Exchange} (h : e.isButton) : c.reported? e = none := by
  cases e with
  | press | release =>
      unfold reported? reading?
      cases c.kind <;> rfl
  | _ => cases h

/-- A move, and a look at the control behind it. -/
structure Step (c : Control) (place : Point) (value : Int) (look : Exchange) : Prop where
  reading : c.reading? look = some (.ok value)
  isButton : look.isButton = false

theorem logs_step {P : Except Failure α → List Exchange → Prop} (hP : Tolerates P) (place : Point)
    {next : Int → Session (σ × List Exchange) α}
    (hnext : ∀ value look, c.Step place value look →
      Logs (next value) fun x log => P x (.move place (.ok ()) :: look :: log)) :
    Logs (b.logged.pointerMove place >>= fun _ => c.value b.logged >>= next) P := by
  refine (learns_move place).bind hP ?_
  rintro ⟨⟩ _ rfl hmove
  refine learns_value.bind (hP.cons hmove.isButton) fun value look hvalue hlook => ?_
  exact hnext value look ⟨hvalue, hlook.isButton⟩

namespace Step

variable {place : Point} {value : Int} {look : Exchange} {log : List Exchange}
  (h : c.Step place value look)
include h

theorem quiet (hlog : Quiet log) : Quiet (.move place (.ok ()) :: look :: log) :=
  (hlog.cons h.isButton).cons rfl

theorem blamed {f : Failure} (hlog : Blamed f log) :
    Blamed f (.move place (.ok ()) :: look :: log) :=
  (hlog.cons h.isButton).cons rfl

theorem countP_isMove :
    (Exchange.move place (.ok ()) :: look :: log).countP (·.isMove) =
      log.countP (·.isMove) + 1 := by
  have hmove : ¬ look.isMove := by simp [isMove_of_reading? h.reading]
  rw [List.countP_cons_of_pos rfl, List.countP_cons_of_neg hmove]

theorem getLast?_reported :
    ((Exchange.move place (.ok ()) :: look :: log).filterMap c.reported?).getLast? =
      some (c.lastReported value log) := by
  have hvalue : c.reported? look = some value := by
    rw [reported?, h.reading]
    rfl
  rw [List.filterMap_cons_none (reported?_of_isMove place _), List.filterMap_cons_some hvalue,
    List.getLast?_cons, lastReported]

theorem lastReported (last : Int) :
    c.lastReported last (.move place (.ok ()) :: look :: log) = c.lastReported value log := by
  rw [Control.lastReported, h.getLast?_reported, Option.getD_some]

end Step

/-- The calls of a pursuit that may make `left` moves, and how it ends. -/
inductive Pursues (c : Control) (target : Int) (left made : Nat) (last : Int) :
    Except Failure (Pursuit Float × Nat) → List Exchange → Prop
  | failed {f : Failure} {log : List Exchange} : Blamed f log →
      Pursues c target left made last (.error f) log
  | reached {p : Pursuit Float} {n : Nat} {log : List Exchange} : Quiet log →
      n = made + log.countP (·.isMove) → n ≤ made + left → c.lastReported last log = target →
      Pursues c target left made last (.ok (p, n)) log
  | stalled {value : Int} {n : Nat} {log : List Exchange} : Quiet log → n = made + left →
      c.lastReported last log = value → value ≠ target →
      Pursues c target left made last (.error (.sliderDidNotConverge c.name target value n)) log

theorem Pursues.step {target last value : Int} {left made : Nat} {place : Point} {look : Exchange}
    {result : Except Failure (Pursuit Float × Nat)} {log : List Exchange}
    (hstep : c.Step place value look) (h : Pursues c target left (made + 1) value result log) :
    Pursues c target (left + 1) made last result (.move place (.ok ()) :: look :: log) := by
  have hmoves : (Exchange.move place (.ok ()) :: look :: log).countP (·.isMove) =
      log.countP (·.isMove) + 1 := hstep.countP_isMove
  have hlast : c.lastReported last (.move place (.ok ()) :: look :: log) =
      c.lastReported value log := hstep.lastReported last
  cases h with
  | failed h => exact .failed (hstep.blamed h)
  | reached hquiet hn hle htarget =>
      exact .reached (hstep.quiet hquiet) (by omega) (by omega) (hlast.trans htarget)
  | stalled hquiet hn hvalue hne =>
      exact .stalled (hstep.quiet hquiet) (by omega) (hlast.trans hvalue) hne

theorem logs_pursue (place : Float → Point) (target : Int) (left made : Nat) (p : Pursuit Float)
    (last : Int) :
    Logs (pursue c.name (fun x => b.logged.pointerMove (place x)) (c.value b.logged) target left
      made p last) (Pursues c target left made last) := by
  induction left generalizing made p last with
  | zero =>
      unfold pursue
      by_cases htarget : last = target
      · rw [if_pos htarget]
        exact .pure (.reached quiet_nil rfl (Nat.le_refl _) htarget)
      · rw [if_neg htarget]
        exact .throw (.stalled quiet_nil rfl rfl htarget)
  | succ left ih =>
      unfold pursue
      by_cases htarget : last = target
      · rw [if_pos htarget]
        exact .pure (.reached quiet_nil rfl (Nat.le_add_right _ _) htarget)
      · rw [if_neg htarget]
        refine logs_step (fun f log => .failed) _ fun value look hstep => ?_
        exact (ih _ _ value).mono fun result log h => h.step hstep

/-- The drag on a track with a box, to the place of the target, and the correction. -/
def drag (b : Backend σ) (c : Control) (target : Int) (maxIterations : Nat)
    (track : Box × Float) : Session σ (Convergence Float) :=
  let (box, start) := track
  correct c.name (fun x => b.pointerMove ⟨x, box.y + box.height / 2⟩) (c.value b) target start
    maxIterations

/-- The calls between press and release, and how the correction ends. -/
inductive Drags (c : Control) (target : Int) (maxIterations : Nat) :
    Except Failure (Convergence Float) → List Exchange → Prop
  | failed {f : Failure} {log : List Exchange} : Blamed f log →
      Drags c target maxIterations (.error f) log
  | reached {o : Convergence Float} {log : List Exchange} : Quiet log → o.value = target →
      o.iterations ≤ maxIterations → log.countP (·.isMove) = o.iterations + 1 →
      (log.filterMap c.reported?).getLast? = some target →
      Drags c target maxIterations (.ok o) log
  | stalled {last : Int} {log : List Exchange} : Quiet log → last ≠ target →
      (log.filterMap c.reported?).getLast? = some last →
      Drags c target maxIterations
        (.error (.sliderDidNotConverge c.name target last maxIterations)) log

theorem Drags.quiet {target : Int} {maxIterations : Nat}
    {result : Except Failure (Convergence Float)} {log : List Exchange}
    (h : Drags c target maxIterations result log) : Quiet log := by
  cases h with
  | failed h => exact h.quiet
  | reached hquiet => exact hquiet
  | stalled hquiet => exact hquiet

theorem logs_drag (target : Int) (maxIterations : Nat) (track : Box × Float) :
    Logs (c.drag b.logged target maxIterations track) (Drags c target maxIterations) := by
  obtain ⟨box, start⟩ := track
  unfold drag correct
  refine logs_step (fun f log => .failed) _ fun value look hstep => ?_
  refine (logs_pursue (fun x => ⟨x, box.y + box.height / 2⟩) target maxIterations 0 _ value).bind
    ?_ ?_
  · intro f log h
    cases h with
    | failed h => exact .failed (hstep.blamed h)
    | stalled hquiet hn hvalue hne =>
        rw [Nat.zero_add] at hn
        subst hn hvalue
        exact .stalled (hstep.quiet hquiet) hne hstep.getLast?_reported
  · rintro ⟨p, n⟩ log h
    cases h with
    | reached hquiet hn hle htarget =>
        rw [Nat.zero_add] at hn hle
        refine .pure ?_
        rw [List.append_nil]
        refine .reached (hstep.quiet hquiet) rfl hle ?_ ?_
        · rw [hstep.countP_isMove, hn]
        · rw [hstep.getLast?_reported, htarget]

/-! ## The approach -/

/-- What is read of a slider before it is dragged to a target, and the move to it. -/
def approach (b : Backend σ) (c : Control) (target : Int) : Session σ (Box × Float) := do
  let min ← c.read b c.kind.minAttribute
  let max ← c.read b c.kind.maxAttribute
  if max ≤ min then
    throw (.coercion (Text.ofInt min ++ ".." ++ Text.ofInt max)
      "a slider range with max above min")
  let some box ← b.boundingBox c.track | throw (.missingAttribute c.name "bounding box")
  let current ← c.value b
  let thumb ← ofExcept (interpolate box min max current)
  let start ← ofExcept (interpolate box min max target)
  b.pointerMove ⟨thumb, box.y + box.height / 2⟩
  return (box, start)

/-- The calls of an approach that succeeds: the range is read and is one, the track has a box, the
value is read, it and the target have their places on the track, and the pointer is moved to that
of the value. -/
inductive Opens (c : Control) (target : Int) : Box × Float → List Exchange → Prop
  | intro {box : Box} {min max value : Int} {thumb start : Float}
      {lower upper current : Exchange} :
      c.attributeReading? c.kind.minAttribute lower = some (.ok min) →
      c.attributeReading? c.kind.maxAttribute upper = some (.ok max) → min < max →
      c.reading? current = some (.ok value) → interpolate box min max value = .ok thumb →
      interpolate box min max target = .ok start →
      Opens c target (box, start) [lower, upper, .box c.track (.ok (some box)), current,
        .move ⟨thumb, box.y + box.height / 2⟩ (.ok ())]

/-- The calls of an approach, and how it ends. -/
inductive Approaches (c : Control) (target : Int) :
    Except Failure (Box × Float) → List Exchange → Prop
  | failed {f : Failure} {log : List Exchange} : Blamed f log → Approaches c target (.error f) log
  | opened {track : Box × Float} {log : List Exchange} : Quiet log →
      log.countP (·.isMove) = 1 → c.Opens target track log → Approaches c target (.ok track) log

theorem isStall_interpolate {box : Box} {min max value : Int} {f : Failure}
    (h : interpolate box min max value = .error f) : f.isStall = false := by
  obtain ⟨-, rfl⟩ := interpolate_eq_error h
  rfl

/-- A place is worked out without a call. -/
theorem logs_place {box : Box} {min max value : Int}
    {next : Float → Session (σ × List Exchange) α} {P : Except Failure α → List Exchange → Prop}
    (hP : Tolerates P)
    (hnext : ∀ x, interpolate box min max value = .ok x → Logs (next x) P) :
    Logs (ofExcept (interpolate box min max value) >>= next) P := by
  cases hplace : interpolate box min max value with
  | ok x => exact hnext x hplace
  | error f => exact .throw (hP _ _ (blamed_nil (isStall_interpolate hplace)))

theorem logs_approach (target : Int) :
    Logs (c.approach b.logged target) (c.Approaches target) := by
  have hP : Tolerates (c.Approaches target) := fun f log => .failed
  refine (learns_read _).bind hP fun min lower hlower hlower' => ?_
  have hP := hP.cons hlower'.isButton
  refine (learns_read _).bind hP fun max upper hupper hupper' => ?_
  have hP := hP.cons hupper'.isButton
  by_cases hrange : max ≤ min
  · simp only [if_pos hrange]
    exact .throw (hP _ _ (blamed_nil rfl))
  simp only [if_neg hrange]
  refine (learns_box c.track).bind hP ?_
  rintro (_ | box) _ rfl hbox
  · exact .throw (hP.cons hbox.isButton _ _ (blamed_nil rfl))
  have hP := hP.cons hbox.isButton
  refine learns_value.bind hP fun value current hcurrent hcurrent' => ?_
  have hP := hP.cons hcurrent'.isButton
  refine logs_place hP fun thumb hthumb => logs_place hP fun start hstart => ?_
  refine (learns_move _).bind hP ?_
  rintro ⟨⟩ _ rfl hmove
  have hopens := Opens.intro hlower hupper (Int.not_le.mp hrange) hcurrent hthumb hstart
  refine .pure (.opened ?_ ?_ hopens)
  · have hlast := (quiet_nil.cons hmove.isButton).cons hcurrent'.isButton
    exact ((hlast.cons hbox.isButton).cons hupper'.isButton).cons hlower'.isButton
  · have hlower := isMove_of_attributeReading? hlower
    have hupper := isMove_of_attributeReading? hupper
    have hcurrent := isMove_of_reading? hcurrent
    simp only [List.countP_cons, List.countP_nil, hlower, hupper, hcurrent]
    rfl

theorem converge_eq (b : Backend σ) (c : Control) (target : Int) (maxIterations : Nat) :
    converge b c target maxIterations = (do
      let track ← c.approach b target
      b.pointerDown
      let result ← observe (c.drag b target maxIterations track)
      let released ← observe b.pointerUp
      let outcome ← ofExcept result
      ofExcept released
      return outcome) := by
  unfold converge approach
  simp only [bind_assoc]
  congr 1
  funext min
  congr 1
  funext max
  by_cases hrange : max ≤ min
  · simp only [if_pos hrange]
    rfl
  · simp only [if_neg hrange, bind_assoc]
    congr 1
    funext box?
    cases box? with
    | none => rfl
    | some box =>
        simp only [bind_assoc, pure_bind]
        rfl

/-! ## The whole drag -/

/-- What the calls of a drag have in common with its result, whatever the page answers. -/
structure Drives (c : Control) (target : Int) (maxIterations : Nat)
    (result : Except Failure (Convergence Float)) (log : List Exchange) : Prop where
  reached : ∀ o, result = .ok o → o.value = target ∧
    (log.filterMap c.reported?).getLast? = some target ∧ o.iterations ≤ maxIterations ∧
    log.countP (·.isMove) = o.iterations + 2
  /-- Behind a press that succeeds there is one release, and it is the last call. -/
  released : .press (.ok ()) ∈ log →
    ∃ front answer, log = front ++ [.release answer] ∧ ∀ a, .release a ∉ front
  /-- Unless the approach succeeds the pointer is neither pressed nor released. -/
  untouched : (¬ ∃ track opening, c.Opens target track opening ∧ opening <+: log) → Quiet log
  /-- A stall is the page's own, or all moves have been made and the target is not reported. -/
  stalled : ∀ name t last n, result = .error (.sliderDidNotConverge name t last n) →
    (∃ e ∈ log, e.FailsWith (.sliderDidNotConverge name t last n)) ∨
    name = c.name ∧ t = target ∧ n = maxIterations ∧ last ≠ target ∧
      (log.filterMap c.reported?).getLast? = some last

/-- The correction's failure goes before that of the release. -/
def settle (result : Except Failure (Convergence Float)) (released : Except Failure Unit) :
    Except Failure (Convergence Float) :=
  result.bind fun o => released.map fun _ => o

theorem ofExcept_settle (result : Except Failure (Convergence Float))
    (released : Except Failure Unit) :
    (do let outcome ← ofExcept result; ofExcept released; return outcome :
      Session σ (Convergence Float)) = ofExcept (settle result released) := by
  cases result with
  | error f => rfl
  | ok o => cases released <;> rfl

section Drives

variable {target : Int} {maxIterations : Nat}

theorem Drives.of_blamed {f : Failure} {log : List Exchange} (h : Blamed f log) :
    Drives c target maxIterations (.error f) log := by
  refine ⟨?_, ?_, fun _ => h.quiet, ?_⟩
  · rintro o ⟨⟩
  · intro hpress
    exact nomatch h.quiet _ hpress
  · rintro name t last n ⟨⟩
    exact .inl (h.blame rfl)

variable {track : Box × Float} {opening : List Exchange} (hquiet : Quiet opening)
  (hopens : c.Opens target track opening)
include hquiet hopens

theorem Drives.of_press (f : Failure) :
    Drives c target maxIterations (.error f) (opening ++ [.press (.error f)]) := by
  refine ⟨?_, ?_, ?_, ?_⟩
  · rintro o ⟨⟩
  · intro hpress
    obtain hmem | hmem := List.mem_append.mp hpress
    · exact nomatch hquiet _ hmem
    · exact nomatch List.mem_singleton.mp hmem
  · intro hnone
    exact absurd ⟨track, opening, hopens, List.prefix_append _ _⟩ hnone
  · rintro name t last n ⟨⟩
    exact .inl ⟨_, List.mem_append_right _ (List.mem_singleton_self _), rfl⟩

theorem Drives.of_drags (hmoves : opening.countP (·.isMove) = 1)
    {result : Except Failure (Convergence Float)} {during : List Exchange}
    (h : Drags c target maxIterations result during) (answer : Except Failure Unit) :
    Drives c target maxIterations (settle result answer)
      ((opening ++ .press (.ok ()) :: during) ++ [.release answer]) := by
  have hlast {value : Int} (hvalue : (during.filterMap c.reported?).getLast? = some value) :
      (((opening ++ Exchange.press (.ok ()) :: during) ++ [Exchange.release answer]).filterMap
        c.reported?).getLast? = some value := by
    rw [List.filterMap_append, List.filterMap_cons_none (reported?_of_isButton rfl),
      List.filterMap_nil, List.append_nil, List.filterMap_append,
      List.filterMap_cons_none (reported?_of_isButton rfl), List.getLast?_append, hvalue]
    rfl
  have hduring {e : Exchange} (he : e ∈ during) :
      e ∈ (opening ++ Exchange.press (.ok ()) :: during) ++ [Exchange.release answer] := by
    simp [he]
  refine ⟨?_, ?_, ?_, ?_⟩
  · intro o ho
    cases h with
    | failed | stalled => cases ho
    | reached _ hvalue hle hcount hreported =>
        cases answer with
        | error g => cases ho
        | ok =>
            obtain rfl := Except.ok.inj ho
            refine ⟨hvalue, hlast hreported, hle, ?_⟩
            rw [List.countP_append, List.countP_append, List.countP_cons_of_neg Bool.false_ne_true,
              hmoves, hcount]
            simp [Exchange.isMove]
            omega
  · intro _
    refine ⟨_, answer, rfl, fun a ha => ?_⟩
    obtain hmem | hmem := List.mem_append.mp ha
    · exact nomatch hquiet _ hmem
    · obtain hmem | hmem := List.mem_cons.mp hmem
      · cases hmem
      · exact nomatch h.quiet _ hmem
  · intro hnone
    refine absurd ⟨track, opening, hopens, ?_⟩ hnone
    rw [List.append_assoc]
    exact List.prefix_append _ _
  · intro name t last n hstall
    cases h with
    | failed h =>
        obtain rfl := Except.error.inj hstall
        obtain ⟨e, hmem, hfails⟩ := h.blame rfl
        exact .inl ⟨e, hduring hmem, hfails⟩
    | stalled _ hne hreported =>
        cases hstall
        exact .inr ⟨rfl, rfl, rfl, hne, hlast hreported⟩
    | reached =>
        cases answer with
        | ok => cases hstall
        | error g =>
            obtain rfl := Except.error.inj hstall
            exact .inl ⟨_, List.mem_append_right _ (List.mem_singleton_self _), rfl⟩

end Drives

theorem logs_converge (target : Int) (maxIterations : Nat) :
    Logs (converge b.logged c target maxIterations) (Drives c target maxIterations) := by
  rw [converge_eq]
  refine (logs_approach target).bind ?_ ?_
  · intro f log h
    cases h with
    | failed h => exact .of_blamed h
  intro track opening h
  cases h with
  | opened hquiet hmoves hopens =>
      refine (Logs.call b (r := .pointerDown) (P := fun x log => log = [.press x])
        fun _ => rfl).bind ?_ ?_
      · rintro f _ rfl
        exact .of_press hquiet hopens f
      rintro ⟨⟩ _ rfl
      refine (logs_drag target maxIterations track).observe.bind ?_ ?_
      · rintro f log ⟨_, ⟨⟩, -⟩
      rintro result during ⟨_, ⟨⟩, hdrags⟩
      refine (Logs.call b (r := .pointerUp) (P := fun x log => log = [.release x])
        fun _ => rfl).observe.bind ?_ ?_
      · rintro f log ⟨_, ⟨⟩, -⟩
      rintro answer _ ⟨_, ⟨⟩, rfl⟩
      rw [ofExcept_settle]
      refine .ofExcept ?_
      have hdrives := Drives.of_drags hquiet hopens hmoves hdrags answer
      simpa using hdrives

/-- A correction that fails is the failure of the drag, whether the release fails or not. -/
theorem run_converge_of_drag {target : Int} {maxIterations : Nat} {track : Box × Float}
    {p p₀ p₁ p₂ : σ} {f : Failure} (happroach : (c.approach b target).run.run p = (.ok track, p₀))
    (hpress : b.pointerDown.run.run p₀ = (.ok (), p₁))
    (hdrag : (c.drag b target maxIterations track).run.run p₁ = (.error f, p₂)) :
    ((converge b c target maxIterations).run.run p).1 = .error f := by
  obtain ⟨released, q, hrelease⟩ : ∃ x q, b.pointerUp.run.run p₂ = (x, q) := ⟨_, _, rfl⟩
  rw [converge_eq, run_bind_of_ok happroach, run_bind_of_ok hpress,
    run_bind_of_ok (run_observe hdrag), run_bind_of_ok (run_observe hrelease)]
  rfl

/-- A drag ends at an overflow before the pointer is touched: what it leaves is the page as the last
look at the slider has left it. -/
theorem run_converge_of_overflow {target min max value : Int} {box : Box} (maxIterations : Nat)
    {p p₀ p₁ p₂ p₃ : σ} (hmin : (c.read b c.kind.minAttribute).run.run p = (.ok min, p₀))
    (hmax : (c.read b c.kind.maxAttribute).run.run p₀ = (.ok max, p₁)) (hrange : min < max)
    (hbox : (b.boundingBox c.track).run.run p₁ = (.ok (some box), p₂))
    (hvalue : (c.value b).run.run p₂ = (.ok value, p₃))
    (hoverflow : ¬ (IsInt64 (max - min) ∧ IsInt64 (value - min) ∧ IsInt64 (target - min))) :
    (converge b c target maxIterations).run.run p = (.error .overflow, p₃) := by
  unfold converge
  rw [run_bind_of_ok hmin, run_bind_of_ok hmax, if_neg (Int.not_le.mpr hrange),
    run_bind_of_ok hbox]
  dsimp only
  rw [run_bind_of_ok hvalue]
  by_cases hthumb : IsInt64 (max - min) ∧ IsInt64 (value - min)
  · have hstart : ¬ (IsInt64 (max - min) ∧ IsInt64 (target - min)) :=
      fun h => hoverflow ⟨h.1, hthumb.2, h.2⟩
    rw [interpolate_of_isInt64 hthumb.1 hthumb.2, interpolate_of_not_isInt64 hstart]
    rfl
  · rw [interpolate_of_not_isInt64 hthumb]
    rfl

/-- However the page answers, and wherever it fails: a drag that succeeds has brought the control
to the target; a press is followed by just one release, behind every other call; nothing is pressed
or released unless the approach succeeds; a slider is said not to have reached its target only
after all moves; and a release that fails hides no failure of the correction. -/
theorem converge_calls (b : Backend σ) (c : Control) (target : Int) (maxIterations : Nat) (p : σ) :
    ∃ result q log, (converge b c target maxIterations).run.run p = (result, q) ∧
      (converge b.logged c target maxIterations).run.run (p, []) = (result, q, log) ∧
      c.Drives target maxIterations result log ∧
      ∀ track p₀ p₁ p₂ f, (c.approach b target).run.run p = (.ok track, p₀) →
        b.pointerDown.run.run p₀ = (.ok (), p₁) →
        (c.drag b target maxIterations track).run.run p₁ = (.error f, p₂) → result = .error f := by
  have hagree := (Backend.agree_logged b).converge c target maxIterations
  obtain ⟨result, q, ⟨q', log⟩, hrun, hlogged, rfl⟩ := hagree (p := p) (q := (p, [])) rfl
  obtain ⟨result', q'', added, hrun', hdrives⟩ :=
    logs_converge (b := b) (c := c) target maxIterations p []
  rw [hlogged] at hrun'
  cases hrun'
  refine ⟨result, q', added, hrun, hlogged, hdrives, ?_⟩
  intro track p₀ p₁ p₂ f happroach hpress hdrag
  have hresult := run_converge_of_drag happroach hpress hdrag
  rwa [hrun] at hresult

end Control

end Run

end PlainSteps
