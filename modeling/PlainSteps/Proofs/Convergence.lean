import Mathlib
import PlainSteps.Proofs.Findings

/-!
# Convergence of slider corrections

Positions are rational numbers here, and the control reads a non-decreasing function of the
pointer's position. `Pursuit.walk` is one correction move. A walk first comes one pixel nearer at
each move, until it reports the target or has just passed over it; from then on two moves at most
halve the stretch that it passed over.

The main statement is `correct_converges`: if the target is read on an interval of length at least
`2⁻¹ ^ k`, then `correct` reports it after at most `⌈d⌉ + 2 * k` moves, where `d` is the distance
from the start to the interval.
-/

namespace PlainSteps.Run

variable {σ : Type}

namespace Heading

def flip : Heading → Heading
  | up => down
  | down => up

def sign : Heading → ℚ
  | up => 1
  | down => -1

/-- The end of an interval that one meets first when moving this way. -/
def edge (a b : ℚ) : Heading → ℚ
  | up => a
  | down => b

/-- A control that reads `value` has still to move this way. -/
def Wanted (target value : ℤ) : Heading → Prop
  | up => value < target
  | down => target < value

end Heading

namespace Pursuit

/-- One correction move over a control that reads `f`. -/
def walk (f : ℚ → ℤ) (target : ℤ) (p : Pursuit ℚ) : Pursuit ℚ := p.next (f p.position) target

/-- The last move went from one side of the target to the other. -/
def Crossed (f : ℚ → ℤ) (target : ℤ) (p : Pursuit ℚ) : Prop :=
  ∃ h : Heading, p.heading = some h ∧ h.flip.Wanted target (f p.position) ∧
    h.Wanted target (f (p.position - h.sign * p.increment))

variable {f : ℚ → ℤ} {target : ℤ} {p : Pursuit ℚ} {h : Heading}

theorem next_of_wanted {value : ℤ} (hw : h.Wanted target value) :
    p.next value target =
      { position := p.position + h.sign *
          (if p.heading = some h.flip then p.increment / 2 else p.increment)
        increment := if p.heading = some h.flip then p.increment / 2 else p.increment
        heading := some h } := by
  obtain ⟨position, increment, heading⟩ := p
  cases h with
  | up =>
      have hlt : ¬ target < value := not_lt.mpr (le_of_lt hw)
      rcases heading with _ | _ | _ <;> simp [next, Heading.flip, Heading.sign, hlt]
  | down =>
      have hlt : target < value := hw
      rcases heading with _ | _ | _ <;>
        simp [next, Heading.flip, Heading.sign, hlt, sub_eq_add_neg]

theorem wanted_or_eq (target value : ℤ) (h : Heading) :
    value = target ∨ h.Wanted target value ∨ h.flip.Wanted target value := by
  cases h <;> simp only [Heading.flip, Heading.Wanted] <;> omega

/-- After a crossing, one or two moves report the target or cross it again with half the
increment. -/
theorem Crossed.halves (hc : Crossed f target p) :
    ∃ n ≤ 2, f ((walk f target)^[n] p).position = target ∨
      (Crossed f target ((walk f target)^[n] p) ∧
        ((walk f target)^[n] p).increment = p.increment / 2) := by
  obtain ⟨h, hh, hover, hshort⟩ := hc
  have hback : h.flip.flip = h := by cases h <;> rfl
  have hsign : h.flip.sign = -h.sign := by cases h <;> simp [Heading.flip, Heading.sign]
  have hne : some h.flip ≠ some h := by cases h <;> simp [Heading.flip]
  -- The first move turns round and goes half the way back.
  have hfirst : walk f target p =
      ⟨p.position - h.sign * (p.increment / 2), p.increment / 2, some h.flip⟩ := by
    rw [walk, next_of_wanted hover, hback, if_pos hh, hsign]
    congr 1
    ring
  obtain heq | hon | hcross :=
    wanted_or_eq target (f (p.position - h.sign * (p.increment / 2))) h.flip
  · exact ⟨1, by omega, .inl (by simpa [hfirst] using heq)⟩
  · -- The second move ends where the crossing began.
    have hsecond : walk f target (walk f target p) =
        ⟨p.position - h.sign * p.increment, p.increment / 2, some h.flip⟩ := by
      rw [hfirst, walk, next_of_wanted hon, hback, if_neg hne, hsign]
      congr 1
      ring
    refine ⟨2, le_rfl, .inr ⟨⟨h.flip, ?_⟩, ?_⟩⟩
    · rw [Function.iterate_succ_apply, Function.iterate_one, hsecond, hback, hsign]
      refine ⟨rfl, hshort, ?_⟩
      convert hon using 2
      ring
    · rw [Function.iterate_succ_apply, Function.iterate_one, hsecond]
  · refine ⟨1, by omega, .inr ⟨⟨h.flip, ?_⟩, ?_⟩⟩
    · rw [Function.iterate_one, hfirst, hsign]
      refine ⟨rfl, hcross, ?_⟩
      convert hover using 2
      ring
    · rw [Function.iterate_one, hfirst]

section Interval

variable {a b : ℚ} (hf : Monotone f) (hle : a ≤ b) (hab : ∀ x ∈ Set.Icc a b, f x = target)
include hf hle hab

/-- A pointer that has still to move one way lies before the interval. -/
theorem edge_ahead {x : ℚ} (hw : h.Wanted target (f x)) : 0 < h.sign * (h.edge a b - x) := by
  have ha : f a = target := hab a ⟨le_rfl, hle⟩
  have hb : f b = target := hab b ⟨hle, le_rfl⟩
  cases h with
  | up =>
      have hlt : f x < f a := by rw [ha]; exact hw
      have hx := hf.reflect_lt hlt
      simp only [Heading.sign, Heading.edge]
      linarith
  | down =>
      have hlt : f b < f x := by rw [hb]; exact hw
      have hx := hf.reflect_lt hlt
      simp only [Heading.sign, Heading.edge]
      linarith

/-- A crossing passes over the whole interval. -/
theorem Crossed.length_lt (hc : Crossed f target p) : b - a < p.increment := by
  obtain ⟨h, -, hover, hshort⟩ := hc
  have h₁ := edge_ahead hf hle hab hover
  have h₂ := edge_ahead hf hle hab hshort
  cases h <;> simp only [Heading.flip, Heading.sign, Heading.edge] at h₁ h₂ <;> linarith

/-- A crossing by at most `2 ^ k` lengths of the interval takes at most `2 * k` more moves. -/
theorem Crossed.reaches {k : ℕ} (hc : Crossed f target p) (hk : p.increment ≤ 2 ^ k * (b - a)) :
    ∃ n ≤ 2 * k, f ((walk f target)^[n] p).position = target := by
  induction k generalizing p with
  | zero =>
      have hlt := hc.length_lt hf hle hab
      rw [pow_zero, one_mul] at hk
      exact absurd hk (not_le.mpr hlt)
  | succ k ih =>
      obtain ⟨m, hm, hdone | ⟨hcross, hinc⟩⟩ := hc.halves
      · exact ⟨m, by omega, hdone⟩
      · have hk' : ((walk f target)^[m] p).increment ≤ 2 ^ k * (b - a) := by
          rw [hinc]
          rw [pow_succ] at hk
          linarith
        obtain ⟨n, hn, hdone⟩ := ih hcross hk'
        refine ⟨n + m, by omega, ?_⟩
        rw [Function.iterate_add_apply]
        exact hdone

/-- Moves by whole pixels report the target or pass over it by the time that they reach the
interval. -/
theorem approach (m : ℕ) (hi : p.increment = 1) (hd : p.heading ≠ some h.flip)
    (hw : h.Wanted target (f p.position)) (hm : h.sign * (h.edge a b - p.position) ≤ m) :
    ∃ n ≤ m, f ((walk f target)^[n] p).position = target ∨
      (Crossed f target ((walk f target)^[n] p) ∧ ((walk f target)^[n] p).increment = 1) := by
  induction m generalizing p with
  | zero =>
      have hpos := edge_ahead hf hle hab hw
      rw [Nat.cast_zero] at hm
      exact absurd hm (not_le.mpr hpos)
  | succ m ih =>
      have hwalk : walk f target p = ⟨p.position + h.sign, 1, some h⟩ := by
        rw [walk, next_of_wanted hw, if_neg hd, hi, mul_one]
      have hsq : h.sign * h.sign = 1 := by cases h <;> norm_num [Heading.sign]
      obtain heq | hon | hcross := wanted_or_eq target (f (p.position + h.sign)) h
      · exact ⟨1, by omega, .inl (by simpa [hwalk] using heq)⟩
      · have hm' : h.sign * (h.edge a b - (p.position + h.sign)) ≤ m := by
          push_cast at hm
          rw [← sub_sub, mul_sub, hsq]
          linarith
        have hne : some h ≠ some h.flip := by cases h <;> simp [Heading.flip]
        obtain ⟨n, hn, hdone⟩ := ih (p := ⟨p.position + h.sign, 1, some h⟩) rfl hne hon hm'
        refine ⟨n + 1, by omega, ?_⟩
        rw [Function.iterate_succ_apply, hwalk]
        exact hdone
      · refine ⟨1, by omega, .inr ?_⟩
        rw [Function.iterate_one, hwalk]
        refine ⟨⟨h, rfl, hcross, ?_⟩, rfl⟩
        simpa using hw

end Interval

end Pursuit

/-- How far a position lies from an interval. -/
def distance (a b x : ℚ) : ℚ := max 0 (max (a - x) (x - b))

theorem distance_of_edge (a b x : ℚ) (h : Heading) :
    h.sign * (h.edge a b - x) ≤ distance a b x := by
  cases h with
  | up => simp [Heading.sign, Heading.edge, distance]
  | down => simp [Heading.sign, Heading.edge, distance]

/-- A walk that starts with whole pixels reports the target in time. -/
theorem walk_reaches {f : ℚ → ℤ} (hf : Monotone f) {target : ℤ} {a b : ℚ}
    (hab : ∀ x ∈ Set.Icc a b, f x = target) {k : ℕ} (hk : 2⁻¹ ^ k ≤ b - a) (x : ℚ) :
    ∃ n ≤ ⌈distance a b x⌉₊ + 2 * k,
      f ((Pursuit.walk f target)^[n] ⟨x, 1, none⟩).position = target := by
  have hle : a ≤ b := by
    have hpos : (0 : ℚ) < 2⁻¹ ^ k := by positivity
    linarith
  have hone : 1 ≤ 2 ^ k * (b - a) := by
    rw [inv_pow] at hk
    have hpos : (0 : ℚ) < 2 ^ k := by positivity
    calc (1 : ℚ) = 2 ^ k * (2 ^ k)⁻¹ := (mul_inv_cancel₀ hpos.ne').symm
      _ ≤ 2 ^ k * (b - a) := mul_le_mul_of_nonneg_left hk hpos.le
  have key (h : Heading) (hw : h.Wanted target (f x)) :
      ∃ n ≤ ⌈distance a b x⌉₊ + 2 * k,
        f ((Pursuit.walk f target)^[n] ⟨x, 1, none⟩).position = target := by
    have hm : h.sign * (h.edge a b - x) ≤ (⌈distance a b x⌉₊ : ℕ) :=
      (distance_of_edge a b x h).trans (Nat.le_ceil _)
    obtain ⟨m, hmle, hdone | ⟨hcross, hinc⟩⟩ :=
      Pursuit.approach hf hle hab (p := ⟨x, 1, none⟩) _ rfl (by simp) hw hm
    · exact ⟨m, by omega, hdone⟩
    · obtain ⟨n, hn, hdone⟩ := hcross.reaches hf hle hab (k := k) (by rw [hinc]; exact hone)
      refine ⟨n + m, by omega, ?_⟩
      rw [Function.iterate_add_apply]
      exact hdone
  obtain heq | hup | hdown := Pursuit.wanted_or_eq target (f x) .up
  · exact ⟨0, by omega, heq⟩
  · exact key .up hup
  · exact key .down hdown

/-! ## The moves of a session -/

/-- Moves put the pointer where they say, the control reads `f` at the pointer's position, and
neither fails. -/
structure Tracks (f : ℚ → ℤ) (moveTo : ℚ → Session σ Unit) (value : Session σ Int)
    (pointer : σ → ℚ) : Prop where
  moves : ∀ x s, ∃ s', (moveTo x).run.run s = (.ok (), s') ∧ pointer s' = x
  reads : ∀ s, ∃ s', value.run.run s = (.ok (f (pointer s)), s') ∧ pointer s' = pointer s

section Session

variable {f : ℚ → ℤ} {moveTo : ℚ → Session σ Unit} {value : Session σ Int} {pointer : σ → ℚ}
variable (h : Tracks f moveTo value pointer) (name : Text) {target : ℤ}
include h

/-- A move and the reading behind it. -/
theorem Tracks.moves_reads {β : Type} (x : ℚ) (s : σ) (next : ℤ → Session σ β) :
    ∃ s', (moveTo x >>= fun _ => value >>= next).run.run s = (next (f x)).run.run s' ∧
      pointer s' = x := by
  obtain ⟨s₁, hmove, hx⟩ := h.moves x s
  obtain ⟨s₂, hread, hsame⟩ := h.reads s₁
  refine ⟨s₂, ?_, hsame.trans hx⟩
  rw [run_bind_of_ok hmove, run_bind_of_ok hread, hx]

/-- A pursuit makes the moves of its walk, up to the first position that reports the target. -/
theorem pursue_of_walk {left n : ℕ} (hn : n ≤ left) (made : ℕ) (p : Pursuit ℚ) (s : σ)
    (hp : pointer s = p.position) (hhit : f ((Pursuit.walk f target)^[n] p).position = target) :
    ∃ m ≤ n, ∃ s', (pursue name moveTo value target left made p (f p.position)).run.run s =
        (.ok ((Pursuit.walk f target)^[m] p, made + m), s') ∧
      pointer s' = ((Pursuit.walk f target)^[m] p).position ∧ f (pointer s') = target := by
  induction left generalizing n made p s with
  | zero =>
      obtain rfl : n = 0 := by omega
      have heq : f p.position = target := hhit
      refine ⟨0, le_rfl, s, ?_, hp, by rw [hp]; exact heq⟩
      rw [pursue, if_pos heq]
      rfl
  | succ left ih =>
      by_cases heq : f p.position = target
      · refine ⟨0, by omega, s, ?_, hp, by rw [hp]; exact heq⟩
        rw [pursue, if_pos heq]
        rfl
      · cases n with
        | zero => exact absurd hhit heq
        | succ n =>
            rw [Function.iterate_succ_apply] at hhit
            obtain ⟨s₁, hrun, hs₁⟩ := h.moves_reads (Pursuit.walk f target p).position s
              (pursue name moveTo value target left (made + 1) (Pursuit.walk f target p))
            obtain ⟨m, hm, s', hrest, hend⟩ := ih (by omega) (made + 1) _ s₁ hs₁ hhit
            refine ⟨m + 1, by omega, s', ?_, ?_⟩
            · rw [pursue, if_neg heq]
              refine Eq.trans hrun ?_
              rw [hrest, Function.iterate_succ_apply, Nat.add_assoc, Nat.add_comm 1 m]
            · rw [Function.iterate_succ_apply]
              exact hend

end Session

/-- A correction converges: over a control that reads a non-decreasing function, which has the
target's value on an interval of length at least `2⁻¹ ^ k`, it ends at a position that reports the
target, after at most as many moves as the start is pixels away and two for each halving. -/
theorem correct_converges {f : ℚ → ℤ} (hf : Monotone f) {moveTo : ℚ → Session σ Unit}
    {value : Session σ Int} {pointer : σ → ℚ} (h : Tracks f moveTo value pointer) (name : Text)
    {target : ℤ} {a b : ℚ} (hab : ∀ x ∈ Set.Icc a b, f x = target) {k : ℕ}
    (hk : 2⁻¹ ^ k ≤ b - a) (start : ℚ) {maxIterations : ℕ}
    (hmax : ⌈distance a b start⌉₊ + 2 * k ≤ maxIterations) (s : σ) :
    ∃ n ≤ ⌈distance a b start⌉₊ + 2 * k, ∃ s',
      (correct name moveTo value target start maxIterations).run.run s =
        (.ok ⟨target, n, start - pointer s'⟩, s') ∧ f (pointer s') = target := by
  obtain ⟨n, hn, hhit⟩ := walk_reaches hf hab hk start
  obtain ⟨s₁, hdrag, hs₁⟩ := h.moves_reads start s fun v => do
    let (p, iterations) ← pursue name moveTo value target maxIterations 0 ⟨start, 1, none⟩ v
    return (⟨target, iterations, start - p.position⟩ : Convergence ℚ)
  obtain ⟨m, hm, s', hrun, hpos, hread⟩ :=
    pursue_of_walk h name (hn.trans hmax) 0 ⟨start, 1, none⟩ s₁ hs₁ hhit
  refine ⟨m, hm.trans hn, s', ?_, hread⟩
  refine Eq.trans hdrag ?_
  rw [run_bind_of_ok hrun, hpos, Nat.zero_add]
  rfl

/-- Four values to a pixel, the target read from 1.25 to 1.5: the pointer comes from 0 over 1, 2,
1.5 and 1 to 1.25. -/
theorem correct_converges_quarters :
    ∃ n ≤ 8, ∃ x : ℚ, (correct [] (fun x => (set x : Session ℚ Unit))
        (do return ⌊4 * (← get)⌋) 5 0 8).run.run 7 = (.ok ⟨5, n, 0 - x⟩, x) ∧ ⌊4 * x⌋ = 5 := by
  have hmono : Monotone fun x : ℚ => ⌊4 * x⌋ := fun x y hxy => Int.floor_le_floor (by linarith)
  have hab : ∀ x ∈ Set.Icc (5 / 4 : ℚ) (11 / 8), ⌊4 * x⌋ = 5 := by
    rintro x ⟨h₁, h₂⟩
    rw [Int.floor_eq_iff]
    constructor <;> push_cast <;> linarith
  have hd : ⌈distance (5 / 4) (11 / 8) 0⌉₊ = 2 := by
    rw [Nat.ceil_eq_iff (by norm_num)]
    norm_num [distance]
  have htracks : Tracks (fun x : ℚ => ⌊4 * x⌋) (fun x => (set x : Session ℚ Unit))
      (do return ⌊4 * (← get)⌋) id := ⟨fun x s => ⟨x, rfl, rfl⟩, fun s => ⟨s, rfl, rfl⟩⟩
  have hmax : ⌈distance (5 / 4) (11 / 8) 0⌉₊ + 2 * 3 ≤ 8 := by rw [hd]
  have h := correct_converges hmono htracks [] hab (k := 3) (by norm_num) 0 hmax 7
  rw [hd] at h
  exact h

end PlainSteps.Run
