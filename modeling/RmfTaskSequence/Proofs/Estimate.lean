/-
What an estimate says about time and battery, in both models.

# Duration

A successful estimate moves the input's time by exactly what
`invariant_duration` reports just before the call: the raw initial wait
in the simple model and in the unconfirmed live one, nothing in the
confirmed live one. Raw, in both: the
constructors clamp a negative wait to zero for the battery drain only
("Handle cases where duration is invalid"), and neither
`estimate_finish` nor `invariant_duration` applies the clamp, so a
negative wait moves the finish state back in time.

# Battery

With `drain_battery` off the battery block is the threshold test alone
(`drainAndCheck_of_not_drain`). It leaves the state of charge as it
is, but it still reads it and still rejects at or below
`threshold_soc`: two states that differ in the charge only, both set
and on the same side of the threshold, get the same answer, and of two
on opposite sides the one at or below it is turned down.
-/
import RmfTaskSequence.Live

namespace RmfTaskSequence.WaitForConfirmation

variable {F : Type}

/-- What an outcome says about time: a throw, `std::nullopt`, or an
estimate's finish time and `wait_until`. -/
def timing : Outcome F → Except BadOptionalAccess (Option (Option Int × Int))
  | .error e => .error e
  | .ok none => .ok none
  | .ok (some e) => .ok (some (e.finishState.time, e.waitUntil))

section Arith

variable [Sub F] [Zero F] [LT F] [LE F]
  [DecidableRel ((· < ·) : F → F → Prop)] [DecidableRel ((· ≤ ·) : F → F → Prop)]

-- ======================================================= duration

/-- The quick bound agrees with the estimate: in either model, a
successful `estimate_finish` on a timed state finishes exactly
`invariant_duration()` (read just before the call) after the input's
time. -/
theorem estimate_duration_agrees :
    (∀ (A : Simple.Model F) (state : State F) (t w : Int) (c : Constraints F) (e : Estimate F),
        state.time = some t → A.estimateFinish state w c = .ok (some e) →
          e.finishState.time = some (t + A.invariantDuration))
      ∧ ∀ (B : Live.Model F) (now stamp : Int) (state : State F) (t w : Int) (c : Constraints F)
          (e : Estimate F), state.time = some t →
            (B.estimateFinish now stamp state w c).2 = .ok (some e) →
              e.finishState.time = some (t + B.invariantDuration) := by
  constructor
  · intro A state t w c e hs h
    obtain ⟨-, t', ht', he⟩ := Simple.estimateFinish_eq_some h
    rw [hs, Option.some.injEq] at ht'
    rw [he, ht', Simple.Model.invariantDuration]
  · intro B now stamp state t w c e hs h
    obtain ⟨t', ht', he, -⟩ := Live.estimateFinish_eq_some h
    rw [hs, Option.some.injEq] at ht'
    rw [he, ht']

/-- A state at 7 ns under a 5 s wait: the simple model, and the live
model made at 0 and called at 1 s, estimate it as finishing at
5 s + 7 ns, one `invariant_duration` later; the live model confirmed by
its token estimates it as finishing at 7 ns, with `invariant_duration`
zero. -/
theorem estimate_duration_at_seven :
    ((Simple.makeModel (Description.make 5000000000 20000000000) (⟨some 0, some 50⟩ : State Int)
        ⟨none⟩).estimateFinish ⟨some 7, some 50⟩ 0 ⟨false, 20⟩
        = .ok (some ⟨⟨some 5000000007, some 50⟩, 0⟩)
      ∧ some (5000000007 : Int) = some (7 + (Simple.makeModel (Description.make 5000000000
          20000000000) (⟨some 0, some 50⟩ : State Int) ⟨none⟩).invariantDuration))
    ∧ (((Live.makeModel (Description.make 5000000000 20000000000) (⟨some 0, some 50⟩ : State Int)
          ⟨none⟩ "task" 0).estimateFinish 1000000000 1001000000 ⟨some 7, some 50⟩ 0
          ⟨false, 20⟩).2 = .ok (some ⟨⟨some 5000000007, some 50⟩, 0⟩)
      ∧ some (5000000007 : Int) = some (7 + (Live.makeModel (Description.make 5000000000
          20000000000) (⟨some 0, some 50⟩ : State Int) ⟨none⟩ "task" 0).invariantDuration))
    ∧ ((((Live.makeModel (Description.make 5000000000 20000000000) (⟨some 0, some 50⟩ : State Int)
          ⟨none⟩ "task" 0).onConfirmationReceived "task").estimateFinish 1000000000 1001000000
          ⟨some 7, some 50⟩ 0 ⟨false, 20⟩).2 = .ok (some ⟨⟨some 7, some 50⟩, 7⟩)
      ∧ some (7 : Int) = some (7 + ((Live.makeModel (Description.make 5000000000 20000000000)
          (⟨some 0, some 50⟩ : State Int) ⟨none⟩ "task" 0).onConfirmationReceived
            "task").invariantDuration)) :=
  ⟨⟨rfl, estimate_duration_agrees.1 _ ⟨some 7, some 50⟩ 7 0 ⟨false, 20⟩
      ⟨⟨some 5000000007, some 50⟩, 0⟩ rfl (by rfl)⟩,
    ⟨rfl, estimate_duration_agrees.2 _ 1000000000 1001000000 ⟨some 7, some 50⟩ 7 0 ⟨false, 20⟩
      ⟨⟨some 5000000007, some 50⟩, 0⟩ rfl (by rfl)⟩,
    ⟨rfl, estimate_duration_agrees.2 _ 1000000000 1001000000 ⟨some 7, some 50⟩ 7 0 ⟨false, 20⟩
      ⟨⟨some 7, some 50⟩, 7⟩ rfl (by rfl)⟩⟩

/-- The failing input of the clamped reading of a negative wait: with
`initial_wait_duration` at -5 s the constructor drains the battery for
0 s, but the simple estimate of a state at 100 s finishes at 95 s, and
both models report -5 s as their duration. -/
theorem negative_wait_not_clamped :
    (Simple.makeModel (Description.make (-5000000000) 20000000000) (⟨some 0, some 50⟩ : State Int)
        ⟨some ⟨fun x => x + 1⟩⟩).invariantBatteryDrain = 1
      ∧ (Simple.makeModel (Description.make (-5000000000) 20000000000)
          (⟨some 0, some 50⟩ : State Int) ⟨some ⟨fun x => x + 1⟩⟩).estimateFinish
          ⟨some 100000000000, some 50⟩ 0 ⟨false, 0⟩
        = .ok (some ⟨⟨some 95000000000, some 50⟩, 0⟩)
      ∧ (Simple.makeModel (Description.make (-5000000000) 20000000000)
          (⟨some 0, some 50⟩ : State Int) ⟨some ⟨fun x => x + 1⟩⟩).invariantDuration = -5000000000
      ∧ (Live.makeModel (Description.make (-5000000000) 20000000000) (⟨some 0, some 50⟩ : State Int)
          ⟨some ⟨fun x => x + 1⟩⟩ "task" 0).invariantDuration = -5000000000 :=
  ⟨rfl, rfl, rfl, rfl⟩

-- ======================================================== battery

/-- With `drain_battery` off, the charge does not steer an estimate as
long as it stays set and on one side of the threshold: in either model,
in any latch state, two states that differ in `battery_soc` only, both
above `threshold_soc` or both at or below it, get the same throw,
`std::nullopt` or finish time and `wait_until`, the live model ends in
the same state, and the charge comes back unchanged. -/
theorem battery_blind_of_not_drain (c : Constraints F) (hc : c.drainBattery = false)
    (s : State F) (b₁ b₂ : F) (h : b₁ ≤ c.thresholdSoc ↔ b₂ ≤ c.thresholdSoc) (w : Int) :
    (∀ A : Simple.Model F,
        timing (A.estimateFinish { s with batterySoc := some b₁ } w c)
            = timing (A.estimateFinish { s with batterySoc := some b₂ } w c)
          ∧ ∀ e, A.estimateFinish { s with batterySoc := some b₁ } w c = .ok (some e) →
              e.finishState.batterySoc = some b₁)
      ∧ ∀ (B : Live.Model F) (now stamp : Int),
          (B.estimateFinish now stamp { s with batterySoc := some b₁ } w c).1
              = (B.estimateFinish now stamp { s with batterySoc := some b₂ } w c).1
            ∧ timing (B.estimateFinish now stamp { s with batterySoc := some b₁ } w c).2
              = timing (B.estimateFinish now stamp { s with batterySoc := some b₂ } w c).2
            ∧ ∀ e, (B.estimateFinish now stamp { s with batterySoc := some b₁ } w c).2
                = .ok (some e) → e.finishState.batterySoc = some b₁ := by
  -- one side at a time; `h.symm` turns the test on `b₂` into the test on `b₁`
  by_cases h₁ : b₁ ≤ c.thresholdSoc
  all_goals
    have h₂ := h.symm
    constructor
    · intro A
      cases ht : s.time <;>
        simp [Simple.Model.estimateFinish, ht, drainAndCheck_of_not_drain _ _ hc, checkThreshold,
          h₁, h₂, timing]
    · intro B now stamp
      cases hr : B.confirmationReceived
      · by_cases hto : now - B.confirmationRequestTime > B.timeoutDuration
        · simp [Live.estimateFinish_of_timeout hr hto, timing]
        · cases ht : s.time <;>
            simp [Live.Model.estimateFinish, hr, hto, ht, drainAndCheck_of_not_drain _ _ hc,
              checkThreshold, h₁, h₂, timing]
      · cases ht : s.time <;>
          simp [Live.estimateFinish_of_confirmed hr, drainAndCheck_of_not_drain _ _ hc,
            checkThreshold, h₁, h₂, Live.finishAtTime, timing, ht]

/-- Drain off, threshold 20: charges 50 and 30, both above it, get the
same timing from the simple model, and so do charges 10 and 20, both at
or below it. -/
theorem battery_blind_at_fifty :
    timing ((Simple.makeModel (Description.make 5000000000 20000000000)
        (⟨some 0, some 50⟩ : State Int) ⟨none⟩).estimateFinish ⟨some 0, some 50⟩ 0 ⟨false, 20⟩)
      = timing ((Simple.makeModel (Description.make 5000000000 20000000000)
        (⟨some 0, some 50⟩ : State Int) ⟨none⟩).estimateFinish ⟨some 0, some 30⟩ 0 ⟨false, 20⟩)
    ∧ timing ((Simple.makeModel (Description.make 5000000000 20000000000)
        (⟨some 0, some 50⟩ : State Int) ⟨none⟩).estimateFinish ⟨some 0, some 10⟩ 0 ⟨false, 20⟩)
      = timing ((Simple.makeModel (Description.make 5000000000 20000000000)
        (⟨some 0, some 50⟩ : State Int) ⟨none⟩).estimateFinish ⟨some 0, some 20⟩ 0 ⟨false, 20⟩) :=
  ⟨((battery_blind_of_not_drain ⟨false, 20⟩ rfl ⟨some 0, none⟩ 50 30 (by decide) 0).1 _).1,
    ((battery_blind_of_not_drain ⟨false, 20⟩ rfl ⟨some 0, none⟩ 10 20 (by decide) 0).1 _).1⟩

/-- The threshold test runs with the drain off: three states that
differ in `battery_soc` only, under `drain_battery = false` and a
threshold of 20, get an estimate, `std::nullopt` and a throw. -/
theorem threshold_checked_without_drain :
    (Simple.makeModel (Description.make 5000000000 20000000000) (⟨some 0, some 50⟩ : State Int)
        ⟨none⟩).estimateFinish ⟨some 0, some 50⟩ 0 ⟨false, 20⟩
        = .ok (some ⟨⟨some 5000000000, some 50⟩, 0⟩)
      ∧ (Simple.makeModel (Description.make 5000000000 20000000000) (⟨some 0, some 50⟩ : State Int)
        ⟨none⟩).estimateFinish ⟨some 0, some 10⟩ 0 ⟨false, 20⟩ = .ok none
      ∧ (Simple.makeModel (Description.make 5000000000 20000000000) (⟨some 0, some 50⟩ : State Int)
        ⟨none⟩).estimateFinish ⟨some 0, none⟩ 0 ⟨false, 20⟩ = .error {} :=
  ⟨rfl, rfl, rfl⟩

end Arith

end RmfTaskSequence.WaitForConfirmation
