/-
The simplified WaitForConfirmation of `WaitForConfirmation.cpp`: a
`Model` fixed at construction that always extends the wait by one
interval and never confirms. Its `_timeout_duration` is stored and
never read. The live model (Live.lean) keeps these four fields and adds
the confirmation machinery; Refinement.lean shows that, until it
confirms or times out, the live model answers as this one does.

Its spec lemma, `estimateFinish_eq_some`, says all a successful
estimate is: the input with its time pushed one raw initial wait ahead,
its battery through the block, and `earliest_arrival_time` as the wait.
-/
import RmfTaskSequence.Description

namespace RmfTaskSequence.WaitForConfirmation.Simple

variable {F : Type}

/-- `WaitForConfirmation::Model` of `WaitForConfirmation.cpp`: every
field is set by the constructor and never changes. -/
structure Model (F : Type) where
  invariantFinishState : State F
  invariantBatteryDrain : F
  initialWaitDuration : Int
  timeoutDuration : Int

/-- `invariant_duration`: the raw initial wait. -/
def Model.invariantDuration (m : Model F) : Int := m.initialWaitDuration

section Arith

variable [Sub F] [Zero F] [LT F] [LE F]
  [DecidableRel ((· < ·) : F → F → Prop)] [DecidableRel ((· ≤ ·) : F → F → Prop)]

/-- The `Model` constructor: the drain is computed once, from the
clamped initial wait. -/
def Model.new [ToSeconds F] (invariant_initial_state : State F)
    (initial_wait_duration timeout_duration : Int) (parameters : Parameters F) :
    Model F where
  invariantFinishState := invariant_initial_state
  invariantBatteryDrain := batteryDrain parameters initial_wait_duration
  initialWaitDuration := initial_wait_duration
  timeoutDuration := timeout_duration

/-- `estimate_finish`: push the state's time one initial wait ahead,
run the battery block, finish at `earliest_arrival_time`. -/
def Model.estimateFinish (m : Model F) (state : State F) (earliest_arrival_time : Int)
    (constraints : Constraints F) : Outcome F :=
  match value state.time with
  | .error e => .error e
  | .ok t =>
      finishWith earliest_arrival_time
        (drainAndCheck constraints m.invariantBatteryDrain
          { state with time := some (t + m.initialWaitDuration) })

/-- The contract's dispatch: the simple model answers every call and
stays as it is. -/
def Model.answer (m : Model F) : Query F → Answer F
  | .estimateFinish state earliest_arrival_time constraints =>
      .estimate (m.estimateFinish state earliest_arrival_time constraints)
  | .invariantDuration => .duration m.invariantDuration
  | .invariantFinishState => .finishState m.invariantFinishState

/-- `Description::make_model`. -/
def makeModel [ToSeconds F] (d : Description) (invariant_initial_state : State F)
    (parameters : Parameters F) : Model F :=
  Model.new invariant_initial_state d.initialWaitDuration d.timeoutDuration parameters

-- ============================================================ spec

/-- A timed state goes straight to the battery block. -/
theorem estimateFinish_of_time (m : Model F) {state : State F} {t : Int}
    (ht : state.time = some t) (w : Int) (c : Constraints F) :
    m.estimateFinish state w c
      = finishWith w (drainAndCheck c m.invariantBatteryDrain
          { state with time := some (t + m.initialWaitDuration) }) := by
  simp [Model.estimateFinish, ht]

/-- What a successful simple estimate is made of. -/
theorem estimateFinish_eq_some {m : Model F} {state : State F} {w : Int}
    {c : Constraints F} {e : Estimate F} (h : m.estimateFinish state w c = .ok (some e)) :
    e.waitUntil = w ∧ ∃ t, state.time = some t ∧
      e.finishState.time = some (t + m.initialWaitDuration) := by
  cases ht : state.time with
  | none => simp [Model.estimateFinish, ht] at h
  | some t =>
      rw [estimateFinish_of_time m ht] at h
      obtain ⟨hb, hw⟩ := finishWith_eq_some h
      exact ⟨hw, t, rfl, drainAndCheck_time hb⟩

end Arith

/-- `Description::generate_header`: a fixed title and detail, and the
configured initial wait as the duration estimate. -/
def generateHeader (d : Description) : Header :=
  ⟨"Waiting", "Waiting for confirmation", d.initialWaitDuration⟩

end RmfTaskSequence.WaitForConfirmation.Simple
