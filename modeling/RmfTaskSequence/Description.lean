/-
What the two WaitForConfirmation sources share word for word: the
`Description` (its pimpl holds the two durations, read by getters and
replaced by chaining setters), the drain the two `Model` constructors
compute from the parameters, and the battery block that ends every
successful path of both `estimate_finish` bodies.

# The battery block

Written out three times in the sources (the simple `estimate_finish`,
and the unconfirmed and confirmed branches of the live one), always as

    if (constraints.drain_battery()) {
      new_battery_soc = state.battery_soc().value() - _invariant_battery_drain;
      if (new_battery_soc < 0.0) return std::nullopt;
      state.battery_soc(new_battery_soc);
    }
    if (state.battery_soc().value() <= constraints.threshold_soc())
      return std::nullopt;

It is `drainAndCheck` here, once, returning the updated state or the
`std::nullopt` verdict; each caller wraps the state into its own
`Estimate`. The threshold test sits outside the `drain_battery` guard,
so it runs, and reads the state of charge, on every call
(`drainAndCheck_of_not_drain`).
-/
import RmfTaskSequence.Activity

namespace RmfTaskSequence.WaitForConfirmation

variable {F : Type}

-- ======================================================= the template

/-- `WaitForConfirmation::Description`, through its `Implementation`:
the two durations, neither checked. -/
structure Description where
  initialWaitDuration : Int
  timeoutDuration : Int
deriving DecidableEq, Repr

/-- `Description::make`, forwarding to the constructor. -/
def Description.make (initial_wait_duration timeout_duration : Int) :
    Description :=
  ⟨initial_wait_duration, timeout_duration⟩

/-- The setter `initial_wait_duration(new_initial_wait_duration)`. -/
def Description.setInitialWaitDuration (d : Description)
    (new_initial_wait_duration : Int) : Description :=
  { d with initialWaitDuration := new_initial_wait_duration }

/-- The setter `timeout_duration(new_timeout_duration)`. -/
def Description.setTimeoutDuration (d : Description)
    (new_timeout_duration : Int) : Description :=
  { d with timeoutDuration := new_timeout_duration }

-- ===================================================== the estimate

/-- `return Estimate(state, wait_until)` behind the battery block. -/
def finishWith (wait_until : Int) :
    Except BadOptionalAccess (Option (State F)) → Outcome F
  | .error e => .error e
  | .ok none => .ok none
  | .ok (some s) => .ok (some ⟨s, wait_until⟩)

@[simp] theorem finishWith_error (w : Int) (e : BadOptionalAccess) :
    finishWith w (.error e : Except _ (Option (State F))) = .error e := rfl

@[simp] theorem finishWith_none (w : Int) :
    finishWith w (.ok none : Except _ (Option (State F))) = .ok none := rfl

@[simp] theorem finishWith_some (w : Int) (s : State F) :
    finishWith w (.ok (some s)) = .ok (some ⟨s, w⟩) := rfl

/-- What `finishWith` lets through is the block's state, waiting until
the given time. -/
theorem finishWith_eq_some {w : Int} {r : Except BadOptionalAccess (Option (State F))}
    {e : Estimate F} (h : finishWith w r = .ok (some e)) :
    r = .ok (some e.finishState) ∧ e.waitUntil = w := by
  rcases r with _ | _ | s <;> cases h
  exact ⟨rfl, rfl⟩

-- ================================================ the threshold test

section Threshold

variable [LE F] [DecidableRel ((· ≤ ·) : F → F → Prop)]

/-- The threshold test: reject at or below `threshold_soc`. -/
def checkThreshold (constraints : Constraints F) (state : State F) :
    Except BadOptionalAccess (Option (State F)) :=
  match value state.batterySoc with
  | .error e => .error e
  | .ok soc => if soc ≤ constraints.thresholdSoc then .ok none else .ok (some state)

/-- The threshold test keeps the state it passes. -/
theorem checkThreshold_eq_some {c : Constraints F} {s s' : State F}
    (h : checkThreshold c s = .ok (some s')) : s' = s := by
  unfold checkThreshold at h
  split at h
  · cases h
  · split at h <;> cases h
    rfl

end Threshold

-- ====================================================== the drain

section Arith

variable [Sub F] [Zero F] [LT F] [LE F]
  [DecidableRel ((· < ·) : F → F → Prop)] [DecidableRel ((· ≤ ·) : F → F → Prop)]

/-- The drain both `Model` constructors compute once: the ambient
sink's change in charge over the initial wait, clamped at zero first
("Handle cases where duration is invalid"), or zero without a sink. -/
def batteryDrain [ToSeconds F] (parameters : Parameters F)
    (initial_wait_duration : Int) : F :=
  match parameters.ambientSink with
  | some sink =>
      let duration := if initial_wait_duration < 0 then 0 else initial_wait_duration
      sink.computeChangeInCharge (ToSeconds.toSeconds duration)
  | none => 0

-- ================================================ the battery block

/-- The battery block: drain one interval when the constraints ask for
it, rejecting a negative charge, then the threshold test. -/
def drainAndCheck (constraints : Constraints F) (drain : F) (state : State F) :
    Except BadOptionalAccess (Option (State F)) :=
  if constraints.drainBattery then
    match value state.batterySoc with
    | .error e => .error e
    | .ok soc =>
        let new_battery_soc := soc - drain
        if new_battery_soc < 0 then .ok none
        else checkThreshold constraints { state with batterySoc := some new_battery_soc }
  else checkThreshold constraints state

-- ================================================== block lemmas

/-- The battery block touches the state of charge only: whatever it
passes has the time it was given. -/
theorem drainAndCheck_time {c : Constraints F} {drain : F} {s s' : State F}
    (h : drainAndCheck c drain s = .ok (some s')) : s'.time = s.time := by
  unfold drainAndCheck at h
  split at h
  · split at h
    · cases h
    · dsimp only at h
      split at h
      · cases h
      · rw [checkThreshold_eq_some h]
  · rw [checkThreshold_eq_some h]

/-- With `drain_battery` off the block is the threshold test alone. -/
theorem drainAndCheck_of_not_drain {c : Constraints F} (drain : F) (s : State F)
    (h : c.drainBattery = false) : drainAndCheck c drain s = checkThreshold c s := by
  simp [drainAndCheck, h]

end Arith

end RmfTaskSequence.WaitForConfirmation
