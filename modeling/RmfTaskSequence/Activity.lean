/-
The `rmf_task` vocabulary the WaitForConfirmation event is written
against: the task `State` it advances, the `Estimate` it returns, the
`Constraints` and `Parameters` it reads, and the operations of the
`Activity::Model` contract the scheduler calls. Only what the event
reads or writes is kept: a `State` is its time and its battery state of
charge, `Constraints` the drain flag and the threshold, `Parameters` the
ambient power sink.

# Numbers

`rmf_traffic::Duration` and `rmf_traffic::Time` are `std::chrono`
nanosecond counts over `int64`; every duration and every time point
below is that count as an `Int`. Signed overflow is undefined behaviour
in C++, so every defined execution computes what `Int` computes.

The state of charge is a `double`. The event only subtracts and
compares it, so it is an arbitrary scalar `F` with a subtraction, a
zero and the two comparisons, decided, and no laws at all: nothing
proved about the event uses an ordering law of `F`, so every result
holds for IEEE doubles, NaN included.

# Exceptions

`std::optional::value` throws `std::bad_optional_access` on an empty
optional and nothing in the event catches it, so an operation that
reads an optional returns `Except BadOptionalAccess`.
-/
import Mathlib.Algebra.Ring.Int.Defs

namespace RmfTaskSequence

/-- `rmf_traffic::time::to_seconds`, into the battery scalar. -/
class ToSeconds (F : Type) where
  toSeconds : Int → F

/-- The integers as a battery scalar, so that the model runs on
concrete inputs. It rounds `to_seconds` down to whole seconds, so it
agrees with the code's `double` on whole-second durations only (1.5 s
counts as 1 s); the concrete runs here drain nothing or drain over
whole seconds, and every general result holds for any scalar. -/
instance : ToSeconds Int where
  toSeconds d := d / 1000000000

-- ============================================================ the data

/-- `std::bad_optional_access`. -/
structure BadOptionalAccess where
deriving DecidableEq, Repr

/-- `std::optional::value`: the held value, or a throw. -/
def value {α : Type} : Option α → Except BadOptionalAccess α
  | some a => .ok a
  | none => .error {}

@[simp] theorem value_some {α : Type} (a : α) : value (some a) = .ok a := rfl

@[simp] theorem value_none {α : Type} : value (none : Option α) = .error {} := rfl

/-- `rmf_task::State`, cut to the two components the event touches,
`CurrentTime` and `CurrentBatterySoC`; each is unset when not
tracked. -/
structure State (F : Type) where
  time : Option Int
  batterySoc : Option F
deriving DecidableEq, Repr

/-- `rmf_task::Estimate`: the state the event finishes in, and the time
the agent waits until. -/
structure Estimate (F : Type) where
  finishState : State F
  waitUntil : Int
deriving DecidableEq, Repr

/-- What `estimate_finish` comes back with: an estimate, `std::nullopt`
for an infeasible candidate, or an escaped `bad_optional_access`. -/
abbrev Outcome (F : Type) := Except BadOptionalAccess (Option (Estimate F))

/-- `rmf_task::Constraints`, cut to `drain_battery` and
`threshold_soc`. -/
structure Constraints (F : Type) where
  drainBattery : Bool
  thresholdSoc : F
deriving DecidableEq, Repr

/-- The one operation of `rmf_battery::DevicePowerSink` the event calls:
the change in charge over a number of seconds. -/
structure AmbientSink (F : Type) where
  computeChangeInCharge : F → F

/-- `rmf_task::Parameters`, cut to `ambient_sink()`. -/
structure Parameters (F : Type) where
  ambientSink : Option (AmbientSink F)

/-- `rmf_task::Header`: category, detail, original duration estimate. -/
structure Header where
  category : String
  detail : String
  originalDurationEstimate : Int
deriving DecidableEq, Repr

-- ======================================================== the contract

/-- A call of the `Activity::Model` contract. The travel estimator is
unnamed in both sources and never read, so it is not carried. -/
inductive Query (F : Type)
  | estimateFinish (state : State F) (earliestArrivalTime : Int)
      (constraints : Constraints F)
  | invariantDuration
  | invariantFinishState
deriving DecidableEq

/-- What a call of the contract returns. -/
inductive Answer (F : Type)
  | estimate (outcome : Outcome F)
  | duration (d : Int)
  | finishState (state : State F)

end RmfTaskSequence
