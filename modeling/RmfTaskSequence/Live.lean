/-
The live WaitForConfirmation of the ROS 2 source: the simple model's
four fields, and a one-way confirmation latch, the time of the last
confirmation request, the task's token and the publisher that
announces it; then the runs of such a model under scheduler calls and
subscription deliveries.

# Effects

`request_confirmation` publishes `_task_uuid` and stamps
`_confirmation_request_time` with `steady_clock::now()`. The publisher
is kept as the list of payloads it has published (`confirmationPub`),
so that what went out is part of the state. Logging is dropped, and so
are the node and the subscription handle: the subscription is the
`deliver` event below.

# Time

Only the constructor and `estimate_finish` read `steady_clock`. The
constructor reads it once, in its closing `request_confirmation`. A
call reads it up to twice: `now` for the elapsed time (line 155), then,
if it re-requests, `stamp` inside `request_confirmation` (line 128),
after the publish and the log. Both reads are inputs of the call; that
the clock never runs backwards is a hypothesis of the results that need
it (`clockFrom`, Timeout.lean).

# Runs

An `Event` is a contract call with its two clock reads, or one message
handed to `on_confirmation_received`. `Model.run` folds `Model.step`
over a list of events; `Model.answers` lists what the calls return, in
order. `call_fst` says once everything a call does to the model, and
the later proofs read their facts off it.
-/
import RmfTaskSequence.Simple

namespace RmfTaskSequence.WaitForConfirmation.Live

variable {F : Type}

/-- `WaitForConfirmation::Model` of the ROS 2 source. The fields it
shares with the simple model are the `toModel` part; the latch and the
request time are the two `mutable` members, and the publisher's log is
the effect of `_confirmation_pub`. -/
structure Model (F : Type) extends Simple.Model F where
  confirmationReceived : Bool
  confirmationRequestTime : Int
  taskUuid : String
  confirmationPub : List String

/-- `request_confirmation`: publish the token and stamp the request
time. -/
def Model.requestConfirmation (m : Model F) (now : Int) : Model F :=
  { m with
    confirmationPub := m.confirmationPub ++ [m.taskUuid]
    confirmationRequestTime := now }

/-- `on_confirmation_received`: latch on the model's own token, ignore
every other payload. -/
def Model.onConfirmationReceived (m : Model F) (data : String) : Model F :=
  if data = m.taskUuid then { m with confirmationReceived := true } else m

/-- `invariant_duration`: nothing left once confirmed, else the raw
initial wait. -/
def Model.invariantDuration (m : Model F) : Int :=
  if m.confirmationReceived then 0 else m.initialWaitDuration

/-- `return Estimate(state, state.time().value())` behind the battery
block: the confirmed branch finishes at the state's own time. -/
def finishAtTime : Except BadOptionalAccess (Option (State F)) → Outcome F
  | .error e => .error e
  | .ok none => .ok none
  | .ok (some s) =>
      match value s.time with
      | .error e => .error e
      | .ok t => .ok (some ⟨s, t⟩)

/-- What `finishAtTime` lets through is the block's state, waiting
until that state's own time. -/
theorem finishAtTime_eq_some {r : Except BadOptionalAccess (Option (State F))}
    {e : Estimate F} (h : finishAtTime r = .ok (some e)) :
    r = .ok (some e.finishState) ∧ e.finishState.time = some e.waitUntil := by
  rcases r with _ | _ | s
  · cases h
  · cases h
  · cases ht : s.time <;> simp [finishAtTime, ht] at h
    cases h
    exact ⟨rfl, ht⟩

@[simp] theorem requestConfirmation_toModel (m : Model F) (now : Int) :
    (m.requestConfirmation now).toModel = m.toModel := rfl

@[simp] theorem requestConfirmation_taskUuid (m : Model F) (now : Int) :
    (m.requestConfirmation now).taskUuid = m.taskUuid := rfl

@[simp] theorem requestConfirmation_confirmationReceived (m : Model F) (now : Int) :
    (m.requestConfirmation now).confirmationReceived = m.confirmationReceived := rfl

@[simp] theorem requestConfirmation_confirmationRequestTime (m : Model F) (now : Int) :
    (m.requestConfirmation now).confirmationRequestTime = now := rfl

@[simp] theorem requestConfirmation_confirmationPub (m : Model F) (now : Int) :
    (m.requestConfirmation now).confirmationPub = m.confirmationPub ++ [m.taskUuid] := rfl

/-- What happens to a live model: a contract call, with the clock's
value at the elapsed-time read (`now`) and at the re-request's stamp
(`stamp`), or one message from `/confirmation_received` handed to the
subscription's callback. -/
inductive Event (F : Type)
  | call (now stamp : Int) (q : Query F)
  | deliver (data : String)
deriving DecidableEq

/-- The query of a call; a delivery carries none. -/
def Event.query? : Event F → Option (Query F)
  | .call _ _ q => some q
  | .deliver _ => none

/-- The queries of a run, in order. -/
def queries (evs : List (Event F)) : List (Query F) := evs.filterMap Event.query?

@[simp] theorem onConfirmationReceived_toModel (m : Model F) (data : String) :
    (m.onConfirmationReceived data).toModel = m.toModel := by
  unfold Model.onConfirmationReceived; split <;> rfl

@[simp] theorem onConfirmationReceived_taskUuid (m : Model F) (data : String) :
    (m.onConfirmationReceived data).taskUuid = m.taskUuid := by
  unfold Model.onConfirmationReceived; split <;> rfl

@[simp] theorem onConfirmationReceived_confirmationPub (m : Model F) (data : String) :
    (m.onConfirmationReceived data).confirmationPub = m.confirmationPub := by
  unfold Model.onConfirmationReceived; split <;> rfl

@[simp] theorem onConfirmationReceived_confirmationRequestTime (m : Model F) (data : String) :
    (m.onConfirmationReceived data).confirmationRequestTime = m.confirmationRequestTime := by
  unfold Model.onConfirmationReceived; split <;> rfl

/-- The callback raises the latch on the model's own token and never
lowers it. -/
@[simp] theorem onConfirmationReceived_confirmationReceived (m : Model F) (data : String) :
    (m.onConfirmationReceived data).confirmationReceived
      = (m.confirmationReceived || decide (data = m.taskUuid)) := by
  unfold Model.onConfirmationReceived
  split <;> simp [*]

/-- A payload other than the token is discarded. -/
theorem onConfirmationReceived_of_ne {m : Model F} {data : String} (h : data ≠ m.taskUuid) :
    m.onConfirmationReceived data = m := by
  simp [Model.onConfirmationReceived, h]

section Arith

variable [Sub F] [Zero F] [LT F] [LE F]
  [DecidableRel ((· < ·) : F → F → Prop)] [DecidableRel ((· ≤ ·) : F → F → Prop)]

/-- The `Model` constructor at clock time `now`, with the token that
`generate_uuid()` drew: latch down, request time at the clock's epoch
until the body's closing `request_confirmation` stamps it. -/
def Model.new [ToSeconds F] (invariant_initial_state : State F)
    (initial_wait_duration timeout_duration : Int) (parameters : Parameters F)
    (task_uuid : String) (now : Int) : Model F :=
  Model.requestConfirmation
    { toModel := Simple.Model.new invariant_initial_state initial_wait_duration
        timeout_duration parameters
      confirmationReceived := false
      confirmationRequestTime := 0
      taskUuid := task_uuid
      confirmationPub := [] } now

/-- `estimate_finish`, with the clock at `now` when it computes the
elapsed time and at `stamp` when the re-request reads it. Unconfirmed:
fail past the timeout, else push the time one initial wait ahead,
re-request, run the battery block and finish at
`earliest_arrival_time`. Confirmed: the battery block alone, finishing
at the state's own time. -/
def Model.estimateFinish (m : Model F) (now stamp : Int) (state : State F)
    (earliest_arrival_time : Int) (constraints : Constraints F) : Model F × Outcome F :=
  let elapsed_time := now - m.confirmationRequestTime
  if !m.confirmationReceived then
    if elapsed_time > m.timeoutDuration then (m, .ok none)
    else
      match value state.time with
      | .error e => (m, .error e)
      | .ok t =>
          (m.requestConfirmation stamp,
            finishWith earliest_arrival_time
              (drainAndCheck constraints m.invariantBatteryDrain
                { state with time := some (t + m.initialWaitDuration) }))
  else
    (m, finishAtTime (drainAndCheck constraints m.invariantBatteryDrain state))

/-- A contract call with the clock's two reads. -/
def Model.call (m : Model F) (now stamp : Int) : Query F → Model F × Answer F
  | .estimateFinish state earliest_arrival_time constraints =>
      let r := m.estimateFinish now stamp state earliest_arrival_time constraints
      (r.1, .estimate r.2)
  | .invariantDuration => (m, .duration m.invariantDuration)
  | .invariantFinishState => (m, .finishState m.invariantFinishState)

/-- `Description::make_model`: a fresh node, a fresh token, and the
constructor's first request at `now`. -/
def makeModel [ToSeconds F] (d : Description) (invariant_initial_state : State F)
    (parameters : Parameters F) (task_uuid : String) (now : Int) : Model F :=
  Model.new invariant_initial_state d.initialWaitDuration d.timeoutDuration parameters
    task_uuid now

/-- Whether a call re-requests confirmation: an `estimate_finish`
that finds the latch down, the elapsed time within the timeout, and a
timed input state (an untimed one throws at `state.time().value()`,
before the request). -/
def Model.requests (m : Model F) (now : Int) : Query F → Bool
  | .estimateFinish state _ _ =>
      !m.confirmationReceived && !decide (now - m.confirmationRequestTime > m.timeoutDuration)
        && state.time.isSome
  | _ => false

-- ========================================================== spec

/-- Past the timeout, an unconfirmed model fails the call and changes
nothing. -/
theorem estimateFinish_of_timeout {m : Model F} {now : Int}
    (hr : m.confirmationReceived = false)
    (ht : now - m.confirmationRequestTime > m.timeoutDuration)
    (stamp : Int) (state : State F) (w : Int) (c : Constraints F) :
    m.estimateFinish now stamp state w c = (m, .ok none) := by
  simp [Model.estimateFinish, hr, ht]

/-- Within the timeout, an unconfirmed model re-requests, stamped at
the second read, and answers as the simple model does. -/
theorem estimateFinish_of_waiting {m : Model F} {now : Int}
    (hr : m.confirmationReceived = false)
    (ht : ¬ now - m.confirmationRequestTime > m.timeoutDuration) (stamp : Int)
    {state : State F} {t : Int} (hs : state.time = some t) (w : Int) (c : Constraints F) :
    m.estimateFinish now stamp state w c
      = (m.requestConfirmation stamp,
          finishWith w (drainAndCheck c m.invariantBatteryDrain
            { state with time := some (t + m.initialWaitDuration) })) := by
  simp [Model.estimateFinish, hr, ht, hs]

/-- Within the timeout, an untimed state throws before the request. -/
theorem estimateFinish_of_untimed {m : Model F} {now : Int}
    (hr : m.confirmationReceived = false)
    (ht : ¬ now - m.confirmationRequestTime > m.timeoutDuration) (stamp : Int)
    {state : State F} (hs : state.time = none) (w : Int) (c : Constraints F) :
    m.estimateFinish now stamp state w c = (m, .error {}) := by
  simp [Model.estimateFinish, hr, ht, hs]

/-- A confirmed model runs the battery block alone and changes
nothing. -/
theorem estimateFinish_of_confirmed {m : Model F} (hr : m.confirmationReceived = true)
    (now stamp : Int) (state : State F) (w : Int) (c : Constraints F) :
    m.estimateFinish now stamp state w c
      = (m, finishAtTime (drainAndCheck c m.invariantBatteryDrain state)) := by
  simp [Model.estimateFinish, hr]

/-- What a successful live estimate is made of: the input's time, one
`invariant_duration` later, and `earliest_arrival_time` as the wait
while unconfirmed, the finish time itself once confirmed. -/
theorem estimateFinish_eq_some {m : Model F} {now stamp : Int} {state : State F} {w : Int}
    {c : Constraints F} {e : Estimate F}
    (h : (m.estimateFinish now stamp state w c).2 = .ok (some e)) :
    ∃ t, state.time = some t ∧ e.finishState.time = some (t + m.invariantDuration)
      ∧ e.waitUntil = if m.confirmationReceived then t else w := by
  cases hr : m.confirmationReceived
  · by_cases ht : now - m.confirmationRequestTime > m.timeoutDuration
    · simp [estimateFinish_of_timeout hr ht] at h
    · cases hs : state.time with
      | none => simp [estimateFinish_of_untimed hr ht stamp hs] at h
      | some t =>
          rw [estimateFinish_of_waiting hr ht stamp hs] at h
          obtain ⟨hb, hw⟩ := finishWith_eq_some h
          exact ⟨t, rfl, by simp [drainAndCheck_time hb, Model.invariantDuration, hr], by simp [hw]⟩
  · rw [estimateFinish_of_confirmed hr] at h
    obtain ⟨hb, ht⟩ := finishAtTime_eq_some h
    have hs := drainAndCheck_time hb
    exact ⟨e.waitUntil, hs ▸ ht, by simp [Model.invariantDuration, hr, ht], by simp⟩

/-- Everything a call does to the model: re-request exactly when
`requests` says so, else nothing. -/
theorem call_fst (m : Model F) (now stamp : Int) (q : Query F) :
    (m.call now stamp q).1 = if m.requests now q then m.requestConfirmation stamp else m := by
  cases q with
  | estimateFinish state w c =>
      cases hr : m.confirmationReceived
      · by_cases ht : now - m.confirmationRequestTime > m.timeoutDuration
        · simp [Model.call, Model.requests, estimateFinish_of_timeout hr ht, hr, ht]
        · cases hs : state.time with
          | none =>
              simp [Model.call, Model.requests, estimateFinish_of_untimed hr ht stamp hs, hr, hs]
          | some t =>
              simp [Model.call, Model.requests, estimateFinish_of_waiting hr ht stamp hs, hr, ht,
                hs]
      · simp [Model.call, Model.requests, estimateFinish_of_confirmed hr, hr]
  | invariantDuration => rfl
  | invariantFinishState => rfl

-- ========================================================== runs

/-- One event's effect on the model. -/
def Model.step (m : Model F) : Event F → Model F
  | .call now stamp q => (m.call now stamp q).1
  | .deliver data => m.onConfirmationReceived data

/-- What one event answers: a call its reply, a delivery nothing. -/
def Model.reply (m : Model F) : Event F → Option (Answer F)
  | .call now stamp q => some (m.call now stamp q).2
  | .deliver _ => none

/-- The model after a run. -/
def Model.run (m : Model F) (evs : List (Event F)) : Model F := evs.foldl Model.step m

/-- What the calls of a run return, in order. -/
def Model.answers : Model F → List (Event F) → List (Answer F)
  | _, [] => []
  | m, e :: evs => (m.reply e).toList ++ (m.step e).answers evs

/-- Whether an event re-requests confirmation. -/
def Model.requestsOn (m : Model F) : Event F → Bool
  | .call now _ q => m.requests now q
  | .deliver _ => false

@[simp] theorem run_nil (m : Model F) : m.run [] = m := rfl

@[simp] theorem run_cons (m : Model F) (e : Event F) (evs : List (Event F)) :
    m.run (e :: evs) = (m.step e).run evs := rfl

theorem run_append (m : Model F) (evs evs' : List (Event F)) :
    m.run (evs ++ evs') = (m.run evs).run evs' :=
  List.foldl_append _ _ _ _

@[simp] theorem step_deliver (m : Model F) (data : String) :
    m.step (.deliver data) = m.onConfirmationReceived data := rfl

theorem step_call (m : Model F) (now stamp : Int) (q : Query F) :
    m.step (.call now stamp q) = if m.requests now q then m.requestConfirmation stamp else m :=
  call_fst m now stamp q

/-- A step never touches the configuration. -/
@[simp] theorem step_toModel (m : Model F) (e : Event F) : (m.step e).toModel = m.toModel := by
  cases e with
  | call now stamp q => rw [step_call]; split <;> rfl
  | deliver data => simp

/-- A step never touches the token. -/
@[simp] theorem step_taskUuid (m : Model F) (e : Event F) : (m.step e).taskUuid = m.taskUuid := by
  cases e with
  | call now stamp q => rw [step_call]; split <;> rfl
  | deliver data => simp

/-- Only a delivery of the token moves the latch, and only up. -/
theorem step_confirmationReceived (m : Model F) (e : Event F) :
    (m.step e).confirmationReceived = true
      ↔ m.confirmationReceived = true ∨ e = .deliver m.taskUuid := by
  cases e with
  | call now stamp q => rw [step_call]; split <;> simp
  | deliver data => simp

/-- A step publishes the token exactly when it re-requests. -/
theorem step_confirmationPub (m : Model F) (e : Event F) :
    (m.step e).confirmationPub
      = m.confirmationPub ++ if m.requestsOn e then [m.taskUuid] else [] := by
  cases e with
  | call now stamp q => rw [step_call]; split <;> simp [Model.requestsOn, *]
  | deliver data => simp [Model.requestsOn]

/-- A call restamps the request time, with its second read, exactly
when it re-requests; a delivery never does. -/
theorem step_confirmationRequestTime (m : Model F) (now stamp : Int) (q : Query F) :
    (m.step (.call now stamp q)).confirmationRequestTime
      = if m.requests now q then stamp else m.confirmationRequestTime := by
  rw [step_call]; split <;> rfl

@[simp] theorem run_toModel (m : Model F) (evs : List (Event F)) :
    (m.run evs).toModel = m.toModel := by
  induction evs generalizing m with
  | nil => rfl
  | cons e evs ih => simp [ih]

@[simp] theorem run_taskUuid (m : Model F) (evs : List (Event F)) :
    (m.run evs).taskUuid = m.taskUuid := by
  induction evs generalizing m with
  | nil => rfl
  | cons e evs ih => simp [ih]

end Arith

-- ================================================== construction

section Make

variable [Zero F] [ToSeconds F] (d : Description) (s₀ : State F) (p : Parameters F) (u : String)
  (t₀ : Int)

@[simp] theorem makeModel_toModel : (makeModel d s₀ p u t₀).toModel = Simple.makeModel d s₀ p :=
  rfl

@[simp] theorem makeModel_confirmationReceived :
    (makeModel d s₀ p u t₀).confirmationReceived = false := rfl

@[simp] theorem makeModel_confirmationRequestTime :
    (makeModel d s₀ p u t₀).confirmationRequestTime = t₀ := rfl

@[simp] theorem makeModel_taskUuid : (makeModel d s₀ p u t₀).taskUuid = u := rfl

@[simp] theorem makeModel_confirmationPub : (makeModel d s₀ p u t₀).confirmationPub = [u] := rfl

end Make

/-- `Description::generate_header`. -/
def generateHeader (d : Description) : Header :=
  ⟨"Waiting for Confirmation", "Waiting until confirmation is received or timeout occurs",
    d.initialWaitDuration⟩

end RmfTaskSequence.WaitForConfirmation.Live
