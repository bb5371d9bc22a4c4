/-
The confirmation latch and the token correlation. `_confirmation_received`
is written in one place only, `on_confirmation_received`, and only to
`true`, on an exact match of the payload with the model's token; the
token itself is `const`. So along any run the latch is a function of
the deliveries alone: up iff the token was delivered
(`run_confirmationReceived`), whatever the calls, their clock times and
the other payloads were.

# The confirmed phase

Every branch that reads the clock, the request time or the timeout sits
under `if (!_confirmation_received)`. A latched model therefore never
re-requests and no event changes it (`step_of_confirmed`), and it
answers each call by a function of its configuration alone
(`confirmedAnswer`): the timeout is not final, since a model that has
timed out answers through the confirmed branch once its token comes.
-/
import RmfTaskSequence.Live

namespace RmfTaskSequence.WaitForConfirmation.Live

variable {F : Type} [Sub F] [Zero F] [LT F] [LE F]
  [DecidableRel ((· < ·) : F → F → Prop)] [DecidableRel ((· ≤ ·) : F → F → Prop)]

/-- The latch after a run: up iff it was up before or the run
delivered the token. -/
theorem run_confirmationReceived (m : Model F) (evs : List (Event F)) :
    (m.run evs).confirmationReceived = true
      ↔ m.confirmationReceived = true ∨ Event.deliver m.taskUuid ∈ evs := by
  induction evs generalizing m with
  | nil => simp
  | cons e evs ih =>
      rw [run_cons, ih, step_confirmationReceived, step_taskUuid, List.mem_cons]
      constructor
      · rintro ((h | rfl) | h) <;> simp [*]
      · rintro (h | h | h) <;> simp [*]

/-- Latch and token correlation: along any run of a freshly made live
model, the latch is up exactly when the model's token was delivered;
and one message never latches two unlatched models with different
tokens. -/
theorem latch_iff_token_delivered [ToSeconds F] (d : Description) (s₀ : State F)
    (p : Parameters F) (u : String) (t₀ : Int) (evs : List (Event F)) :
    (((makeModel d s₀ p u t₀).run evs).confirmationReceived = true ↔ Event.deliver u ∈ evs)
      ∧ ∀ A B : Model F, A.taskUuid ≠ B.taskUuid → ∀ data : String,
          ¬ (A.confirmationReceived = false ∧ (A.onConfirmationReceived data).confirmationReceived
              ∧ B.confirmationReceived = false
              ∧ (B.onConfirmationReceived data).confirmationReceived) := by
  refine ⟨by simp [run_confirmationReceived], ?_⟩
  rintro A B hAB data ⟨hA, hA', hB, hB'⟩
  simp only [onConfirmationReceived_confirmationReceived, hA, hB, Bool.false_or,
    decide_eq_true_eq] at hA' hB'
  exact hAB (hA'.symm.trans hB')

/-- Two fresh models with tokens "a" and "b": the message "a" does not
latch both. -/
theorem latch_two_tokens :
    ¬ ((makeModel (Description.make 5000000000 20000000000) (⟨some 0, some 50⟩ : State Int) ⟨none⟩
          "a" 0).confirmationReceived = false
        ∧ ((makeModel (Description.make 5000000000 20000000000) (⟨some 0, some 50⟩ : State Int)
            ⟨none⟩ "a" 0).onConfirmationReceived "a").confirmationReceived
        ∧ (makeModel (Description.make 5000000000 20000000000) (⟨some 0, some 50⟩ : State Int)
            ⟨none⟩ "b" 0).confirmationReceived = false
        ∧ ((makeModel (Description.make 5000000000 20000000000) (⟨some 0, some 50⟩ : State Int)
            ⟨none⟩ "b" 0).onConfirmationReceived "a").confirmationReceived) :=
  (latch_iff_token_delivered (Description.make 5000000000 20000000000)
    (⟨some 0, some 50⟩ : State Int) ⟨none⟩ "a" 0 []).2 _ _ (by decide) "a"

-- ================================================ the confirmed phase

/-- The confirmed model's contract as a function of its configuration
alone, read off the confirmed branches of the source:
`estimate_finish` is the battery block on the input, finishing at the
input's own time; `invariant_duration` is zero; `invariant_finish_state`
the initial state. No clock time and no history enter it. -/
def confirmedAnswer (A : Simple.Model F) : Query F → Answer F
  | .estimateFinish state _ constraints =>
      .estimate (finishAtTime (drainAndCheck constraints A.invariantBatteryDrain state))
  | .invariantDuration => .duration 0
  | .invariantFinishState => .finishState A.invariantFinishState

variable {m : Model F}

/-- A latched model is a fixed point of every event: it re-requests
nothing, and its token delivered again changes nothing. -/
theorem step_of_confirmed (hr : m.confirmationReceived = true) (e : Event F) : m.step e = m := by
  cases e with
  | call now stamp q => cases q <;> simp [step_call, Model.requests, hr]
  | deliver data =>
      obtain ⟨A, b, r, u, pub⟩ := m
      cases hr
      simp only [step_deliver, Model.onConfirmationReceived]
      split <;> rfl

theorem run_of_confirmed (hr : m.confirmationReceived = true) (evs : List (Event F)) :
    m.run evs = m := by
  induction evs with
  | nil => rfl
  | cons e evs ih => rw [run_cons, step_of_confirmed hr, ih]

/-- A latched model answers each call by `confirmedAnswer`. -/
theorem reply_of_confirmed (hr : m.confirmationReceived = true) (e : Event F) :
    m.reply e = e.query?.map (confirmedAnswer m.toModel) := by
  cases e with
  | deliver data => rfl
  | call now stamp q =>
      cases q with
      | estimateFinish state w c =>
          simp [Model.reply, Model.call, estimateFinish_of_confirmed hr, Event.query?,
            confirmedAnswer]
      | invariantDuration =>
          simp [Model.reply, Model.call, Model.invariantDuration, hr, Event.query?,
            confirmedAnswer]
      | invariantFinishState => rfl

theorem answers_of_confirmed (hr : m.confirmationReceived = true) (evs : List (Event F)) :
    m.answers evs = (queries evs).map (confirmedAnswer m.toModel) := by
  induction evs with
  | nil => rfl
  | cons e evs ih =>
      rw [Model.answers, reply_of_confirmed hr, step_of_confirmed hr, ih]
      cases e <;> rfl

/-- A freshly made model whose token a run delivered is latched after
it. -/
theorem makeModel_run_confirmed [ToSeconds F] (d : Description) (s₀ : State F)
    (p : Parameters F) {u : String} (t₀ : Int) {pre : List (Event F)}
    (hd : Event.deliver u ∈ pre) : ((makeModel d s₀ p u t₀).run pre).confirmationReceived = true :=
  (run_confirmationReceived _ pre).2 (.inr (by simpa using hd))

/-- What a confirmed `estimate_finish` lets through finishes at its
input's own time and waits until that time. -/
theorem finishAtTime_drainAndCheck_eq_some {c : Constraints F} {drain : F} {s : State F}
    {e : Estimate F} (h : finishAtTime (drainAndCheck c drain s) = .ok (some e)) :
    e.finishState.time = s.time ∧ e.finishState.time = some e.waitUntil := by
  obtain ⟨hb, ht⟩ := finishAtTime_eq_some h
  exact ⟨drainAndCheck_time hb, ht⟩

/-- Once its token has come, the event is complete: an
`estimate_finish` re-requests nothing and leaves the model as it is,
and a successful one finishes at its input's own time, with
`wait_until` that same time. -/
theorem confirmed_finishes_at_state_time [ToSeconds F] (d : Description) (s₀ : State F)
    (p : Parameters F) (u : String) (t₀ : Int) (pre : List (Event F))
    (hd : Event.deliver u ∈ pre) (now stamp : Int) (state : State F) (w : Int)
    (c : Constraints F) :
    ((makeModel d s₀ p u t₀).run pre).step (.call now stamp (.estimateFinish state w c))
        = (makeModel d s₀ p u t₀).run pre
      ∧ ∀ e, (((makeModel d s₀ p u t₀).run pre).estimateFinish now stamp state w c).2
            = .ok (some e) →
          e.finishState.time = state.time ∧ e.finishState.time = some e.waitUntil := by
  have hr := makeModel_run_confirmed d s₀ p t₀ hd
  refine ⟨step_of_confirmed hr _, fun e he => ?_⟩
  rw [estimateFinish_of_confirmed hr] at he
  exact finishAtTime_drainAndCheck_eq_some he

/-- Made at 0 and confirmed by its token, a model estimates a state at
7 ns as finishing at 7 ns and waiting until 7 ns, and publishes
nothing more. -/
theorem confirmed_finishes_at_seven :
    (((makeModel (Description.make 5000000000 20000000000) (⟨some 0, some 50⟩ : State Int) ⟨none⟩
        "task" 0).run [.deliver "task"]).estimateFinish 1000000000 1001000000 ⟨some 7, some 50⟩ 0
          ⟨false, 20⟩).2 = .ok (some ⟨⟨some 7, some 50⟩, 7⟩)
      ∧ ((makeModel (Description.make 5000000000 20000000000) (⟨some 0, some 50⟩ : State Int)
          ⟨none⟩ "task" 0).run [.deliver "task"]).step
          (.call 1000000000 1001000000 (.estimateFinish ⟨some 7, some 50⟩ 0 ⟨false, 20⟩))
        = (makeModel (Description.make 5000000000 20000000000) (⟨some 0, some 50⟩ : State Int)
          ⟨none⟩ "task" 0).run [.deliver "task"] :=
  ⟨rfl, (confirmed_finishes_at_state_time (Description.make 5000000000 20000000000)
    (⟨some 0, some 50⟩ : State Int) ⟨none⟩ "task" 0 [.deliver "task"] (by decide) 1000000000
    1001000000 ⟨some 7, some 50⟩ 0 ⟨false, 20⟩).1⟩

/-- After the token: once a message carrying a freshly made model's
token has been delivered, whatever came before it (calls that timed out
included), no later event changes the model, and every later call is
answered by `confirmedAnswer` of the configuration the description,
the initial state and the parameters give. -/
theorem answers_after_token [ToSeconds F] (d : Description) (s₀ : State F) (p : Parameters F)
    (u : String) (t₀ : Int) (pre post : List (Event F)) (hd : Event.deliver u ∈ pre) :
    (makeModel d s₀ p u t₀).run (pre ++ post) = (makeModel d s₀ p u t₀).run pre
      ∧ ((makeModel d s₀ p u t₀).run pre).answers post
        = (queries post).map (confirmedAnswer (Simple.makeModel d s₀ p)) := by
  have hr := makeModel_run_confirmed d s₀ p t₀ hd
  refine ⟨by rw [run_append, run_of_confirmed hr], ?_⟩
  rw [answers_of_confirmed hr, run_toModel, makeModel_toModel]

/-- Made at 0 with a 20 s timeout, a model first polled at 30 s fails
that call; then its token is delivered, and a poll at 40 s gets an
estimate finishing at the input's own time. -/
theorem answers_after_late_token :
    (makeModel (Description.make 5000000000 20000000000) (⟨some 0, some 50⟩ : State Int) ⟨none⟩
        "task" 0).answers
        [.call 30000000000 30001000000 (.estimateFinish ⟨some 0, some 50⟩ 0 ⟨false, 0⟩),
          .deliver "task"]
        = [.estimate (.ok none)]
      ∧ ((makeModel (Description.make 5000000000 20000000000) (⟨some 0, some 50⟩ : State Int)
          ⟨none⟩ "task" 0).run
          [.call 30000000000 30001000000 (.estimateFinish ⟨some 0, some 50⟩ 0 ⟨false, 0⟩),
            .deliver "task"]).answers
          [.call 40000000000 40001000000 (.estimateFinish ⟨some 7, some 50⟩ 0 ⟨false, 0⟩)]
        = [.estimate (.ok (some ⟨⟨some 7, some 50⟩, 7⟩))] :=
  ⟨rfl, ((answers_after_token (Description.make 5000000000 20000000000)
    (⟨some 0, some 50⟩ : State Int) ⟨none⟩ "task" 0
    [.call 30000000000 30001000000 (.estimateFinish ⟨some 0, some 50⟩ 0 ⟨false, 0⟩),
      .deliver "task"]
    [.call 40000000000 40001000000 (.estimateFinish ⟨some 7, some 50⟩ 0 ⟨false, 0⟩)]
    (by decide)).2).trans rfl⟩

end RmfTaskSequence.WaitForConfirmation.Live
