/-
The live model refines the simple one. Both constructors compute the
same four fields from the same description, initial state and
parameters (`makeModel_toModel`), and no event changes them
(`run_toModel`). With the latch down and within the timeout, the live
`estimate_finish` is the simple one with a re-request on the side, and
`invariant_duration` reads the same raw wait.

So the relation `Simulates` (the live model carries the simple model's
fields, latch down) is kept by every event but the delivery of the
token (`step_simulates`), every call on it that does not time out
answers as the simple model does (`reply_of_simulates`), and by
induction so does every run (`answers_of_simulates`).

A live model polled within its timeout never times out (Timeout.lean),
so it answers as the simple model for as long as it is polled: the
simple model is the live one's behaviour until the confirmation
comes.
-/
import RmfTaskSequence.Proofs.Latch
import RmfTaskSequence.Proofs.Timeout

namespace RmfTaskSequence.WaitForConfirmation.Live

variable {F : Type} [Sub F] [Zero F] [LT F] [LE F]
  [DecidableRel ((· < ·) : F → F → Prop)] [DecidableRel ((· ≤ ·) : F → F → Prop)]

/-- The simulation relation: the live model carries the simple model's
fields and its latch is down. -/
def Simulates (A : Simple.Model F) (B : Model F) : Prop :=
  B.toModel = A ∧ B.confirmationReceived = false

variable {A : Simple.Model F} {B : Model F}

/-- On the relation, an `estimate_finish` within the timeout answers
as the simple model's. -/
theorem estimateFinish_of_simulates (h : Simulates A B) {now : Int}
    (ht : ¬ now - B.confirmationRequestTime > B.timeoutDuration) (stamp : Int) (state : State F)
    (w : Int) (c : Constraints F) :
    (B.estimateFinish now stamp state w c).2 = A.estimateFinish state w c := by
  obtain ⟨rfl, hr⟩ := h
  cases hs : state.time with
  | none => simp [estimateFinish_of_untimed hr ht stamp hs, Simple.Model.estimateFinish, hs]
  | some t => simp [estimateFinish_of_waiting hr ht stamp hs, Simple.estimateFinish_of_time _ hs]

/-- On the relation, an event that does not time out answers as the
simple model answers its query. -/
theorem reply_of_simulates (h : Simulates A B) {e : Event F} (ht : B.timesOutOn e = false) :
    B.reply e = e.query?.map A.answer := by
  cases e with
  | deliver data => rfl
  | call now stamp q =>
      cases q with
      | estimateFinish state w c =>
          simp only [Model.timesOutOn, decide_eq_false_iff_not] at ht
          simp [Model.reply, Model.call, Event.query?, Simple.Model.answer,
            estimateFinish_of_simulates h ht]
      | invariantDuration =>
          obtain ⟨rfl, hr⟩ := h
          simp [Model.reply, Model.call, Event.query?, Simple.Model.answer,
            Model.invariantDuration, Simple.Model.invariantDuration, hr]
      | invariantFinishState =>
          obtain ⟨rfl, hr⟩ := h
          rfl

/-- Every event but the token's delivery keeps the relation. -/
theorem step_simulates (h : Simulates A B) {e : Event F} (hd : e ≠ .deliver B.taskUuid) :
    Simulates A (B.step e) := by
  refine ⟨(step_toModel B e).trans h.1, ?_⟩
  cases hs : (B.step e).confirmationReceived
  · rfl
  · rcases (step_confirmationReceived B e).1 hs with h' | h'
    · simp [h.2] at h'
    · exact absurd h' hd

/-- A run without the token keeps the relation. -/
theorem run_simulates (h : Simulates A B) {evs : List (Event F)}
    (hd : Event.deliver B.taskUuid ∉ evs) : Simulates A (B.run evs) := by
  induction evs generalizing B with
  | nil => exact h
  | cons e evs ih =>
      exact ih (step_simulates h fun he => hd (he ▸ .head _))
        (by rw [step_taskUuid]; exact fun h' => hd (.tail _ h'))

/-- On the relation, a run without the token and without a timeout
answers, call for call, as the simple model does. -/
theorem answers_of_simulates (h : Simulates A B) {evs : List (Event F)}
    (hd : Event.deliver B.taskUuid ∉ evs) (ht : B.neverTimesOut evs) :
    B.answers evs = (queries evs).map A.answer := by
  induction evs generalizing B with
  | nil => rfl
  | cons e evs ih =>
      simp only [Model.neverTimesOut, Bool.and_eq_true, Bool.not_eq_true'] at ht
      have hne : e ≠ .deliver B.taskUuid := fun he => hd (he ▸ .head _)
      rw [Model.answers, reply_of_simulates h ht.1,
        ih (step_simulates h hne) (by rw [step_taskUuid]; exact fun h' => hd (.tail _ h')) ht.2]
      cases e <;> rfl

/-- Refinement: made from the same description, initial state and
parameters, and sent no message carrying its token, the live model
answers every call of a run exactly as the simple model does as long as
none of its `estimate_finish` calls finds the elapsed time past the
timeout; and at every point of the run, timeouts or not, its
`invariant_duration` and `invariant_finish_state` are the simple
model's. -/
theorem live_refines_simple [ToSeconds F] (d : Description) (s₀ : State F) (p : Parameters F)
    (u : String) (t₀ : Int) (evs : List (Event F)) (hd : Event.deliver u ∉ evs) :
    ((makeModel d s₀ p u t₀).neverTimesOut evs →
        (makeModel d s₀ p u t₀).answers evs = (queries evs).map (Simple.makeModel d s₀ p).answer)
      ∧ ∀ pre post, evs = pre ++ post →
          ((makeModel d s₀ p u t₀).run pre).invariantDuration
              = (Simple.makeModel d s₀ p).invariantDuration
            ∧ ((makeModel d s₀ p u t₀).run pre).invariantFinishState
              = (Simple.makeModel d s₀ p).invariantFinishState := by
  have h₀ : Simulates (Simple.makeModel d s₀ p) (makeModel d s₀ p u t₀) := ⟨rfl, rfl⟩
  refine ⟨answers_of_simulates h₀ (by simpa using hd), ?_⟩
  rintro pre post rfl
  have hr := (run_simulates h₀ fun h => hd (List.mem_append_left post h)).2
  simp [Model.invariantDuration, Simple.Model.invariantDuration, hr]

/-- A short run of a model made at 0: an estimate at 1 s (stamping
1 ms later), a foreign payload, and a duration query at 2 s, answered
as by the simple model. -/
theorem live_refines_simple_short_run :
    (makeModel (Description.make 5000000000 20000000000) (⟨some 0, some 50⟩ : State Int) ⟨none⟩
        "task" 0).answers
        [.call 1000000000 1001000000 (.estimateFinish ⟨some 0, some 50⟩ 0 ⟨false, 20⟩),
          .deliver "other", .call 2000000000 2000000000 .invariantDuration]
      = (queries [.call 1000000000 1001000000 (.estimateFinish ⟨some 0, some 50⟩ 0 ⟨false, 20⟩),
            .deliver "other", .call 2000000000 2000000000 .invariantDuration]).map
          (Simple.makeModel (Description.make 5000000000 20000000000)
            (⟨some 0, some 50⟩ : State Int) ⟨none⟩).answer :=
  (live_refines_simple (Description.make 5000000000 20000000000) (⟨some 0, some 50⟩ : State Int)
    ⟨none⟩ "task" 0
    [.call 1000000000 1001000000 (.estimateFinish ⟨some 0, some 50⟩ 0 ⟨false, 20⟩),
      .deliver "other", .call 2000000000 2000000000 .invariantDuration] (by decide)).1 rfl

/-- Polled within its timeout with timed states, and never sent its
token, a freshly made live model answers every call of the run as the
simple model does, however long the run goes on. -/
theorem answers_of_pollsWithin [ToSeconds F] (d : Description) (s₀ : State F)
    (p : Parameters F) (u : String) (t₀ : Int) {evs : List (Event F)}
    (hd : Event.deliver u ∉ evs) (hp : pollsWithin d.timeoutDuration t₀ evs) :
    (makeModel d s₀ p u t₀).answers evs = (queries evs).map (Simple.makeModel d s₀ p).answer :=
  answers_of_simulates ⟨rfl, rfl⟩ hd (neverTimesOut_of_pollsWithin rfl hd hp)

/-- Made at 0 with a 20 s timeout and polled every 10 s (each poll
stamping 1 ms after its first read), a model still answers as the
simple model at 30 s. -/
theorem answers_polled_to_thirty :
    (makeModel (Description.make 5000000000 20000000000) (⟨some 0, some 50⟩ : State Int) ⟨none⟩
        "task" 0).answers
        [.call 10000000000 10001000000 (.estimateFinish ⟨some 0, some 50⟩ 0 ⟨false, 20⟩),
          .call 20000000000 20001000000 (.estimateFinish ⟨some 0, some 50⟩ 0 ⟨false, 20⟩),
          .call 30000000000 30001000000 (.estimateFinish ⟨some 0, some 50⟩ 0 ⟨false, 20⟩)]
      = (queries
          [.call 10000000000 10001000000 (.estimateFinish ⟨some 0, some 50⟩ 0 ⟨false, 20⟩),
            .call 20000000000 20001000000 (.estimateFinish ⟨some 0, some 50⟩ 0 ⟨false, 20⟩),
            .call 30000000000 30001000000 (.estimateFinish ⟨some 0, some 50⟩ 0 ⟨false, 20⟩)]).map
          (Simple.makeModel (Description.make 5000000000 20000000000)
            (⟨some 0, some 50⟩ : State Int) ⟨none⟩).answer :=
  answers_of_pollsWithin (Description.make 5000000000 20000000000) (⟨some 0, some 50⟩ : State Int)
    ⟨none⟩ "task" 0 (by decide) (by rfl)

end RmfTaskSequence.WaitForConfirmation.Live
