/-
The request topic of the shared run, as a confirming party sees it.
`/request_confirmation` carries, in order, the token of every model
that re-requests (`requestTopic`). It is not the state of a model: it
is the merge of the models' publishers, and no model reads it.

# The request topic

The tokens come from `generate_uuid`'s random draws, and the results
below assume them distinct. Then the messages on the topic that carry a
model's token are exactly what that model's publisher sent, one per
re-request, in order, and none from another model. A model whose token
has come is latched and never re-requests, so once its token is
delivered the topic never carries it again.
-/
import RmfTaskSequence.Shared

namespace RmfTaskSequence.WaitForConfirmation.Live

variable {ι F : Type} [DecidableEq ι]

section Arith

variable [Sub F] [Zero F] [LT F] [LE F]
  [DecidableRel ((· < ·) : F → F → Prop)] [DecidableRel ((· ≤ ·) : F → F → Prop)]

-- ========================================================= the topic

/-- What a shared event puts on `/request_confirmation`: the token of
the model a call goes to, when that call re-requests; a delivery puts
nothing. -/
def SharedEvent.published (ms : ι → Model F) : SharedEvent ι F → List String
  | .call i now _ q => if (ms i).requests now q then [(ms i).taskUuid] else []
  | .deliver _ => []

/-- The messages on `/request_confirmation` during a shared run, in
order. -/
def requestTopic : (ι → Model F) → List (SharedEvent ι F) → List String
  | _, [] => []
  | ms, e :: evs => e.published ms ++ requestTopic (sharedStep ms e) evs

variable (ms : ι → Model F)

@[simp] theorem sharedStep_taskUuid (e : SharedEvent ι F) (j : ι) :
    (sharedStep ms e j).taskUuid = (ms j).taskUuid := by
  rw [sharedStep_apply, run_taskUuid]

@[simp] theorem sharedRun_taskUuid (evs : List (SharedEvent ι F)) (j : ι) :
    (sharedRun ms evs j).taskUuid = (ms j).taskUuid := by
  rw [sharedRun_apply, run_taskUuid]

-- ================================================ what the topic carries

/-- One shared event adds to model `i`'s publisher log exactly the
messages with its token that the event puts on the topic. -/
theorem sharedStep_confirmationPub (hu : Function.Injective fun j => (ms j).taskUuid)
    (e : SharedEvent ι F) (i : ι) :
    (sharedStep ms e i).confirmationPub
      = (ms i).confirmationPub ++ (e.published ms).filter (· == (ms i).taskUuid) := by
  cases e with
  | call j now stamp q =>
      by_cases h : j = i
      · subst h
        simp only [sharedStep, Function.update_same, step_confirmationPub, Model.requestsOn,
          SharedEvent.published]
        split <;> simp
      · have hne : (ms j).taskUuid ≠ (ms i).taskUuid := fun h' => h (hu h')
        simp only [sharedStep, Function.update_noteq (Ne.symm h), SharedEvent.published]
        split <;> simp [hne]
  | deliver data => simp [sharedStep, SharedEvent.published]

/-- The publisher log and the topic agree: with distinct tokens, the
messages on `/request_confirmation` that carry model `i`'s token are
exactly what its own publisher sent during the run, in order, one per
re-request, and no other model ever sends one. -/
theorem requestTopic_own_token (hu : Function.Injective fun j => (ms j).taskUuid)
    (evs : List (SharedEvent ι F)) (i : ι) :
    (ms i).confirmationPub ++ (requestTopic ms evs).filter (· == (ms i).taskUuid)
      = (sharedRun ms evs i).confirmationPub := by
  induction evs generalizing ms with
  | nil => simp [requestTopic, sharedRun]
  | cons e evs ih =>
      have hu' : Function.Injective fun j => (sharedStep ms e j).taskUuid := by simpa using hu
      rw [requestTopic, List.filter_append, ← List.append_assoc,
        ← sharedStep_confirmationPub _ hu, ← sharedStep_taskUuid ms e i, ih _ hu']
      rfl

/-- Models keyed by their tokens "a" and "b", made at 0 with a 5 ns
wait and a 20 ns timeout: "a" is polled at 1 ns, "b" at 2 ns, then "a"
is confirmed and polled at 3 ns. The topic carries "a" once, as "a"'s
publisher logged after its constructor's request. -/
theorem requestTopic_two_tokens :
    Function.Injective (fun j => (makeModel (Description.make 5 20)
        (⟨some 0, some 50⟩ : State Int) ⟨none⟩ j 0).taskUuid)
      ∧ (makeModel (Description.make 5 20) (⟨some 0, some 50⟩ : State Int) ⟨none⟩
          "a" 0).confirmationPub
          ++ (requestTopic (fun j => makeModel (Description.make 5 20)
                (⟨some 0, some 50⟩ : State Int) ⟨none⟩ j 0)
              [.call "a" 1 1 (.estimateFinish ⟨some 0, some 50⟩ 0 ⟨false, 0⟩),
                .call "b" 2 2 (.estimateFinish ⟨some 0, some 50⟩ 0 ⟨false, 0⟩),
                .deliver "a", .call "a" 3 3 (.estimateFinish ⟨some 0, some 50⟩ 0 ⟨false, 0⟩)]
            ).filter (· == "a")
        = (sharedRun (fun j => makeModel (Description.make 5 20)
              (⟨some 0, some 50⟩ : State Int) ⟨none⟩ j 0)
            [.call "a" 1 1 (.estimateFinish ⟨some 0, some 50⟩ 0 ⟨false, 0⟩),
              .call "b" 2 2 (.estimateFinish ⟨some 0, some 50⟩ 0 ⟨false, 0⟩),
              .deliver "a", .call "a" 3 3 (.estimateFinish ⟨some 0, some 50⟩ 0 ⟨false, 0⟩)]
            "a").confirmationPub :=
  ⟨fun _ _ h => h, requestTopic_own_token (fun j => makeModel (Description.make 5 20)
      (⟨some 0, some 50⟩ : State Int) ⟨none⟩ j 0) (fun _ _ h => h)
    [.call "a" 1 1 (.estimateFinish ⟨some 0, some 50⟩ 0 ⟨false, 0⟩),
      .call "b" 2 2 (.estimateFinish ⟨some 0, some 50⟩ 0 ⟨false, 0⟩),
      .deliver "a", .call "a" 3 3 (.estimateFinish ⟨some 0, some 50⟩ 0 ⟨false, 0⟩)] "a"⟩

/-- A latched model's token never goes out on the topic: the model
itself does not re-request, and every other model sends its own. -/
theorem not_mem_requestTopic (hu : Function.Injective fun j => (ms j).taskUuid) {i : ι}
    (hr : (ms i).confirmationReceived = true) (evs : List (SharedEvent ι F)) :
    (ms i).taskUuid ∉ requestTopic ms evs := by
  induction evs generalizing ms with
  | nil => simp [requestTopic]
  | cons e evs ih =>
      have hpub : (ms i).taskUuid ∉ e.published ms := by
        rcases e with ⟨j, now, stamp, q⟩ | data
        · by_cases h : j = i
          · subst h
            cases q <;> simp [SharedEvent.published, Model.requests, hr]
          · have hne : (ms j).taskUuid ≠ (ms i).taskUuid := fun h' => h (hu h')
            simp only [SharedEvent.published]
            split <;> simp [hne.symm]
        · simp [SharedEvent.published]
      have hr' : (sharedStep ms e i).confirmationReceived = true := by
        rw [sharedStep_apply, run_confirmationReceived]; exact .inl hr
      simpa [requestTopic, hpub] using ih _ (by simpa using hu) hr'

/-- No request after confirmation: with distinct tokens, once a message
carrying model `i`'s token has been delivered, no later message on
`/request_confirmation` carries that token, whatever the calls and the
deliveries that follow. -/
theorem no_request_after_token (hu : Function.Injective fun j => (ms j).taskUuid) (i : ι)
    (pre post : List (SharedEvent ι F)) :
    (ms i).taskUuid ∉ requestTopic (sharedRun ms (pre ++ [.deliver (ms i).taskUuid])) post := by
  have hr : (sharedRun ms (pre ++ [.deliver (ms i).taskUuid]) i).confirmationReceived = true := by
    rw [sharedRun_apply, run_confirmationReceived, List.mem_filterMap]
    exact .inr ⟨_, List.mem_append_right _ (List.mem_singleton_self _), rfl⟩
  simpa using not_mem_requestTopic _ (by simpa using hu) hr post

/-- Models keyed by their tokens, made at 0 with a 5 ns wait and a
20 ns timeout: after "a" is polled at 1 ns and confirmed, polls of "a"
and "b" at 3 ns and 4 ns put no "a" on the topic. -/
theorem no_request_after_token_a :
    Function.Injective (fun j => (makeModel (Description.make 5 20)
        (⟨some 0, some 50⟩ : State Int) ⟨none⟩ j 0).taskUuid)
      ∧ "a" ∉ requestTopic (sharedRun (fun j => makeModel (Description.make 5 20)
            (⟨some 0, some 50⟩ : State Int) ⟨none⟩ j 0)
          ([.call "a" 1 1 (.estimateFinish ⟨some 0, some 50⟩ 0 ⟨false, 0⟩)]
            ++ [.deliver "a"]))
          [.call "a" 3 3 (.estimateFinish ⟨some 0, some 50⟩ 0 ⟨false, 0⟩),
            .call "b" 4 4 (.estimateFinish ⟨some 0, some 50⟩ 0 ⟨false, 0⟩)] :=
  ⟨fun _ _ h => h, no_request_after_token (fun j => makeModel (Description.make 5 20)
      (⟨some 0, some 50⟩ : State Int) ⟨none⟩ j 0) (fun _ _ h => h) "a"
    [.call "a" 1 1 (.estimateFinish ⟨some 0, some 50⟩ 0 ⟨false, 0⟩)]
    [.call "a" 3 3 (.estimateFinish ⟨some 0, some 50⟩ 0 ⟨false, 0⟩),
      .call "b" 4 4 (.estimateFinish ⟨some 0, some 50⟩ 0 ⟨false, 0⟩)]⟩

end Arith

end RmfTaskSequence.WaitForConfirmation.Live
