/-
Live models side by side, as `make_model` leaves them: every model has
its own node, and all of them publish on `/request_confirmation` and
subscribe to `/confirmation_received`. A scheduler call goes to one
model; a message on the response topic reaches every subscription,
whose callback compares it with its own model's token.

So a shared run is, for each model, the single-model run of the calls
addressed to it and of every delivery (`sharedRun_apply`), and every
single-model result carries over. For the latch: each model is
confirmed exactly by its own token, so with distinct tokens a
confirmation meant for one task instance leaves every other one
waiting.
-/
import Mathlib.Logic.Function.Basic
import RmfTaskSequence.Proofs.Latch

namespace RmfTaskSequence.WaitForConfirmation.Live

variable {ι F : Type} [DecidableEq ι]

/-- An event among live models sharing the topic pair: a scheduler
call to model `i` with its two clock reads, or one message on
`/confirmation_received`, which every subscription receives. -/
inductive SharedEvent (ι F : Type)
  | call (i : ι) (now stamp : Int) (q : Query F)
  | deliver (data : String)

/-- The event model `i` sees of a shared one: its own calls, and
every delivery. -/
def SharedEvent.seenBy (i : ι) : SharedEvent ι F → Option (Event F)
  | .call j now stamp q => if j = i then some (.call now stamp q) else none
  | .deliver data => some (.deliver data)

section Arith

variable [Sub F] [Zero F] [LT F] [LE F]
  [DecidableRel ((· < ·) : F → F → Prop)] [DecidableRel ((· ≤ ·) : F → F → Prop)]

/-- One shared event: a call steps its model, a delivery runs every
model's callback. -/
def sharedStep (ms : ι → Model F) : SharedEvent ι F → ι → Model F
  | .call i now stamp q => Function.update ms i ((ms i).step (.call now stamp q))
  | .deliver data => fun j => (ms j).onConfirmationReceived data

/-- The models after a shared run. -/
def sharedRun (ms : ι → Model F) (evs : List (SharedEvent ι F)) : ι → Model F :=
  evs.foldl sharedStep ms

/-- A shared event moves model `i` by the event it sees, if any. -/
theorem sharedStep_apply (ms : ι → Model F) (e : SharedEvent ι F) (i : ι) :
    sharedStep ms e i = ((ms i).run (e.seenBy i).toList) := by
  cases e with
  | call j now stamp q =>
      by_cases h : j = i
      · subst h; simp [sharedStep, SharedEvent.seenBy]
      · simp [sharedStep, SharedEvent.seenBy, h, Function.update_noteq (Ne.symm h)]
  | deliver data => rfl

/-- Each model of a shared run runs on its own calls and on every
delivery. -/
theorem sharedRun_apply (ms : ι → Model F) (evs : List (SharedEvent ι F)) (i : ι) :
    sharedRun ms evs i = (ms i).run (evs.filterMap (SharedEvent.seenBy i)) := by
  induction evs generalizing ms with
  | nil => rfl
  | cons e evs ih =>
      rw [sharedRun, List.foldl_cons, ← sharedRun, ih, sharedStep_apply, ← run_append,
        List.filterMap_cons]
      cases e.seenBy i <;> rfl

/-- Token correlation among live models sharing the topics: after any
shared run, a model is confirmed exactly when it was before or its own
token was delivered; no other model's token, and no call, moves it. -/
theorem shared_latch_iff_own_token (ms : ι → Model F) (evs : List (SharedEvent ι F)) (i : ι) :
    (sharedRun ms evs i).confirmationReceived = true
      ↔ (ms i).confirmationReceived = true ∨ SharedEvent.deliver (ms i).taskUuid ∈ evs := by
  rw [sharedRun_apply, run_confirmationReceived, List.mem_filterMap]
  constructor
  · rintro (h | ⟨e, he, hs⟩)
    · exact .inl h
    · rcases e with ⟨j, now, stamp, q⟩ | data
      · simp only [SharedEvent.seenBy] at hs; split at hs <;> cases hs
      · cases hs; exact .inr he
  · rintro (h | h)
    · exact .inl h
    · exact .inr ⟨_, h, rfl⟩

end Arith

end RmfTaskSequence.WaitForConfirmation.Live
