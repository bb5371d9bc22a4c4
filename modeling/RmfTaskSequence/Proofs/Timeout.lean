/-
The timeout. `estimate_finish` measures the elapsed time from
`_confirmation_request_time`, and that stamp is rewritten by every
`request_confirmation`, the one in the constructor and the re-request of
every unconfirmed call that does not time out. So the timeout bounds the
gap since the last request, not the wait since construction.

# Absorbing

A call that times out returns before the re-request, so it takes no
stamp and leaves the model as it was; a later call, whose first clock
read is no earlier, finds an elapsed time at least as large and times
out too. Queries and foreign
payloads change nothing, so the timed-out model is a fixed point of
every later run that does not deliver its token (`run_of_timed_out`),
and every later `estimate_finish` fails.

# Not a bound on the whole wait

A poll that comes at most `timeout_duration` after the last stamp
re-stamps the request time and does not time out, however long the run
(`neverTimesOut_of_pollsWithin`): a model with a 5 s interval and a
20 s timeout, polled every 10 s, still gets an estimate 30 s after its
construction.

# The clock

`steady_clock` never runs backwards: along a run, each call's first
read is no earlier than the reads before it, and its stamp no earlier
than its first read (`clockFrom`). On such a clock no call finds its
model's last stamp in its future: the elapsed time compared with the
timeout is never negative.
-/
import RmfTaskSequence.Live

namespace RmfTaskSequence.WaitForConfirmation.Live

variable {F : Type}

/-- An event that finds the elapsed time past the timeout: an
`estimate_finish` call more than `timeout_duration` after the last
request. -/
def Model.timesOutOn (m : Model F) : Event F → Bool
  | .call now _ (.estimateFinish _ _ _) =>
      decide (now - m.confirmationRequestTime > m.timeoutDuration)
  | _ => false

/-- Polls within `T` of the last stamp: each `estimate_finish` of the
run comes with a timed state, and its first clock read is at most `T`
after the previous poll's stamp (the first poll's, at most `T` after
`r`). -/
def pollsWithin (T : Int) : Int → List (Event F) → Bool
  | _, [] => true
  | r, .call now stamp (.estimateFinish state _ _) :: evs =>
      decide (now - r ≤ T) && state.time.isSome && pollsWithin T stamp evs
  | r, _ :: evs => pollsWithin T r evs

/-- The clock reads of a run's calls never go back, starting from
`t`, as `steady_clock` promises: each call's first read, then its
stamp. -/
def clockFrom (t : Int) : List (Event F) → Bool
  | [] => true
  | .call now stamp _ :: evs => decide (t ≤ now) && decide (now ≤ stamp) && clockFrom stamp evs
  | .deliver _ :: evs => clockFrom t evs

/-- A model past its timeout at `t` re-requests on no call at `t` or
later. -/
theorem requests_of_timed_out {m : Model F} {t now : Int}
    (ht : t - m.confirmationRequestTime > m.timeoutDuration) (hnow : t ≤ now) (q : Query F) :
    m.requests now q = false := by
  cases q with
  | estimateFinish state w c =>
      have : now - m.confirmationRequestTime > m.timeoutDuration := by omega
      simp [Model.requests, this]
  | invariantDuration => rfl
  | invariantFinishState => rfl

section Arith

variable [Sub F] [Zero F] [LT F] [LE F]
  [DecidableRel ((· < ·) : F → F → Prop)] [DecidableRel ((· ≤ ·) : F → F → Prop)]

/-- A model past its timeout is a fixed point of every later run that
delivers no token and whose calls first read the clock no earlier. -/
theorem run_of_timed_out {m : Model F} {t : Int}
    (ht : t - m.confirmationRequestTime > m.timeoutDuration) {evs : List (Event F)}
    (hd : Event.deliver m.taskUuid ∉ evs)
    (hclock : ∀ now stamp q, Event.call now stamp q ∈ evs → t ≤ now) :
    m.run evs = m := by
  induction evs with
  | nil => rfl
  | cons e evs ih =>
      have hstep : m.step e = m := by
        cases e with
        | call now stamp q =>
            rw [step_call, requests_of_timed_out ht (hclock now stamp q (.head _))]
            rfl
        | deliver data =>
            exact onConfirmationReceived_of_ne fun h => hd (h ▸ .head _)
      rw [run_cons, hstep]
      exact ih (fun h => hd (.tail _ h)) fun now stamp q h => hclock now stamp q (.tail _ h)

/-- Timeout is absorbing: after an `estimate_finish` whose first
clock read `t` is past the timeout fails through the timeout branch,
every `estimate_finish` reading `t' ≥ t` fails as well, whatever
queries, calls and foreign payloads came in between, as long as none of
them was the model's token. No stamp matters: no call of the run
re-requests. -/
theorem timeout_absorbing (m : Model F) (t stamp : Int) (state : State F) (w : Int)
    (c : Constraints F) (hr : m.confirmationReceived = false)
    (ht : t - m.confirmationRequestTime > m.timeoutDuration) (mid : List (Event F))
    (hd : Event.deliver m.taskUuid ∉ mid)
    (hclock : ∀ now stamp q, Event.call now stamp q ∈ mid → t ≤ now)
    (t' stamp' : Int) (ht' : t ≤ t') (state' : State F) (w' : Int) (c' : Constraints F) :
    (m.call t stamp (.estimateFinish state w c)).2 = .estimate (.ok none)
      ∧ (((m.step (.call t stamp (.estimateFinish state w c))).run mid).call t' stamp'
          (.estimateFinish state' w' c')).2 = .estimate (.ok none) := by
  have hstep : m.step (.call t stamp (.estimateFinish state w c)) = m := by
    rw [step_call, requests_of_timed_out ht (Int.le_refl t)]
    rfl
  have ht'' : t' - m.confirmationRequestTime > m.timeoutDuration := by omega
  rw [hstep, run_of_timed_out ht hd hclock]
  simp [Model.call, estimateFinish_of_timeout hr ht, estimateFinish_of_timeout hr ht'']

/-- A model made at 0 with a 20 s timeout, first polled at 30 s: that
call and one at 40 s fail, past a foreign payload and a query at 31 s. -/
theorem timeout_absorbing_at_thirty :
    ((makeModel (Description.make 5000000000 20000000000) (⟨some 0, some 50⟩ : State Int) ⟨none⟩
        "task" 0).call 30000000000 30000000001 (.estimateFinish ⟨some 0, some 50⟩ 0 ⟨false, 0⟩)).2
        = .estimate (.ok none)
      ∧ ((((makeModel (Description.make 5000000000 20000000000) (⟨some 0, some 50⟩ : State Int)
          ⟨none⟩ "task" 0).step
          (.call 30000000000 30000000001 (.estimateFinish ⟨some 0, some 50⟩ 0 ⟨false, 0⟩))).run
          [.deliver "other", .call 31000000000 31000000000 .invariantDuration]).call 40000000000
          40000000001 (.estimateFinish ⟨some 0, some 50⟩ 0 ⟨false, 0⟩)).2 = .estimate (.ok none) :=
  timeout_absorbing _ 30000000000 30000000001 ⟨some 0, some 50⟩ 0 ⟨false, 0⟩ rfl (by decide)
    [.deliver "other", .call 31000000000 31000000000 .invariantDuration] (by decide)
    (by intro now stamp q h; simp at h; omega) 40000000000 40000000001 (by decide)
    ⟨some 0, some 50⟩ 0 ⟨false, 0⟩

/-- No `estimate_finish` of the run, at the model it meets, finds the
elapsed time past the timeout. -/
def Model.neverTimesOut : Model F → List (Event F) → Bool
  | _, [] => true
  | m, e :: evs => !m.timesOutOn e && (m.step e).neverTimesOut evs

/-- Polled within its timeout, a model never times out: every poll
re-requests and restamps the time the next one is measured against, so
the wait goes on for as long as the polls do. -/
theorem neverTimesOut_of_pollsWithin {m : Model F} (hr : m.confirmationReceived = false)
    {evs : List (Event F)} (hd : Event.deliver m.taskUuid ∉ evs)
    (hp : pollsWithin m.timeoutDuration m.confirmationRequestTime evs) : m.neverTimesOut evs := by
  induction evs generalizing m with
  | nil => rfl
  | cons e evs ih =>
      have hd' : Event.deliver m.taskUuid ∉ evs := fun h => hd (.tail _ h)
      match e, hp with
      | .call now stamp (.estimateFinish state w c), hp =>
          simp only [pollsWithin, Bool.and_eq_true, decide_eq_true_eq] at hp
          obtain ⟨⟨hle, hs⟩, hp⟩ := hp
          have hin : ¬ now - m.confirmationRequestTime > m.timeoutDuration := by omega
          have hreq : m.requests now (.estimateFinish state w c) := by
            simp [Model.requests, hr, hs, hin]
          have hnext := @ih (m.requestConfirmation stamp) (by simpa using hr) (by simpa using hd')
            (by simpa using hp)
          simp [Model.neverTimesOut, Model.timesOutOn, hin, Model.step, call_fst, hreq, hnext]
      | .call now _ .invariantDuration, hp =>
          simp [Model.neverTimesOut, Model.timesOutOn, ih hr hd' hp, Model.step, call_fst,
            Model.requests]
      | .call now _ .invariantFinishState, hp =>
          simp [Model.neverTimesOut, Model.timesOutOn, ih hr hd' hp, Model.step, call_fst,
            Model.requests]
      | .deliver data, hp =>
          have hne : data ≠ m.taskUuid := fun h => hd (h ▸ .head _)
          simp [Model.neverTimesOut, Model.timesOutOn, onConfirmationReceived_of_ne hne,
            ih hr hd' hp]

/-- A call whose two reads come in order, no earlier than the last
stamp, leaves the last stamp at or before its own second read. -/
theorem step_requestTime_le {m : Model F} {t now stamp : Int} (hm : m.confirmationRequestTime ≤ t)
    (ht : t ≤ now) (hs : now ≤ stamp) (q : Query F) :
    (m.step (.call now stamp q)).confirmationRequestTime ≤ stamp := by
  rw [step_confirmationRequestTime]; split <;> omega

/-- On a clock that never runs backwards, no call finds its model's
last stamp in its future: the elapsed time `estimate_finish` holds
against the timeout is never negative. -/
theorem elapsed_nonneg {m : Model F} {t : Int} (hm : m.confirmationRequestTime ≤ t)
    {evs : List (Event F)} (hc : clockFrom t evs) :
    ∀ pre now stamp q post, evs = pre ++ .call now stamp q :: post →
      0 ≤ now - (m.run pre).confirmationRequestTime := by
  induction evs generalizing m t with
  | nil => intro pre now stamp q post h; simp at h
  | cons e evs ih =>
      rintro (_ | ⟨e', pre⟩) now stamp q post h <;>
        simp only [List.nil_append, List.cons_append, List.cons.injEq] at h
      · obtain ⟨rfl, -⟩ := h
        simp only [clockFrom, Bool.and_eq_true, decide_eq_true_eq] at hc
        simp only [run_nil]; omega
      · obtain ⟨rfl, rfl⟩ := h
        cases e with
        | call now' stamp' q' =>
            simp only [clockFrom, Bool.and_eq_true, decide_eq_true_eq] at hc
            exact @ih _ stamp' (step_requestTime_le hm hc.1.1 hc.1.2 q') hc.2 pre now stamp q
              post rfl
        | deliver data =>
            exact @ih _ t (by simpa using hm) hc pre now stamp q post rfl

/-- Made at 0 and called at 1 s (stamping 1 ms later) and at 2 s, a
model finds a nonnegative elapsed time at the second call. -/
theorem elapsed_nonneg_at_two :
    0 ≤ (2000000000 : Int) - ((makeModel (Description.make 5000000000 20000000000)
      (⟨some 0, some 50⟩ : State Int) ⟨none⟩ "task" 0).run
        [.call 1000000000 1001000000 (.estimateFinish ⟨some 0, some 50⟩ 0 ⟨false, 20⟩)]
      ).confirmationRequestTime :=
  @elapsed_nonneg Int _ _ _ _ _ _ (makeModel (Description.make 5000000000 20000000000)
      (⟨some 0, some 50⟩ : State Int) ⟨none⟩ "task" 0) 0 (Int.le_refl 0)
    [.call 1000000000 1001000000 (.estimateFinish ⟨some 0, some 50⟩ 0 ⟨false, 20⟩),
      .call 2000000000 2000000000 .invariantDuration] rfl
    [.call 1000000000 1001000000 (.estimateFinish ⟨some 0, some 50⟩ 0 ⟨false, 20⟩)] 2000000000
    2000000000 .invariantDuration [] rfl

/-- The failing input of the bounded-wait reading of
`timeout_duration`: made at 0 with a 5 s wait and a 20 s timeout and
polled at 10 s and 20 s (each re-request stamping 1 ms after the call's
first read), the model still answers an estimate at 30 s, past the
timeout. -/
theorem polled_past_timeout :
    (30000000000 : Int) - 0 > 20000000000 ∧
      (((makeModel (Description.make 5000000000 20000000000) (⟨some 0, some 50⟩ : State Int)
          ⟨none⟩ "task" 0).run
          [.call 10000000000 10001000000 (.estimateFinish ⟨some 0, some 50⟩ 0 ⟨false, 0⟩),
           .call 20000000000 20001000000 (.estimateFinish ⟨some 0, some 50⟩ 0 ⟨false, 0⟩)]).call
          30000000000 30001000000 (.estimateFinish ⟨some 0, some 50⟩ 0 ⟨false, 0⟩)).2
        = .estimate (.ok (some ⟨⟨some 5000000000, some 50⟩, 0⟩)) :=
  ⟨by decide, rfl⟩

end Arith

end RmfTaskSequence.WaitForConfirmation.Live
