/-
# AthenaDriver.Cost — `printCost` once QueryContext has submitted

A money-wise configuration prints a submitted query's cost (`printCost`) on
three of the poll loop's outcomes: Succeeded and Cancelled print the response
just polled (lines 462-464 and 476-479), and a successful stop polls once more
and prints that reply, whatever it is (lines 500-506). A Failed status returns
its reason and prints nothing (lines 466-474).

The grammar of `AthenaDriver.PollLoop` places every `printCost` of such a run:
none before the submission or in the rounds that went on, and in the last
round at most one, right after its last `GetQueryExecution`.

Main results:
* `terminal_outcome_prints_cost_once` — money-wise, a run that polled Succeeded
  or Cancelled, or stopped its query, has logged exactly one `printCost`: of the
  reply of its last `GetQueryExecution`, for the submitted id, right after it.
* `failed_outcome_prints_no_cost` — a run that returned on a poll answered
  Failed has logged no `printCost`, money-wise or not.
-/
import AthenaDriver.Protocol

namespace AthenaDriver

set_option autoImplicit false

/-- A `printCost` of the log. -/
def Event.isPrintCost : Event → Bool
  | .printCost _ => true
  | _ => false

/-- A `GetQueryExecution` call of the log. -/
def Event.isStatusCall : Event → Bool
  | .call (.getQueryExecution _) _ => true
  | _ => false

/-- What only the last round of an outcome that prints the cost logs: a poll
answered Succeeded or Cancelled, or a successful stop. -/
def Event.PrintsCost : Event → Prop
  | .call (.getQueryExecution _) (.status (.ok resp)) =>
      resp.state? = some .succeeded ∨ resp.state? = some .cancelled
  | .call (.stopQueryExecution _) (.stopped (.ok ())) => True
  | _ => False

section Quiet

variable (X : Helpers) (cfg : Config)

theorem Event.not_printsCost_of_beforeSubmission {e : Event} (before : e.beforeSubmission) :
    ¬e.PrintsCost := by
  rcases e with ⟨_ | _ | _ | _ | _, _⟩ | _ <;> simp_all [Event.beforeSubmission, Event.PrintsCost]

theorem Event.isPrintCost_of_beforeSubmission {e : Event} (before : e.beforeSubmission) :
    e.isPrintCost = false := by
  rcases e with _ | _ | _ <;> simp_all [Event.beforeSubmission, Event.isPrintCost]

theorem not_printsCost_of_pending {queryID : GoString} {resp : GetQueryExecutionOutput} {statementType : GoString}
    (pending : resp.pendingType = some statementType) : ¬(polled queryID resp).PrintsCost := by
  have := (GetQueryExecutionOutput.pendingType_isSome resp).1 (by simp [pending])
  rcases this with state | state <;> simp [polled, Event.PrintsCost, state]

theorem Rounds.printCost_free {queryID : GoString} {start : Time} {rounds : List Event}
    (h : Rounds X cfg queryID start rounds) :
    rounds.filter Event.isPrintCost = [] ∧ ∀ e ∈ rounds, ¬e.PrintsCost := by
  induction h with
  | nil => simp
  | round _ pending _ ih =>
      refine ⟨by simp [ih.1, polled, Event.isPrintCost], fun e mem => ?_⟩
      simp only [List.mem_append, List.mem_cons, List.not_mem_nil, or_false] at mem
      rcases mem with mem | rfl | rfl
      · exact ih.2 e mem
      · exact not_printsCost_of_pending pending
      · simp [Event.PrintsCost]

/-- Of a run in the grammar after its submission, the `printCost`s are those of
its last round, and an event that prints the cost is in its last round. -/
theorem printCost_in_ending {pre rounds : List Event} {queryID : GoString} {start : Time}
    (before : ∀ e ∈ pre, e.beforeSubmission) (rrounds : Rounds X cfg queryID start rounds)
    (input : StartQueryExecutionInput) (ending : List Event) :
    (pre ++ Event.call (.startQueryExecution input) (.started (.ok queryID)) :: (rounds ++ ending)).filter
        Event.isPrintCost = ending.filter Event.isPrintCost ∧
    ∀ e ∈ pre ++ Event.call (.startQueryExecution input) (.started (.ok queryID)) :: (rounds ++ ending),
      e.PrintsCost → e ∈ ending := by
  have quiet : pre.filter Event.isPrintCost = [] :=
    List.filter_eq_nil_iff.2 fun e mem => by simp [Event.isPrintCost_of_beforeSubmission (before e mem)]
  refine ⟨by simp [List.filter_append, quiet, (rrounds.printCost_free X cfg).1, Event.isPrintCost], ?_⟩
  intro e mem prints
  simp only [List.mem_append, List.mem_cons] at mem
  rcases mem with mem | rfl | mem | mem
  · exact absurd prints (Event.not_printsCost_of_beforeSubmission (before e mem))
  · simp [Event.PrintsCost] at prints
  · exact absurd prints ((rrounds.printCost_free X cfg).2 e mem)
  · exact mem

end Quiet

theorem getLast?_after_submission {pre rounds ending : List Event} {x : Event} (nonempty : ending ≠ []) :
    (pre ++ x :: (rounds ++ ending)).getLast? = ending.getLast? := by
  rw [← List.cons_append, ← List.append_assoc, List.getLast?_append_of_ne_nil _ nonempty]

section Outcomes

variable (X : Helpers) (cfg : Config) {queryID : GoString} {start : Time} {done : Option Cancellation}
  {ending : List Event} {result : Go Rows}

/-- Money-wise, a last round with an event that prints the cost prints it once,
right after its last `GetQueryExecution`, with that call's reply. -/
theorem Outcome.prints_cost_once (moneyWise : cfg.isMoneyWise = true)
    (outcome : Outcome X cfg queryID start done ending result) {e : Event} (mem : e ∈ ending)
    (prints : e.PrintsCost) :
    ∃ mid reply post,
      ending = mid ++ .call (.getQueryExecution queryID) (.status reply) :: .printCost reply.toOption :: post ∧
      (∀ e ∈ post, e.isStatusCall = false) ∧ ending.filter Event.isPrintCost = [.printCost reply.toOption] := by
  cases outcome with
  | @succeeded resp reply _ =>
      exact ⟨[], .ok resp, [.newRows queryID reply], by simp [costOf, moneyWise, polled, Except.toOption],
        by simp [Event.isStatusCall], by simp [costOf, moneyWise, polled, Event.isPrintCost, Except.toOption]⟩
  | @cancelled resp _ =>
      exact ⟨[], .ok resp, [], by simp [costOf, moneyWise, polled, Except.toOption], by simp,
        by simp [costOf, moneyWise, polled, Event.isPrintCost, Except.toOption]⟩
  | @stopped resp _ _ _ _ _ after =>
      rw [AfterStop, if_pos moneyWise] at after
      obtain ⟨reply, rfl⟩ := after
      exact ⟨[polled queryID resp, .cancelBranch, .call (.stopQueryExecution queryID) (.stopped (.ok ()))],
        reply, [], by simp, by simp, by simp [polled, Event.isPrintCost]⟩
  | failed status =>
      simp only [List.mem_singleton] at mem
      subst mem
      simp [polled, Event.PrintsCost, GetQueryExecutionOutput.state?, status] at prints
  | pollFailed =>
      simp only [List.mem_singleton] at mem
      subst mem
      simp [Event.PrintsCost] at prints
  | timedOut pending _ =>
      simp only [List.mem_cons, List.mem_singleton, List.not_mem_nil, or_false] at mem
      rcases mem with rfl | rfl
      · exact absurd prints (not_printsCost_of_pending pending)
      · simp [Event.PrintsCost] at prints
  | stopFailed pending =>
      simp only [List.mem_cons, List.mem_singleton, List.not_mem_nil, or_false] at mem
      rcases mem with rfl | rfl | rfl
      · exact absurd prints (not_printsCost_of_pending pending)
      all_goals simp [Event.PrintsCost] at prints

/-- A last round that ends on a poll answered Failed prints nothing. -/
theorem Outcome.no_printCost_of_failed (outcome : Outcome X cfg queryID start done ending result)
    {queryID' : GoString} {resp : GetQueryExecutionOutput} (last : ending.getLast? = some (polled queryID' resp))
    (state : resp.state? = some .failed) : ending.filter Event.isPrintCost = [] := by
  cases outcome with
  | succeeded _ => rw [List.getLast?_concat] at last; cases last
  | cancelled cancelled =>
      cases moneyWise : cfg.isMoneyWise <;> simp only [costOf, moneyWise, Bool.false_eq_true, if_false,
        if_true, List.getLast?_singleton, List.getLast?_cons_cons] at last ⊢
      · simp only [Option.some.injEq, polled, Event.call.injEq, Reply.status.injEq, Except.ok.injEq] at last
        rw [← last.2] at state
        simp [cancelled] at state
      · simp [polled] at last
  | stopped _ _ after =>
      unfold AfterStop at after
      split at after
      · obtain ⟨reply, rfl⟩ := after
        simp [polled] at last
      · subst after
        simp [polled, Event.isPrintCost]
  | _ => simp [polled, Event.isPrintCost]

theorem Outcome.ne_nil (outcome : Outcome X cfg queryID start done ending result) : ending ≠ [] := by
  cases outcome <;> simp

/-- Money-wise, every run that polled Succeeded or Cancelled, or stopped its
query after the cancellation branch, has logged exactly one `printCost`: of the
reply of the last `GetQueryExecution` of the log, right after it, for the id
that `StartQueryExecution` returned. -/
theorem terminal_outcome_prints_cost_once (moneyWise : cfg.isMoneyWise = true) {query : GoString}
    {namedArgs : List NamedValue} {plan : Plan} {s : Session}
    (proceeds : prologue X cfg query namedArgs = .proceed plan)
    (submits : X.isQID plan.query = false) (notGetQID : plan.pseudoCommand ≠ pcGetQID)
    (reached : QueryContextRun X cfg query namedArgs s) (returned : s.phase = .returned result)
    (terminal : ∃ e ∈ s.log, e.PrintsCost) :
    ∃ pre input queryID reply post,
      s.log = pre ++ .call (.getQueryExecution queryID) (.status reply) :: .printCost reply.toOption :: post ∧
      Event.call (.startQueryExecution input) (.started (.ok queryID)) ∈ pre ∧
      (∀ e ∈ post, e.isStatusCall = false) ∧
      s.log.filter Event.isPrintCost = [.printCost reply.toOption] := by
  obtain ⟨e, mem, prints⟩ := terminal
  rcases returned_after_submission X cfg proceeds submits notGetQID reached returned with
    before | ⟨pre, input, queryID, start, rounds, ending, before, -, hlog, rrounds, outcome | absent⟩
  · exact absurd prints (Event.not_printsCost_of_beforeSubmission (before e mem))
  all_goals
    obtain ⟨filtered, inEnding⟩ := printCost_in_ending X cfg before rrounds input ending
    rw [hlog] at mem
    have last := inEnding e mem prints
  · obtain ⟨mid, reply, post, split, noStatus, once⟩ := outcome.prints_cost_once X cfg moneyWise last prints
    refine ⟨pre ++ .call (.startQueryExecution input) (.started (.ok queryID)) :: (rounds ++ mid), input,
      queryID, reply, post, by simp [hlog, split], by simp, noStatus, by rw [hlog, filtered, once]⟩
  · cases absent with
    | noStatus status | noReason status =>
        simp only [List.mem_singleton] at last
        subst last
        simp [polled, Event.PrintsCost, GetQueryExecutionOutput.state?, status] at prints

/-- The reference configuration, money-wise. -/
def moneyWiseConfig : Config := { referenceConfig with isMoneyWise := true }

/-- Where `SELECT 1`, Succeeded on the first poll, ends money-wise: its cost
printed between the poll and `NewRows`. -/
def selectOneSucceededMoneyWise : Session :=
  ⟨.returned (pure (.cursor (ascii "q1") none)), ⟨0⟩, none, ∅,
    [.startOfStartQueryExecution ⟨0⟩,
      .call (.startQueryExecution selectOneInput) (.started (.ok (ascii "q1"))),
      polled (ascii "q1") (responseQ1 .succeeded none), .printCost (some (responseQ1 .succeeded none)),
      .newRows (ascii "q1") (.ok (.cursor (ascii "q1") none))]⟩

/-- `SELECT 1`, money-wise, Succeeded on the first poll: one `printCost`, of that poll's response. -/
theorem terminal_outcome_prints_cost_once_after_success :
    ∃ pre input queryID reply post,
      selectOneSucceededMoneyWise.log =
        pre ++ .call (.getQueryExecution queryID) (.status reply) :: .printCost reply.toOption :: post ∧
      Event.call (.startQueryExecution input) (.started (.ok queryID)) ∈ pre ∧
      (∀ e ∈ post, e.isStatusCall = false) ∧
      selectOneSucceededMoneyWise.log.filter Event.isPrintCost = [.printCost reply.toOption] :=
  terminal_outcome_prints_cost_once reference moneyWiseConfig rfl
    (rfl : prologue reference moneyWiseConfig pingQuery [] = .proceed ⟨[], pingQuery, pingQuery, []⟩)
    rfl (by decide) ⟨⟨0⟩, none, ∅, selectOneSucceeds, rfl⟩ rfl
    ⟨polled (ascii "q1") (responseQ1 .succeeded none),
      List.mem_cons_of_mem _ (List.mem_cons_of_mem _ (List.mem_cons_self _ _)),
      (Or.inl rfl : (responseQ1 .succeeded none).state? = some .succeeded ∨ _)⟩

/-- A run that returned on a poll answered Failed, its last event, has logged no
`printCost`, whatever the configuration. -/
theorem failed_outcome_prints_no_cost {query : GoString} {namedArgs : List NamedValue} {plan : Plan}
    {s : Session} (proceeds : prologue X cfg query namedArgs = .proceed plan)
    (submits : X.isQID plan.query = false) (notGetQID : plan.pseudoCommand ≠ pcGetQID)
    (reached : QueryContextRun X cfg query namedArgs s) (returned : s.phase = .returned result)
    (failed : ∃ queryID resp, s.log.getLast? = some (polled queryID resp) ∧ resp.state? = some .failed) :
    s.log.filter Event.isPrintCost = [] := by
  obtain ⟨queryID', resp', last, state⟩ := failed
  rcases returned_after_submission X cfg proceeds submits notGetQID reached returned with
    before | ⟨pre, input, queryID, start, rounds, ending, before, -, hlog, rrounds, outcome | absent⟩
  · exact List.filter_eq_nil_iff.2 fun e mem => by simp [Event.isPrintCost_of_beforeSubmission (before e mem)]
  all_goals rw [hlog, (printCost_in_ending X cfg before rrounds input ending).1]
  · rw [hlog, getLast?_after_submission outcome.ne_nil] at last
    exact outcome.no_printCost_of_failed X cfg last state
  · cases absent <;> simp [polled, Event.isPrintCost]

/-- A run of `SELECT 1`: submitted as `q1`, and Failed on the first poll with the
reason `boom`. -/
def selectOneFails : List Input :=
  [.reply (.started (.ok (ascii "q1"))), .reply (.status (.ok (responseQ1 .failed (some (ascii "boom")))))]

/-- Where that run ends: the reason returned, after the poll. -/
def selectOneFailed : Session :=
  ⟨.returned (fail (.new (ascii "boom"))), ⟨0⟩, none, ∅,
    [.startOfStartQueryExecution ⟨0⟩,
      .call (.startQueryExecution selectOneInput) (.started (.ok (ascii "q1"))),
      polled (ascii "q1") (responseQ1 .failed (some (ascii "boom")))]⟩

/-- Money-wise, `SELECT 1` Failed with the reason `boom` returns it with no `printCost`. -/
theorem failed_outcome_prints_no_cost_money_wise :
    moneyWiseConfig.isMoneyWise = true ∧
      run reference moneyWiseConfig (queryContext reference moneyWiseConfig pingQuery [] ⟨0⟩ none ∅)
        selectOneFails = some selectOneFailed ∧
      selectOneFailed.log.filter Event.isPrintCost = [] :=
  ⟨rfl, rfl, failed_outcome_prints_no_cost reference moneyWiseConfig
    (rfl : prologue reference moneyWiseConfig pingQuery [] = .proceed ⟨[], pingQuery, pingQuery, []⟩)
    rfl (by decide) ⟨⟨0⟩, none, ∅, selectOneFails, rfl⟩ rfl ⟨_, _, rfl, rfl⟩⟩

end Outcomes

end AthenaDriver
