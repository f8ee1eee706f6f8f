/-
# AthenaDriver.Cancelled — QueryContext once its context is done

Once the caller's context is done, the `select` of the poll loop returns on
`<-ctx.Done()` at its next wait. With a positive poll interval the timer of a
`select` entered after the cancellation cannot be ready first; only a `select`
entered before it, whose timer was ready by then, may still go round once more.
`budget d phase` counts the remote calls QueryContext can still make from
`phase` when its context is done since `d.time`. Every move of the environment
spends from it at least the calls it logs (`step_budget`), so the calls a run
logs after the cancellation never pass the budget of the phase it started from
(`run_budget`): six at most, from a wait on `GetWorkGroup`.

Main results:
* `cancelled_invocation_calls_at_most_six` — with a positive poll interval, at
  most six remote calls once the context is done.
-/
import AthenaDriver.Memoizer

namespace AthenaDriver

set_option autoImplicit false

/-- The remote calls QueryContext can still make from `phase` once its context
is done since `d.time`. A `select` entered no earlier than that returns on the
cancellation; one entered before it may take its timer and poll once more. -/
def budget (d : Cancellation) : Phase → Nat
  | .getWorkGroup _ => 6
  | .joinWorkGroup _ => 5
  | .createWorkGroup _ => 5
  | .startQueryExecution _ _ _ => 4
  | .poll _ _ => 3
  | .select _ _ _ since => if d.time.ns ≤ since.ns then 2 else 3
  | .stop _ _ => 2
  | .finalStatus _ _ => 1
  | .getQueryIDStatus _ => 1
  | .stopQueryID _ => 1
  | .newRows _ => 0
  | .returned _ => 0

theorem budget_le_six (d : Cancellation) (phase : Phase) : budget d phase ≤ 6 := by
  cases phase <;> simp only [budget] <;> (try split) <;> omega

theorem countP_quiet {events : List Event} (quiet : ∀ e ∈ events, e.isCall = false) :
    events.countP Event.isCall = 0 :=
  List.countP_eq_zero.2 fun e mem => by simp [quiet e mem]

section Budget

variable (X : Helpers) (cfg : Config) (d : Cancellation)

theorem afterGate_budget (plan : Plan) (now : Time) : budget d (afterGate X cfg plan now).2 ≤ 4 := by
  unfold afterGate answerOrSubmit cachedQuery
  split
  · split
    · simp [budget]
    · split <;> simp [budget]
  · split <;> simp [budget]

theorem afterLookup_budget (plan : Plan) (now : Time) (r : Except GoError AthenaWorkGroup) :
    budget d (afterLookup X cfg plan now r).2 ≤ 5 := by
  cases r with
  | error e => simp only [afterLookup]; split <;> simp [budget]
  | ok wg =>
      simp only [afterLookup]
      split
      · simp [budget]
      · exact Nat.le_succ_of_le (afterGate_budget X cfg d plan now)

theorem pollStatus_quiet (q : GoString) (start now : Time) (resp : GetQueryExecutionOutput) :
    ∀ e ∈ (pollStatus cfg q start now resp).1, e.isCall = false := by
  rcases pollStatus_cases cfg q start now resp with ⟨st, -, eq⟩ | ⟨-, eq⟩ | ⟨reason, -, eq⟩ |
    ⟨-, eq⟩ | ⟨-, eq⟩ <;> rw [eq]
  all_goals first | exact costOf_no_call cfg _ | simp

/-- A poll answered after the cancellation leaves no `select` whose timer can win. -/
theorem pollStatus_budget (q : GoString) (start : Time) {now : Time} (past : d.time.ns ≤ now.ns)
    (resp : GetQueryExecutionOutput) : budget d (pollStatus cfg q start now resp).2 ≤ 2 := by
  rcases pollStatus_cases cfg q start now resp with ⟨st, -, eq⟩ | ⟨-, eq⟩ | ⟨reason, -, eq⟩ |
    ⟨-, eq⟩ | ⟨-, eq⟩ <;> simp [eq, budget, past]

theorem afterStart_budget (pseudoCommand : GoString) (start : Time) (r : Except GoError GoString) :
    budget d (afterStart pseudoCommand start r).2 ≤ 3 := by
  cases r <;> simp only [afterStart] <;> (try split) <;> simp [budget]

theorem logged_spends {c : Call} {r : Reply} {next : List Event × Phase} {m : Nat}
    (quiet : ∀ e ∈ next.1, e.isCall = false) (within : budget d next.2 < m) :
    (logged c r next).1.countP Event.isCall + budget d (logged c r next).2 ≤ m := by
  simp only [logged, List.countP_cons, countP_quiet quiet, Event.isCall, if_true]
  omega

/-- A reply spends from the budget at least the call it logs. -/
theorem resume_budget {phase : Phase} {now : Time} (past : d.time.ns ≤ now.ns) {r : Reply}
    {next : List Event × Phase} (resumed : phase.resume X cfg now r = some next) :
    next.1.countP Event.isCall + budget d next.2 ≤ budget d phase := by
  cases phase <;> cases r <;> cases resumed
  case getWorkGroup.workGroup plan reply =>
    exact logged_spends d (afterLookup_quiet X cfg plan now reply).1
      (Nat.lt_succ_of_le (afterLookup_budget X cfg d plan now reply))
  case joinWorkGroup.joined plan reply =>
    simpa [List.countP_cons, countP_quiet (afterLookup_quiet X cfg plan now reply).1, Event.isCall,
      budget] using afterLookup_budget X cfg d plan now reply
  case createWorkGroup.created plan reply =>
    cases reply
    · exact logged_spends d (by simp) (by simp [budget])
    · exact logged_spends d (afterGate_quiet X cfg plan now).1
        (Nat.lt_succ_of_le (afterGate_budget X cfg d plan now))
  case startQueryExecution.started pseudoCommand input start reply =>
    exact logged_spends d (by cases reply <;> simp only [afterStart] <;> (try split) <;> simp)
      (Nat.lt_succ_of_le (afterStart_budget d pseudoCommand start reply))
  case poll.status q start reply =>
    cases reply with
    | error e => exact logged_spends d (by simp) (by simp [budget])
    | ok resp =>
        exact logged_spends d (pollStatus_quiet cfg q start now resp)
          (Nat.lt_succ_of_le (pollStatus_budget cfg d q start past resp))
  case stop.stopped q ctxErr reply =>
    cases reply with
    | error e => exact logged_spends d (by simp) (by simp [budget])
    | ok u =>
        by_cases money : cfg.isMoneyWise
        all_goals exact logged_spends d (by simp [money]) (by simp [money, budget])
  case newRows.rows q reply => simp [Event.isCall, budget]
  all_goals exact logged_spends d (by simp [Event.isCall]) (by simp [budget])

/-- One move once the context is done: the context stays done, the clock stays
past the cancellation, and the calls logged come out of the budget. -/
theorem step_budget (pos : 0 < cfg.resultPollInterval) {s s' : Session} {input : Input}
    (done : s.done = some d) (past : d.time.ns ≤ s.clock.ns) (moved : step X cfg s input = some s') :
    s'.done = some d ∧ d.time.ns ≤ s'.clock.ns ∧
      ∃ more, s'.log = s.log ++ more ∧ more.countP Event.isCall + budget d s'.phase ≤ budget d s.phase := by
  rcases step_cases X cfg moved with ⟨hp, hl, -, -, kept, later⟩ | ⟨r, next, resumed, rfl⟩ |
    ⟨q, t, st, since, -, hp, -, -, rfl⟩ | ⟨q, t, st, since, hp, ready, rfl⟩
  · exact ⟨kept d done, Int.le_trans past later, [], by simp [hl], by simp [hp]⟩
  · exact ⟨done, past, next.1, rfl, resume_budget X cfg d past resumed⟩
  · refine ⟨done, past, [.cancelBranch], rfl, ?_⟩
    rw [hp]
    simp only [budget]
    split <;> simp [Event.isCall]
  · refine ⟨done, past, [.timerBranch t s.clock], rfl, ?_⟩
    simp only [timerReady, timerAt, done, Option.all_some, Bool.and_eq_true, decide_eq_true_eq] at ready
    have raced : ¬d.time.ns ≤ since.ns := by
      have pos : (0 : Int) < cfg.resultPollInterval := pos
      omega
    rw [hp]
    by_cases timeout : X.isQueryTimeOut t st cfg.serviceLimitOverride s.clock <;>
      simp [timeout, budget, raced, Event.isCall]

theorem run_budget (pos : 0 < cfg.resultPollInterval) :
    ∀ {s s' : Session} {inputs : List Input}, s.done = some d → d.time.ns ≤ s.clock.ns →
      run X cfg s inputs = some s' → ∃ more, s'.log = s.log ++ more ∧
        more.countP Event.isCall ≤ budget d s.phase
  | s, s', [], _, _, ran => by cases ran; exact ⟨[], by simp, by simp⟩
  | s, s', input :: inputs, done, past, ran => by
      simp only [run, Option.bind_eq_some] at ran
      obtain ⟨mid, moved, ran⟩ := ran
      obtain ⟨done', past', more, grew, spent⟩ := step_budget X cfg d pos done past moved
      obtain ⟨more', grew', spent'⟩ := run_budget pos done' past' ran
      exact ⟨more ++ more', by rw [grew', grew, List.append_assoc], by
        rw [List.countP_append]; omega⟩

/-- With a positive poll interval, QueryContext makes at most six remote calls
once the caller's context is done, whatever the replies and their timing: the
`select` then returns on the cancellation, after at most one more poll. -/
theorem cancelled_invocation_calls_at_most_six (pos : 0 < cfg.resultPollInterval) {s s' : Session}
    (done : s.done = some d) (past : d.time.ns ≤ s.clock.ns) {inputs : List Input}
    (ran : run X cfg s inputs = some s') :
    ∃ more, s'.log = s.log ++ more ∧ more.countP Event.isCall ≤ 6 := by
  obtain ⟨more, grew, spent⟩ := run_budget X cfg d pos done past ran
  exact ⟨more, grew, Nat.le_trans spent (budget_le_six d s.phase)⟩

end Budget

/-- `SELECT 1`, submitted as `q1`, with the caller's context done at time zero. -/
def selectOneCancelled : Session :=
  ⟨.poll (ascii "q1") ⟨0⟩, ⟨0⟩, some ⟨.canceled, ⟨0⟩⟩, ∅,
    [.startOfStartQueryExecution ⟨0⟩, .call (.startQueryExecution selectOneInput) (.started (.ok (ascii "q1")))]⟩

/-- After the cancellation: a Running status, the cancellation branch, and the
stop, two calls. -/
theorem cancelled_invocation_calls_at_most_six_after_running :
    ∃ more, selectOneCancelled.log ++
        [polled (ascii "q1") (responseQ1 .running none), .cancelBranch,
          .call (.stopQueryExecution (ascii "q1")) (.stopped (.ok ()))] =
      selectOneCancelled.log ++ more ∧ more.countP Event.isCall ≤ 6 :=
  @cancelled_invocation_calls_at_most_six reference referenceConfig ⟨.canceled, ⟨0⟩⟩ (by decide)
    selectOneCancelled
    ⟨.returned (fail .canceled), ⟨0⟩, some ⟨.canceled, ⟨0⟩⟩, ∅, selectOneCancelled.log ++
      [polled (ascii "q1") (responseQ1 .running none), .cancelBranch,
        .call (.stopQueryExecution (ascii "q1")) (.stopped (.ok ()))]⟩
    rfl (Int.le_refl _)
    [.reply (.status (.ok (responseQ1 .running none))), .selectCancel, .reply (.stopped (.ok ()))] rfl

end AthenaDriver
