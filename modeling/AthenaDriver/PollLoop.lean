/-
# AthenaDriver.PollLoop — what QueryContext does once its query is submitted

For a query QueryContext submits (not a QID, not wrapped by `pc:get_query_id`),
the log of every run is a grammar: events of the workgroup gate and of a failed
submission, then, once `StartQueryExecution` returned `queryID`, the `Rounds` of
the poll loop that went on (a Queued or Running status, then the timer branch
with no timeout), then the last round. When QueryContext has returned, the last
round and the result are one of the `Outcome`s, or a `NilDereference` of the
status switch.

Main results:
* `pollStatus_cases` — the status switch, by outcome.
* `Polling.resume`, `Polling.select` — one step of the poll loop keeps the grammar.
* `submission_invariant` — every state of every run is before the submission,
  or in the grammar after it.
-/
import AthenaDriver.Run

namespace AthenaDriver

set_option autoImplicit false

/-! ## Responses -/

/-- The state of a response, when it has a status. -/
def GetQueryExecutionOutput.state? (resp : GetQueryExecutionOutput) : Option QueryExecutionState :=
  resp.status?.map (·.state)

/-- The statement type of a response whose status keeps the poll loop going,
Queued or Running. -/
def GetQueryExecutionOutput.pendingType (resp : GetQueryExecutionOutput) : Option GoString :=
  match resp.queryExecution with
  | some execution =>
      match execution.status with
      | some status =>
          if status.state = .queued ∨ status.state = .running then some execution.statementType
          else none
      | none => none
  | none => none

variable (X : Helpers) (cfg : Config)

/-- The status switch of the poll loop, by outcome. -/
theorem pollStatus_cases (queryID : GoString) (start now : Time) (resp : GetQueryExecutionOutput) :
    (∃ statementType, resp.pendingType = some statementType ∧
      pollStatus cfg queryID start now resp = ([], .select queryID start statementType now)) ∨
    (resp.state? = some .cancelled ∧
      pollStatus cfg queryID start now resp = (costOf cfg (some resp), .returned (fail .canceled))) ∨
    (∃ reason, resp.status? = some ⟨.failed, some reason⟩ ∧
      pollStatus cfg queryID start now resp = ([], .returned (fail (.new reason)))) ∨
    (resp.state? = some .succeeded ∧
      pollStatus cfg queryID start now resp = (costOf cfg (some resp), .newRows queryID)) ∨
    ((resp.status? = none ∨ resp.status? = some ⟨.failed, none⟩) ∧
      pollStatus cfg queryID start now resp = ([], .returned (throw (.panic .nilDereference)))) := by
  rcases resp with ⟨_ | ⟨_, _ | ⟨state, reason⟩, _, _⟩⟩
  · simp [pollStatus, GetQueryExecutionOutput.status?]
  · simp [pollStatus, GetQueryExecutionOutput.status?]
  · cases state <;> (try cases reason) <;>
      simp [pollStatus, GetQueryExecutionOutput.status?, GetQueryExecutionOutput.state?,
        GetQueryExecutionOutput.pendingType, deref]
    all_goals rfl

/-! ## The grammar of the poll loop -/

/-- What a run logs before QueryContext has submitted: a lookup, a creation, the
clock read the submission starts with, or a submission that failed. -/
def Event.beforeSubmission : Event → Bool
  | .cacheHit _ _ => true
  | .joined _ _ => true
  | .startOfStartQueryExecution _ => true
  | .call (.getWorkGroup _) _ => true
  | .call (.createWorkGroup _ _) _ => true
  | .call (.startQueryExecution _) (.started (.error _)) => true
  | _ => false

/-- What precedes a submission, its clock read included. -/
theorem beforeSubmission_stamped {pre : List Event} (before : ∀ e ∈ pre, e.beforeSubmission) (start : Time) :
    ∀ e ∈ pre ++ [.startOfStartQueryExecution start], e.beforeSubmission := fun e mem =>
  (List.mem_append.1 mem).elim (before e) fun new => by obtain rfl := List.mem_singleton.1 new; rfl

/-- A poll of `queryID` answered with `resp`. -/
def polled (queryID : GoString) (resp : GetQueryExecutionOutput) : Event :=
  .call (.getQueryExecution queryID) (.status (.ok resp))

section Grammar

variable (queryID : GoString) (start : Time)

/-- The rounds of the poll loop that went on, oldest first: a Queued or Running
status, then the timer branch with no timeout. -/
inductive Rounds : List Event → Prop
  | nil : Rounds []
  | round {events : List Event} {resp : GetQueryExecutionOutput} {statementType : GoString}
      {now : Time} : Rounds events → resp.pendingType = some statementType →
      X.isQueryTimeOut start statementType cfg.serviceLimitOverride now = false →
      Rounds (events ++ [polled queryID resp, .timerBranch start now])

/-- What follows a successful stop: nothing, or, money-wise, the final poll and
its `printCost`. -/
def AfterStop (final : List Event) : Prop :=
  if cfg.isMoneyWise then
    ∃ reply, final = [.call (.getQueryExecution queryID) (.status reply), .printCost reply.toOption]
  else final = []

/-- The last round of the poll loop and QueryContext's result, the caller's
context being `done`: the rows `NewRows` builds after Succeeded, `context.Canceled`
after Cancelled, the reason after Failed, the poll's error, `ErrQueryTimeout` on
the timer branch, and on the cancellation branch `ctx.Err()` after a successful
stop or the stop's error. -/
inductive Outcome (done : Option Cancellation) : List Event → Go Rows → Prop
  | succeeded {resp : GetQueryExecutionOutput} {reply : Except GoError Rows} :
      resp.state? = some .succeeded →
      Outcome done (polled queryID resp :: costOf cfg (some resp) ++ [.newRows queryID reply])
        (reply.mapError .error)
  | cancelled {resp : GetQueryExecutionOutput} : resp.state? = some .cancelled →
      Outcome done (polled queryID resp :: costOf cfg (some resp)) (fail .canceled)
  | failed {resp : GetQueryExecutionOutput} {reason : GoString} :
      resp.status? = some ⟨.failed, some reason⟩ →
      Outcome done [polled queryID resp] (fail (.new reason))
  | pollFailed {e : GoError} :
      Outcome done [.call (.getQueryExecution queryID) (.status (.error e))] (fail e)
  | timedOut {resp : GetQueryExecutionOutput} {statementType : GoString} {now : Time} :
      resp.pendingType = some statementType →
      X.isQueryTimeOut start statementType cfg.serviceLimitOverride now = true →
      Outcome done [polled queryID resp, .timerBranch start now] (fail .errQueryTimeout)
  | stopped {resp : GetQueryExecutionOutput} {statementType : GoString} {d : Cancellation}
      {final : List Event} : resp.pendingType = some statementType → done = some d →
      AfterStop cfg queryID final →
      Outcome done ([polled queryID resp, .cancelBranch,
        .call (.stopQueryExecution queryID) (.stopped (.ok ()))] ++ final) (fail d.cause.err)
  | stopFailed {resp : GetQueryExecutionOutput} {statementType : GoString} {e : GoError} :
      resp.pendingType = some statementType →
      Outcome done [polled queryID resp, .cancelBranch,
        .call (.stopQueryExecution queryID) (.stopped (.error e))] (fail e)

/-- The last round of the poll loop when its status switch dereferences an
absent `Status` or `StateChangeReason`. -/
inductive NilDereference : List Event → Go Rows → Prop
  | noStatus {resp : GetQueryExecutionOutput} : resp.status? = none →
      NilDereference [polled queryID resp] (throw (.panic .nilDereference))
  | noReason {resp : GetQueryExecutionOutput} : resp.status? = some ⟨.failed, none⟩ →
      NilDereference [polled queryID resp] (throw (.panic .nilDereference))

/-- The poll loop of `queryID`, submitted at `start`, waits at `phase` with the
caller's context `done`, having logged `events` since the submission. -/
def Polling (phase : Phase) (done : Option Cancellation) (events : List Event) : Prop :=
  match phase with
  | .poll q t => q = queryID ∧ t = start ∧ Rounds X cfg queryID start events
  | .select q t statementType _ => q = queryID ∧ t = start ∧
      ∃ rounds resp, Rounds X cfg queryID start rounds ∧ resp.pendingType = some statementType ∧
        events = rounds ++ [polled queryID resp]
  | .stop q ctxErr => q = queryID ∧
      ∃ rounds resp statementType d, Rounds X cfg queryID start rounds ∧
        resp.pendingType = some statementType ∧ done = some d ∧ ctxErr = d.cause.err ∧
        events = rounds ++ [polled queryID resp, .cancelBranch]
  | .finalStatus q ctxErr => q = queryID ∧ cfg.isMoneyWise = true ∧
      ∃ rounds resp statementType d, Rounds X cfg queryID start rounds ∧
        resp.pendingType = some statementType ∧ done = some d ∧ ctxErr = d.cause.err ∧
        events = rounds ++ [polled queryID resp, .cancelBranch,
          .call (.stopQueryExecution queryID) (.stopped (.ok ()))]
  | .newRows q => q = queryID ∧
      ∃ rounds resp, Rounds X cfg queryID start rounds ∧ resp.state? = some .succeeded ∧
        events = rounds ++ polled queryID resp :: costOf cfg (some resp)
  | .returned result => ∃ rounds ending, Rounds X cfg queryID start rounds ∧
      (Outcome X cfg queryID start done ending result ∨ NilDereference queryID ending result) ∧
        events = rounds ++ ending
  | _ => False

theorem Outcome.of_done {done done' : Option Cancellation} {ending : List Event} {result : Go Rows}
    (outcome : Outcome X cfg queryID start done ending result)
    (kept : ∀ d, done = some d → done' = some d) : Outcome X cfg queryID start done' ending result := by
  cases outcome with
  | stopped pending hd after => exact .stopped pending (kept _ hd) after
  | succeeded h => exact .succeeded h
  | cancelled h => exact .cancelled h
  | failed h => exact .failed h
  | pollFailed => exact .pollFailed
  | timedOut h timeout => exact .timedOut h timeout
  | stopFailed h => exact .stopFailed h

/-- The grammar reads the caller's context only once it is done, and a done
context stays done. -/
theorem Polling.of_done {phase : Phase} {done done' : Option Cancellation} {events : List Event}
    (polling : Polling X cfg queryID start phase done events)
    (kept : ∀ d, done = some d → done' = some d) : Polling X cfg queryID start phase done' events := by
  cases phase <;> simp only [Polling] at polling ⊢
  case stop => obtain ⟨hq, rounds, resp, st, d, h⟩ := polling; exact ⟨hq, rounds, resp, st, d,
    h.1, h.2.1, kept d h.2.2.1, h.2.2.2⟩
  case finalStatus => obtain ⟨hq, hm, rounds, resp, st, d, h⟩ := polling; exact ⟨hq, hm, rounds, resp,
    st, d, h.1, h.2.1, kept d h.2.2.1, h.2.2.2⟩
  case returned => obtain ⟨rounds, ending, h, outcome, he⟩ := polling
                   exact ⟨rounds, ending, h, outcome.imp_left (·.of_done X cfg queryID start kept), he⟩
  all_goals exact polling

/-- A reply to the call in flight keeps the grammar. -/
theorem Polling.resume {phase : Phase} {done : Option Cancellation} {events : List Event} {now : Time}
    {r : Reply} {next : List Event × Phase} (polling : Polling X cfg queryID start phase done events)
    (resumed : phase.resume X cfg now r = some next) :
    Polling X cfg queryID start next.2 done (events ++ next.1) := by
  cases phase <;> simp only [Polling] at polling
  case poll q t =>
    obtain ⟨rfl, rfl, rounds⟩ := polling
    cases r <;> simp only [Phase.resume, Option.some.injEq, reduceCtorEq] at resumed
    rename_i reply; subst resumed
    cases reply with
    | error e => exact ⟨events, _, rounds, .inl .pollFailed, rfl⟩
    | ok resp =>
        rcases pollStatus_cases cfg q t now resp with ⟨st, pending, eq⟩ | ⟨cancelled, eq⟩ |
          ⟨reason, failed, eq⟩ | ⟨succeeded, eq⟩ | ⟨absent | absent, eq⟩ <;>
          simp only [logged, eq, Polling, true_and]
        · exact ⟨events, resp, rounds, pending, rfl⟩
        · exact ⟨events, _, rounds, .inl (.cancelled cancelled), rfl⟩
        · exact ⟨events, _, rounds, .inl (.failed failed), rfl⟩
        · exact ⟨events, resp, rounds, succeeded, rfl⟩
        · exact ⟨events, _, rounds, .inr (.noStatus absent), rfl⟩
        · exact ⟨events, _, rounds, .inr (.noReason absent), rfl⟩
  case stop q ctxErr =>
    obtain ⟨rfl, rounds, resp, st, d, rrounds, pending, hd, rfl, rfl⟩ := polling
    cases r <;> simp only [Phase.resume, Option.some.injEq, reduceCtorEq] at resumed
    rename_i reply; subst resumed
    cases reply with
    | error e => exact ⟨rounds, _, rrounds, .inl (.stopFailed pending), by simp [logged]⟩
    | ok u =>
        cases moneyWise : cfg.isMoneyWise <;> simp only [logged, moneyWise, Polling]
        · exact ⟨rounds, _, rrounds, .inl (.stopped pending hd (by
            simp only [AfterStop, moneyWise, Bool.false_eq_true, ↓reduceIte]; rfl)), by simp⟩
        · exact ⟨rfl, trivial, rounds, resp, st, d, rrounds, pending, hd, rfl, by simp⟩
  case finalStatus q ctxErr =>
    obtain ⟨rfl, moneyWise, rounds, resp, st, d, rrounds, pending, hd, rfl, rfl⟩ := polling
    cases r <;> simp only [Phase.resume, Option.some.injEq, reduceCtorEq] at resumed
    rename_i reply; subst resumed
    exact ⟨rounds, _, rrounds, .inl (.stopped pending hd (by
      simp only [AfterStop, moneyWise, ↓reduceIte]; exact ⟨reply, rfl⟩)), by simp [logged]⟩
  case newRows q =>
    obtain ⟨rfl, rounds, resp, rrounds, succeeded, rfl⟩ := polling
    cases r <;> simp only [Phase.resume, Option.some.injEq, reduceCtorEq] at resumed
    subst resumed
    exact ⟨rounds, _, rrounds, .inl (.succeeded succeeded), by simp⟩
  case select => cases r <;> simp [Phase.resume] at resumed
  case returned => cases r <;> simp [Phase.resume] at resumed

/-- The cancellation branch of the `select` keeps the grammar. -/
theorem Polling.selectCancel {q : GoString} {t : Time} {statementType : GoString} {since : Time}
    {d : Cancellation} {events : List Event}
    (polling : Polling X cfg queryID start (.select q t statementType since) (some d) events) :
    Polling X cfg queryID start (.stop q d.cause.err) (some d) (events ++ [.cancelBranch]) := by
  obtain ⟨rfl, rfl, rounds, resp, rrounds, pending, rfl⟩ := polling
  exact ⟨rfl, rounds, resp, statementType, d, rrounds, pending, rfl, rfl, by simp⟩

/-- The timer branch of the `select` keeps the grammar. -/
theorem Polling.selectTimer {q : GoString} {t : Time} {statementType : GoString} {since now : Time}
    {done : Option Cancellation} {events : List Event}
    (polling : Polling X cfg queryID start (.select q t statementType since) done events) :
    Polling X cfg queryID start
      (if X.isQueryTimeOut t statementType cfg.serviceLimitOverride now then
        .returned (fail .errQueryTimeout) else .poll q t)
      done (events ++ [.timerBranch t now]) := by
  obtain ⟨rfl, rfl, rounds, resp, rrounds, pending, rfl⟩ := polling
  cases timeout : X.isQueryTimeOut t statementType cfg.serviceLimitOverride now <;>
    simp only [Bool.false_eq_true, ↓reduceIte, Polling, true_and]
  · simpa using rrounds.round pending timeout
  · exact ⟨rounds, _, rrounds, .inl (.timedOut pending timeout), by simp⟩

end Grammar

/-! ## Before the submission, and the whole run -/

/-- Where QueryContext may wait, having logged `log`, before it has submitted
`plan`: a wait on `StartQueryExecution` comes right after the clock read it
submits at. -/
def Phase.BeforeSubmission (plan : Plan) (log : List Event) : Phase → Prop
  | .getWorkGroup p | .joinWorkGroup p | .createWorkGroup p => p = plan
  | .startQueryExecution pseudoCommand _ start =>
      pseudoCommand = plan.pseudoCommand ∧ ∃ pre, log = pre ++ [.startOfStartQueryExecution start]
  | .returned _ => True
  | _ => False

/-- Where a run of QueryContext on `plan` stands: before the submission, or in
the poll loop's grammar after it, the rounds timed from the clock read that
preceded the submission. -/
def Submission (plan : Plan) (s : Session) : Prop :=
  ((∀ e ∈ s.log, e.beforeSubmission) ∧ s.phase.BeforeSubmission plan s.log) ∨
  ∃ pre input queryID start events, (∀ e ∈ pre, e.beforeSubmission) ∧
    s.log = pre ++ .startOfStartQueryExecution start ::
      .call (.startQueryExecution input) (.started (.ok queryID)) :: events ∧
    Polling X cfg queryID start s.phase s.done events

section Submission

variable {plan : Plan} (submits : X.isQID plan.query = false)

include submits

theorem afterGate_beforeSubmission (now : Time) (log : List Event) :
    (afterGate X cfg plan now).1 = [.startOfStartQueryExecution now] ∧
      (afterGate X cfg plan now).2.BeforeSubmission plan (log ++ (afterGate X cfg plan now).1) := by
  simp only [afterGate, answerOrSubmit, submits, Bool.false_eq_true, ↓reduceIte]
  split <;> simp [Phase.BeforeSubmission]

theorem afterLookup_beforeSubmission (now : Time) (r : Except GoError AthenaWorkGroup) (log : List Event) :
    (∀ e ∈ (afterLookup X cfg plan now r).1, e.beforeSubmission) ∧
      (afterLookup X cfg plan now r).2.BeforeSubmission plan (log ++ (afterLookup X cfg plan now r).1) := by
  cases r with
  | error e => simp only [afterLookup]; split <;> simp [Phase.BeforeSubmission]
  | ok wg =>
      simp only [afterLookup]
      split
      · simp [Phase.BeforeSubmission]
      · obtain ⟨clock, waits⟩ := afterGate_beforeSubmission X cfg submits now log
        exact ⟨by simp [clock, Event.beforeSubmission], waits⟩

theorem gate_beforeSubmission (now : Time) (cache : WGCache) :
    (∀ e ∈ (gate X cfg plan now cache).1, e.beforeSubmission) ∧
      (gate X cfg plan now cache).2.BeforeSubmission plan (gate X cfg plan now cache).1 := by
  unfold gate
  split
  · obtain ⟨clock, waits⟩ := afterGate_beforeSubmission X cfg submits now []
    exact ⟨by simp [clock, Event.beforeSubmission], waits⟩
  · split
    · obtain ⟨quiet, waits⟩ := afterLookup_beforeSubmission X cfg submits now (.ok ‹_›) [.cacheHit _ ‹_›]
      exact ⟨by simpa [Event.beforeSubmission] using quiet, waits⟩
    · split <;> simp [Phase.BeforeSubmission]

variable (notGetQID : plan.pseudoCommand ≠ pcGetQID)

include notGetQID

/-- A reply before the submission leads to another phase before it, or to the
poll loop with nothing logged but the submission's success, right after the
clock read it submitted at. -/
theorem beforeSubmission_resume {phase : Phase} {log : List Event} {now : Time} {r : Reply}
    {next : List Event × Phase} (before : phase.BeforeSubmission plan log)
    (resumed : phase.resume X cfg now r = some next) :
    ((∀ e ∈ next.1, e.beforeSubmission) ∧ next.2.BeforeSubmission plan (log ++ next.1)) ∨
      ∃ pre input queryID start, log = pre ++ [.startOfStartQueryExecution start] ∧
        next = ([.call (.startQueryExecution input) (.started (.ok queryID))], .poll queryID start) := by
  cases phase <;> simp only [Phase.BeforeSubmission] at before <;>
    cases r <;> cases resumed
  case getWorkGroup.workGroup reply =>
    subst before
    obtain ⟨quiet, waits⟩ := afterLookup_beforeSubmission X cfg submits now reply
      (log ++ [.call (.getWorkGroup cfg.workgroup.name) (.workGroup reply)])
    exact .inl ⟨by simpa [logged, Event.beforeSubmission] using quiet, by simpa [logged] using waits⟩
  case joinWorkGroup.joined reply =>
    subst before
    obtain ⟨quiet, waits⟩ := afterLookup_beforeSubmission X cfg submits now reply
      (log ++ [.joined cfg.workgroup.name reply])
    exact .inl ⟨by simpa [Event.beforeSubmission] using quiet, by simpa using waits⟩
  case createWorkGroup.created reply =>
    subst before
    cases reply with
    | error e => exact .inl ⟨by simp [logged, Event.beforeSubmission], trivial⟩
    | ok u =>
        obtain ⟨clock, waits⟩ := afterGate_beforeSubmission X cfg submits now
          (log ++ [.call (.createWorkGroup cfg.workgroup.name cfg.workgroup.tags) (.created (.ok u))])
        exact .inl ⟨by simp [logged, clock, Event.beforeSubmission], by simpa [logged] using waits⟩
  case startQueryExecution.started pseudoCommand input start reply =>
    obtain ⟨same, pre, stamped⟩ := before
    cases reply with
    | error e => exact .inl ⟨by simp [logged, afterStart, Event.beforeSubmission], trivial⟩
    | ok queryID => exact .inr ⟨pre, input, queryID, start, stamped,
        by simp [logged, afterStart, same, notGetQID]⟩

/-- Every step keeps `Submission`. -/
theorem submission_step {s s' : Session} {input : Input} (holds : Submission X cfg plan s)
    (moved : step X cfg s input = some s') : Submission X cfg plan s' := by
  rcases step_cases X cfg moved with ⟨hp, hl, -, -, hd, -⟩ | ⟨r, next, resumed, rfl⟩ |
    ⟨q, t, st, since, d, hp, hd, -, rfl⟩ | ⟨q, t, st, since, hp, -, rfl⟩ <;>
    rcases holds with ⟨hlog, hphase⟩ | ⟨pre, input, queryID, start, events, hpre, hlog, polling⟩
  · exact .inl ⟨hl ▸ hlog, hp ▸ hl ▸ hphase⟩
  · exact .inr ⟨pre, input, queryID, start, events, hpre, hl ▸ hlog, hp ▸ polling.of_done X cfg _ _ hd⟩
  · rcases beforeSubmission_resume X cfg submits notGetQID hphase resumed with
      ⟨hnext, hphase'⟩ | ⟨pre, input, queryID, start, stamped, rfl⟩
    · refine .inl ⟨fun e he => ?_, hphase'⟩
      rcases List.mem_append.1 he with h | h
      exacts [hlog e h, hnext e h]
    · exact .inr ⟨pre, input, queryID, start, [], fun e he => hlog e (by simp [stamped, he]),
        by simp [stamped], rfl, rfl, .nil⟩
  · exact .inr ⟨pre, input, queryID, start, events ++ next.1, hpre, by simp [hlog],
      polling.resume X cfg _ _ resumed⟩
  · simp [hp, Phase.BeforeSubmission] at hphase
  · rw [hp, hd] at polling
    exact .inr ⟨pre, input, queryID, start, events ++ [.cancelBranch], hpre, by simp [hlog], by
      simpa [hd] using polling.selectCancel X cfg _ _⟩
  · simp [hp, Phase.BeforeSubmission] at hphase
  · rw [hp] at polling
    exact .inr ⟨pre, input, queryID, start, events ++ [.timerBranch t s.clock], hpre, by simp [hlog],
      polling.selectTimer X cfg _ _⟩

/-- Every state of every run of QueryContext on a query it submits. -/
theorem submission_invariant {query : GoString} {namedArgs : List NamedValue}
    (proceeds : prologue X cfg query namedArgs = .proceed plan) {s : Session}
    (reached : QueryContextRun X cfg query namedArgs s) : Submission X cfg plan s :=
  QueryContextRun.induction X cfg (Submission X cfg plan)
    (fun now _ cache => by
      rw [queryContext_of_proceed X cfg proceeds]
      exact .inl (gate_beforeSubmission X cfg submits now cache))
    (fun _ _ _ holds moved => submission_step X cfg submits notGetQID holds moved) reached

end Submission

end AthenaDriver
