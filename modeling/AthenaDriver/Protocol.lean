/-
# AthenaDriver.Protocol — the remote calls of one QueryContext invocation

A `Stage` of the protocol says which remote calls may come next, and
`Stage.advance` reads one event of the log: a call the stage does not allow is
refused (`none`), a lookup the memoizer answered, from an entry or with the
fetch another invocation had in flight, counts as the lookup, and what is not a
remote call (the clock read, `printCost`, the branches of the `select`, the
hand-off to `NewRows`) leaves the stage alone. `Stage.follow` reads a whole log, and
`Stage.final` says where an invocation may stop.

The protocol states what one invocation may ask of Athena: lookups only for a
configured name that is neither empty nor the default; no call past a lookup
that found no enabled workgroup, unless creation was allowed and succeeded; a
QID query answered by one GetQueryExecution, one StopQueryExecution, or none;
any other query submitted at most once, under the configured workgroup (or
`DefaultWGName` when none is configured), with the text the caller wrote; then only polls of the id it got, after a poll that was
not terminal a stop, and after a successful stop, money-wise, one last poll.

`Tracks` relates where QueryContext waits to a stage of the protocol.

Main results:
* `resume_tracks` — a reply to the call in flight follows the protocol.
* `follows_protocol` — every run of QueryContext follows it.
* `queryContext_follows_protocol` — the log of every run is accepted, and a
  returned invocation stops at a final stage.
-/
import AthenaDriver.PollResult

namespace AthenaDriver

set_option autoImplicit false

/-- Where the protocol of one invocation stands. -/
inductive Stage
  /-- The workgroup lookup is due. -/
  | gate
  /-- The lookup failed and creation is allowed: CreateWorkGroup is due. -/
  | creating
  /-- Past the workgroup gate. -/
  | body
  /-- Submitted as `queryID`: a poll is due. -/
  | polling (queryID : GoString)
  /-- A poll of `queryID` was not terminal: another poll, or a stop. -/
  | waiting (queryID : GoString)
  /-- Stopped, money-wise: the last poll is due. -/
  | stopped (queryID : GoString)
  /-- No further call. -/
  | closed
  deriving DecidableEq, Repr

section Protocol

variable (X : Helpers) (cfg : Config) (plan : Plan)

/-- The first stage: the lookup, unless the configured name is empty or the
default one. -/
def Stage.initial : Stage :=
  if cfg.workgroup.name = [] ∨ cfg.workgroup.name = X.defaultWGName then .body else .gate

/-- The stage after the lookup answered `r`. -/
def Stage.afterLookup : Except GoError AthenaWorkGroup → Stage
  | .ok wg => if wg.state = .enabled then .body else .closed
  | .error _ => if cfg.isWGRemoteCreationAllowed then .creating else .closed

/-- The stage after a poll of `queryID` answered `r`. -/
def Stage.afterPoll (queryID : GoString) : Except GoError GetQueryExecutionOutput → Stage
  | .ok resp => if resp.pendingType.isSome then .waiting queryID else .closed
  | .error _ => .closed

/-- The one submission the protocol allows: of a query that is not a QID, with
the text the caller wrote, under the configured workgroup, or `DefaultWGName`
when none is configured. -/
def Stage.submits (input : StartQueryExecutionInput) : Bool :=
  !X.isQID plan.query && input.queryString == plan.queryWithPlaceholders &&
    input.workGroup == if cfg.workgroup.name = [] then X.defaultWGName else cfg.workgroup.name

/-- What the protocol allows of one event at a stage, and the stage after it. -/
def Stage.advance : Stage → Event → Option Stage
  | .gate, .cacheHit name wg =>
      if name = cfg.workgroup.name then some (Stage.afterLookup cfg (.ok wg)) else none
  | .gate, .joined name r =>
      if name = cfg.workgroup.name then some (Stage.afterLookup cfg r) else none
  | .gate, .call (.getWorkGroup name) (.workGroup r) =>
      if name = cfg.workgroup.name then some (Stage.afterLookup cfg r) else none
  | .creating, .call (.createWorkGroup name _) (.created r) =>
      if name = cfg.workgroup.name then some (if r.isOk then .body else .closed) else none
  | .body, .call (.getQueryExecution q) _ =>
      if X.isQID plan.query ∧ plan.pseudoCommand = pcGetQIDStatus ∧ q = plan.query then some .closed
      else none
  | .body, .call (.stopQueryExecution q) _ =>
      if X.isQID plan.query ∧ plan.pseudoCommand = pcStopQID ∧ q = plan.query then some .closed
      else none
  | .body, .call (.startQueryExecution input) (.started r) =>
      if Stage.submits X cfg plan input then
        some (match r with
          | .ok queryID => if plan.pseudoCommand = pcGetQID then .closed else .polling queryID
          | .error _ => .closed)
      else none
  | .polling queryID, .call (.getQueryExecution q) (.status r)
  | .waiting queryID, .call (.getQueryExecution q) (.status r) =>
      if q = queryID then some (Stage.afterPoll queryID r) else none
  | .waiting queryID, .call (.stopQueryExecution q) (.stopped r) =>
      if q = queryID then some (if r.isOk && cfg.isMoneyWise then .stopped queryID else .closed)
      else none
  | .stopped queryID, .call (.getQueryExecution q) _ => if q = queryID then some .closed else none
  | _, .call _ _ => none
  | _, .cacheHit _ _ => none
  | _, .joined _ _ => none
  | stage, _ => some stage

/-- The stage after a whole log, if the protocol allows it. -/
def Stage.follow (stage : Stage) : List Event → Option Stage
  | [] => some stage
  | e :: events => (stage.advance X cfg plan e).bind fun next => next.follow events

/-- Where an invocation may stop: with no call due, after a poll that was not
terminal (a timeout), or past the gate when no call is due there: for a QID
query not wrapped by a pseudo-command that calls, or for a query whose
execution parameters failed. -/
def Stage.final : Stage → Bool
  | .closed | .waiting _ => true
  | .body => !(X.isQID plan.query &&
      (plan.pseudoCommand == pcGetQIDStatus || plan.pseudoCommand == pcStopQID))
  | _ => false

theorem Stage.follow_append (stage : Stage) (events events' : List Event) :
    stage.follow X cfg plan (events ++ events') =
      (stage.follow X cfg plan events).bind (·.follow X cfg plan events') := by
  induction events generalizing stage with
  | nil => rfl
  | cons e events ih =>
      simp only [List.cons_append, Stage.follow]
      cases stage.advance X cfg plan e <;> simp [ih]

@[simp] theorem Stage.follow_printCost (stage : Stage) (resp : Option GetQueryExecutionOutput)
    (events : List Event) :
    stage.follow X cfg plan (.printCost resp :: events) = stage.follow X cfg plan events := by
  cases stage <;> rfl

theorem Stage.follow_costOf (stage : Stage) (resp : Option GetQueryExecutionOutput) :
    stage.follow X cfg plan (costOf cfg resp) = some stage := by
  unfold costOf; split
  · rw [Stage.follow_printCost]; rfl
  · rfl

theorem GetQueryExecutionOutput.pendingType_isSome (resp : GetQueryExecutionOutput) :
    resp.pendingType.isSome = true ↔ resp.state? = some .queued ∨ resp.state? = some .running := by
  rcases resp with ⟨_ | ⟨_, _ | ⟨state, _⟩, _, _⟩⟩
  · simp [pendingType, state?, status?]
  · simp [pendingType, state?, status?]
  · cases state <;> simp [pendingType, state?, status?]

/-- The protocol accepts a submission only of a query that is not a QID, with the
text the caller wrote, under the configured workgroup or `DefaultWGName`. -/
theorem Stage.follow_submits {stage stage' : Stage} {events : List Event}
    (follow : stage.follow X cfg plan events = some stage') {input : StartQueryExecutionInput}
    {r : Reply} (mem : Event.call (.startQueryExecution input) r ∈ events) :
    Stage.submits X cfg plan input = true := by
  induction events generalizing stage with
  | nil => cases mem
  | cons e events ih =>
      simp only [Stage.follow, Option.bind_eq_some] at follow
      obtain ⟨next, advanced, follow⟩ := follow
      rcases List.mem_cons.1 mem with rfl | mem
      · cases stage <;> cases r <;> try cases advanced
        change (if Stage.submits X cfg plan input then _ else none) = some next at advanced
        split at advanced
        · assumption
        · cases advanced
      · exact ih follow mem

/-- Once past the lookup, the protocol never returns to it, and accepts no
`GetWorkGroup` call. -/
theorem Stage.advance_not_gate {stage next : Stage} {e : Event} (notGate : stage ≠ .gate)
    (advanced : stage.advance X cfg plan e = some next) :
    next ≠ .gate ∧ ∀ n reply, e ≠ .call (.getWorkGroup n) reply := by
  unfold Stage.advance at advanced
  split at advanced
  all_goals first
    | exact absurd rfl notGate
    | cases advanced
    | (split at advanced
       · cases advanced
         refine ⟨?_, by simp⟩
         simp only [Stage.afterPoll, ne_eq]
         repeat' split
         all_goals simp
       · cases advanced)
  · exact ⟨notGate, fun n reply h => by subst h; simp_all⟩

theorem Stage.follow_no_lookup {stage stage' : Stage} (notGate : stage ≠ .gate) {events : List Event}
    (follow : stage.follow X cfg plan events = some stage') (n : GoString) (reply : Reply) :
    Event.call (.getWorkGroup n) reply ∉ events := by
  induction events generalizing stage with
  | nil => simp
  | cons e events ih =>
      simp only [Stage.follow, Option.bind_eq_some] at follow
      obtain ⟨next, advanced, follow⟩ := follow
      obtain ⟨notGate', notLookup⟩ := Stage.advance_not_gate X cfg plan notGate advanced
      simp only [List.mem_cons, not_or]
      exact ⟨(notLookup n reply).symm, ih notGate' follow⟩

/-! ## Where QueryContext waits, and the stage of the protocol -/

/-- The stage of the protocol while QueryContext waits at `phase`. -/
def Tracks : Phase → Stage → Prop
  | .getWorkGroup p, stage | .joinWorkGroup p, stage => p = plan ∧ stage = .gate
  | .createWorkGroup p, stage => p = plan ∧ stage = .creating
  | .getQueryIDStatus q, stage => stage = .body ∧ X.isQID plan.query = true ∧
      plan.pseudoCommand = pcGetQIDStatus ∧ q = plan.query
  | .stopQueryID q, stage => stage = .body ∧ X.isQID plan.query = true ∧
      plan.pseudoCommand = pcStopQID ∧ q = plan.query
  | .startQueryExecution pseudoCommand input _, stage => stage = .body ∧
      pseudoCommand = plan.pseudoCommand ∧ Stage.submits X cfg plan input = true
  | .poll q _, stage => stage = .polling q ∨ stage = .waiting q
  | .select q _ _ _, stage | .stop q _, stage => stage = .waiting q
  | .finalStatus q _, stage => stage = .stopped q
  | .newRows _, stage | .returned _, stage => stage.final X plan = true

theorem afterGate_tracks (now : Time) :
    ∃ stage, Stage.body.follow X cfg plan (afterGate X cfg plan now).1 = some stage ∧
      Tracks X cfg plan (afterGate X cfg plan now).2 stage := by
  simp only [afterGate, Stage.follow, Stage.advance, Option.some_bind]
  unfold answerOrSubmit
  cases qid : X.isQID plan.query
  · simp only [Bool.false_eq_true, ↓reduceIte]
    split
    · exact ⟨.body, rfl, by simp [Tracks, Stage.final, qid]⟩
    · exact ⟨.body, rfl, rfl, rfl, by simp [Stage.submits, qid, resolvedWGName]⟩
  · simp only [↓reduceIte]
    split
    · exact ⟨.body, rfl, rfl, qid, ‹_›, rfl⟩
    · split
      · exact ⟨.body, rfl, rfl, qid, ‹_›, rfl⟩
      · exact ⟨.body, by unfold cachedQuery; split <;> rfl, by simp [cachedQuery, Tracks,
          Stage.final, qid, *]⟩

theorem afterLookup_tracks (now : Time) (r : Except GoError AthenaWorkGroup) :
    ∃ stage, (Stage.afterLookup cfg r).follow X cfg plan (afterLookup X cfg plan now r).1 = some stage ∧
      Tracks X cfg plan (afterLookup X cfg plan now r).2 stage := by
  cases r with
  | error e =>
      simp only [afterLookup, Stage.afterLookup]
      split
      · exact ⟨.creating, rfl, rfl, rfl⟩
      · exact ⟨.closed, rfl, rfl⟩
  | ok wg =>
      simp only [afterLookup, Stage.afterLookup]
      by_cases enabled : wg.state = .enabled
      · simpa [enabled] using afterGate_tracks X cfg plan now
      · simp only [enabled, ne_eq, not_false_eq_true, ↓reduceIte]
        exact ⟨.closed, rfl, rfl⟩

theorem gate_tracks (now : Time) (cache : WGCache) :
    ∃ stage, (Stage.initial X cfg).follow X cfg plan (gate X cfg plan now cache).1 = some stage ∧
      Tracks X cfg plan (gate X cfg plan now cache).2 stage := by
  unfold gate Stage.initial
  by_cases default : cfg.workgroup.name = [] ∨ cfg.workgroup.name = X.defaultWGName
  · rw [if_pos default, if_pos default]
    exact afterGate_tracks X cfg plan now
  · rw [if_neg default, if_neg default]
    split
    · simpa [Stage.follow, Stage.advance] using afterLookup_tracks X cfg plan now (.ok ‹_›)
    · split <;> exact ⟨.gate, rfl, rfl, rfl⟩

/-- A poll whose state is neither Queued nor Running ends the polls. -/
theorem Stage.afterPoll_closed {q : GoString} {resp : GetQueryExecutionOutput}
    (queued : resp.state? ≠ some .queued) (running : resp.state? ≠ some .running) :
    Stage.afterPoll q (.ok resp) = .closed := by
  simp [Stage.afterPoll, resp.pendingType_isSome, queued, running]

/-- The status switch of the poll loop follows the protocol from the stage the
poll left. -/
theorem pollStatus_tracks (q : GoString) (start now : Time) (resp : GetQueryExecutionOutput) :
    ∃ stage, (Stage.afterPoll q (.ok resp)).follow X cfg plan (pollStatus cfg q start now resp).1 =
        some stage ∧ Tracks X cfg plan (pollStatus cfg q start now resp).2 stage := by
  rcases pollStatus_cases cfg q start now resp with ⟨st, pending, eq⟩ | ⟨cancelled, eq⟩ |
    ⟨reason, failed, eq⟩ | ⟨succeeded, eq⟩ | ⟨absent, eq⟩ <;> rw [eq]
  case inl => exact ⟨.waiting q, by simp [Stage.afterPoll, pending, Stage.follow], rfl⟩
  case inr.inl | inr.inr.inr.inl =>
    rw [Stage.afterPoll_closed (by simp [*]) (by simp [*])]
    exact ⟨.closed, Stage.follow_costOf X cfg plan _ _, rfl⟩
  case inr.inr.inl =>
    rw [Stage.afterPoll_closed (by simp [GetQueryExecutionOutput.state?, failed])
      (by simp [GetQueryExecutionOutput.state?, failed])]
    exact ⟨.closed, rfl, rfl⟩
  case inr.inr.inr.inr =>
    have settled : resp.state? = none ∨ resp.state? = some .failed := by
      rcases absent with h | h <;> simp [GetQueryExecutionOutput.state?, h]
    rw [Stage.afterPoll_closed (by rcases settled with h | h <;> simp [h])
      (by rcases settled with h | h <;> simp [h])]
    exact ⟨.closed, rfl, rfl⟩

/-- A reply to the call in flight follows the protocol. -/
theorem resume_tracks {phase : Phase} {stage : Stage} {now : Time} {r : Reply}
    {next : List Event × Phase} (tracks : Tracks X cfg plan phase stage)
    (resumed : phase.resume X cfg now r = some next) :
    ∃ stage', stage.follow X cfg plan next.1 = some stage' ∧ Tracks X cfg plan next.2 stage' := by
  cases phase <;> cases r <;> cases resumed <;> simp only [Tracks] at tracks
  case getWorkGroup.workGroup p reply =>
    obtain ⟨rfl, rfl⟩ := tracks
    simpa [logged, Stage.follow, Stage.advance] using afterLookup_tracks X cfg _ now reply
  case joinWorkGroup.joined p reply =>
    obtain ⟨rfl, rfl⟩ := tracks
    simpa [Stage.follow, Stage.advance] using afterLookup_tracks X cfg _ now reply
  case createWorkGroup.created p reply =>
    obtain ⟨rfl, rfl⟩ := tracks
    cases reply with
    | error e => exact ⟨.closed, by simp [logged, Stage.follow, Stage.advance, Except.isOk,
        Except.toBool], rfl⟩
    | ok u => simpa [logged, Stage.follow, Stage.advance, Except.isOk, Except.toBool] using
        afterGate_tracks X cfg _ now
  case getQueryIDStatus.status q reply =>
    obtain ⟨rfl, qid, pc, rfl⟩ := tracks
    exact ⟨.closed, by simp [logged, Stage.follow, Stage.advance, qid, pc], rfl⟩
  case stopQueryID.stopped q reply =>
    obtain ⟨rfl, qid, pc, rfl⟩ := tracks
    exact ⟨.closed, by simp [logged, Stage.follow, Stage.advance, qid, pc], rfl⟩
  case startQueryExecution.started pseudoCommand input start reply =>
    obtain ⟨rfl, rfl, submits⟩ := tracks
    cases reply with
    | error e => exact ⟨.closed, by simp [logged, afterStart, Stage.follow, Stage.advance, submits], rfl⟩
    | ok queryID =>
        by_cases getQID : plan.pseudoCommand = pcGetQID
        · exact ⟨.closed, by simp [logged, afterStart, Stage.follow, Stage.advance, submits, getQID],
            by simp [logged, afterStart, getQID, Tracks, Stage.final]⟩
        · exact ⟨.polling queryID, by
            simp [logged, afterStart, Stage.follow, Stage.advance, submits, getQID],
            by simp [logged, afterStart, getQID, Tracks]⟩
  case poll.status q start reply =>
    have advance : ∀ reply, stage.advance X cfg plan (.call (.getQueryExecution q) (.status reply)) =
        some (Stage.afterPoll q reply) := by
      intro reply; rcases tracks with rfl | rfl <;> simp [Stage.advance]
    cases reply with
    | error e => exact ⟨.closed, by simp [logged, Stage.follow, advance, Stage.afterPoll], rfl⟩
    | ok resp =>
        simpa only [logged, Stage.follow, advance, Option.bind_some] using
          pollStatus_tracks X cfg plan q start now resp
  case stop.stopped q ctxErr reply =>
    subst tracks
    cases reply with
    | error e => exact ⟨.closed, by simp [logged, Stage.follow, Stage.advance, Except.isOk,
        Except.toBool], rfl⟩
    | ok u =>
        cases moneyWise : cfg.isMoneyWise
        · exact ⟨.closed, by simp [logged, Stage.follow, Stage.advance, moneyWise], by
            simp [logged, moneyWise, Tracks, Stage.final]⟩
        · exact ⟨.stopped q, by simp [logged, Stage.follow, Stage.advance, moneyWise, Except.isOk,
            Except.toBool], by simp [logged, moneyWise, Tracks]⟩
  case finalStatus.status q ctxErr reply =>
    subst tracks
    refine ⟨.closed, ?_, rfl⟩
    show (if q = q then some Stage.closed else none).bind _ = _
    rw [if_pos rfl]
    rfl
  case newRows.rows q reply =>
    exact ⟨stage, by cases stage <;> rfl, tracks⟩

/-- QueryContext at `s` has followed the protocol for `plan`. -/
def Follows (s : Session) : Prop :=
  ∃ stage, (Stage.initial X cfg).follow X cfg plan s.log = some stage ∧
    Tracks X cfg plan s.phase stage

theorem follows_step {s s' : Session} {input : Input} (holds : Follows X cfg plan s)
    (moved : step X cfg s input = some s') : Follows X cfg plan s' := by
  obtain ⟨stage, follow, tracks⟩ := holds
  rcases step_cases X cfg moved with ⟨hp, hl, -⟩ | ⟨r, next, resumed, rfl⟩ |
    ⟨q, t, st, since, d, hp, -, -, rfl⟩ | ⟨q, t, st, since, hp, -, rfl⟩
  · exact ⟨stage, hl ▸ follow, hp ▸ tracks⟩
  · obtain ⟨stage', follow', tracks'⟩ := resume_tracks X cfg plan tracks resumed
    exact ⟨stage', by simp [Stage.follow_append, follow, follow'], tracks'⟩
  · rw [hp] at tracks
    subst tracks
    exact ⟨.waiting q, by simp [Stage.follow_append, follow, Stage.follow, Stage.advance], rfl⟩
  · rw [hp] at tracks
    subst tracks
    refine ⟨.waiting q, by simp [Stage.follow_append, follow, Stage.follow, Stage.advance], ?_⟩
    split
    · rfl
    · exact .inr rfl

/-- Every run of QueryContext past its checks follows the protocol. -/
theorem follows_protocol {query : GoString} {namedArgs : List NamedValue} {s : Session}
    (proceeds : prologue X cfg query namedArgs = .proceed plan)
    (reached : QueryContextRun X cfg query namedArgs s) : Follows X cfg plan s :=
  QueryContextRun.induction X cfg (Follows X cfg plan)
    (fun now _ cache => by
      rw [queryContext_of_proceed X cfg proceeds]
      exact gate_tracks X cfg plan now cache)
    (fun _ _ _ => follows_step X cfg plan) reached

end Protocol

section Runs

variable (X : Helpers) (cfg : Config)

/-- Every run of one QueryContext invocation, for every query, arguments,
configuration, replies and outcome of the `select`, follows the protocol: its
checks make no call when they return, and past them the protocol accepts its
log, and a returned invocation has nothing left to call. -/
theorem queryContext_follows_protocol {query : GoString} {namedArgs : List NamedValue}
    {s : Session} (reached : QueryContextRun X cfg query namedArgs s) :
    (∀ result, prologue X cfg query namedArgs = .returned result → s.log = []) ∧
    ∀ plan, prologue X cfg query namedArgs = .proceed plan →
      ∃ stage, (Stage.initial X cfg).follow X cfg plan s.log = some stage ∧
        (s.phase.isReturned = true → stage.final X plan = true) := by
  refine ⟨fun _ returned => (queryContextRun_of_returned X cfg returned reached).2,
    fun plan proceeds => ?_⟩
  obtain ⟨stage, follow, tracks⟩ := follows_protocol X cfg plan proceeds reached
  refine ⟨stage, follow, fun returned => ?_⟩
  cases h : s.phase <;> rw [h] at tracks returned <;>
    simp only [Phase.isReturned, Bool.false_eq_true] at returned
  exact tracks

/-- The run of `SELECT 1` that polls Succeeded, on a connection with no workgroup
configured: it submits under `DefaultWGName`. -/
theorem queryContext_follows_protocol_without_workgroup :
    (∀ result, prologue reference unnamedConfig pingQuery [] = .returned result →
      selectOneSucceeded.log = []) ∧
    ∀ plan, prologue reference unnamedConfig pingQuery [] = .proceed plan →
      ∃ stage, (Stage.initial reference unnamedConfig).follow reference unnamedConfig plan
          selectOneSucceeded.log = some stage ∧
        (selectOneSucceeded.phase.isReturned = true → stage.final reference plan = true) :=
  queryContext_follows_protocol reference unnamedConfig
    (⟨⟨0⟩, none, ∅, selectOneSucceeds, rfl⟩ : QueryContextRun reference unnamedConfig pingQuery [] selectOneSucceeded)

end Runs

end AthenaDriver
