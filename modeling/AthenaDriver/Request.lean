/-
# AthenaDriver.Request — what QueryContext asks StartQueryExecution to run

Past the workgroup gate QueryContext builds one `StartQueryExecutionInput`
(lines 408-422): the text the pseudo-command handling left of the query, before
any interpolation (`queryWithPlaceholders`), the execution parameters of its
arguments, the configured database and output bucket, and the workgroup name,
`DefaultWGName` when none is configured (lines 340-343). `BuiltRequest` states
that request; every phase that waits on `StartQueryExecution` holds it, and
every submission of the log carries it (`RequestsBuilt`, kept by every move).

Main results:
* `resume_requests` — a reply submits only the request its phase holds, and
  leads only to a phase holding the built one.
* `submissions_carry_built_request` — in every run, every `StartQueryExecution`
  of the log sends the request built from the query, the arguments and the
  configuration.
-/
import AthenaDriver.Checks

namespace AthenaDriver

set_option autoImplicit false

/-- The request QueryContext builds from `plan` and the configuration (lines
408-422). -/
def BuiltRequest (X : Helpers) (cfg : Config) (plan : Plan) (input : StartQueryExecutionInput) : Prop :=
  ∃ params, buildExecutionParams X plan.args = .ok params ∧
    input = ⟨plan.queryWithPlaceholders, params, cfg.db, cfg.outputBucket, resolvedWGName X cfg⟩

/-- What a phase holds of the request: the plan it will build it from, or the
built request it waits to send. -/
def Phase.Builds (X : Helpers) (cfg : Config) (plan : Plan) : Phase → Prop
  | .getWorkGroup p | .joinWorkGroup p | .createWorkGroup p => p = plan
  | .startQueryExecution _ input _ => BuiltRequest X cfg plan input
  | _ => True

/-- The phase holds the request, and every `StartQueryExecution` the session
logged sent the built one. -/
def RequestsBuilt (X : Helpers) (cfg : Config) (plan : Plan) (s : Session) : Prop :=
  s.phase.Builds X cfg plan ∧
    ∀ input reply, Event.call (.startQueryExecution input) reply ∈ s.log → BuiltRequest X cfg plan input

/-- No `StartQueryExecution` among `events`. -/
def Unsubmitted (events : List Event) : Prop :=
  ∀ input reply, Event.call (.startQueryExecution input) reply ∉ events

section Requests

variable (X : Helpers) (cfg : Config) (plan : Plan)

theorem afterGate_requests (now : Time) :
    Unsubmitted (afterGate X cfg plan now).1 ∧ (afterGate X cfg plan now).2.Builds X cfg plan := by
  unfold afterGate answerOrSubmit cachedQuery
  split
  · split
    · simp [Unsubmitted, Phase.Builds]
    · split
      · simp [Unsubmitted, Phase.Builds]
      · split <;> simp [Unsubmitted, Phase.Builds]
  · split
    · simp [Unsubmitted, Phase.Builds]
    · rename_i params built
      exact ⟨by simp [Unsubmitted], params, built, rfl⟩

theorem afterLookup_requests (now : Time) (r : Except GoError AthenaWorkGroup) :
    Unsubmitted (afterLookup X cfg plan now r).1 ∧ (afterLookup X cfg plan now r).2.Builds X cfg plan := by
  cases r with
  | error e => simp only [afterLookup]; split <;> simp [Unsubmitted, Phase.Builds]
  | ok wg =>
      simp only [afterLookup]
      split
      · simp [Unsubmitted, Phase.Builds]
      · exact afterGate_requests X cfg plan now

theorem gate_requests (now : Time) (cache : WGCache) :
    Unsubmitted (gate X cfg plan now cache).1 ∧ (gate X cfg plan now cache).2.Builds X cfg plan := by
  unfold gate
  split
  · exact afterGate_requests X cfg plan now
  · split
    · obtain ⟨unsubmitted, builds⟩ := afterLookup_requests X cfg plan now (.ok ‹_›)
      exact ⟨by simpa [Unsubmitted] using unsubmitted, builds⟩
    · split <;> simp [Unsubmitted, Phase.Builds]

/-- A reply submits only the request its phase holds, and leads only to a phase
holding the built one. -/
theorem resume_requests {phase : Phase} {now : Time} {r : Reply} {next : List Event × Phase}
    (holds : phase.Builds X cfg plan) (resumed : phase.resume X cfg now r = some next) :
    (∀ input reply, Event.call (.startQueryExecution input) reply ∈ next.1 → BuiltRequest X cfg plan input) ∧
      next.2.Builds X cfg plan := by
  cases phase <;> simp only [Phase.Builds] at holds <;> cases r <;> cases resumed
  case getWorkGroup.workGroup reply | joinWorkGroup.joined reply =>
    subst holds
    obtain ⟨unsubmitted, builds⟩ := afterLookup_requests X cfg _ now reply
    exact ⟨by simpa [logged] using fun input reply => (unsubmitted input reply).elim, builds⟩
  case createWorkGroup.created reply =>
    subst holds
    cases reply with
    | error e => simp [logged, Phase.Builds]
    | ok u =>
        obtain ⟨unsubmitted, builds⟩ := afterGate_requests X cfg _ now
        exact ⟨by simpa [logged] using fun input reply => (unsubmitted input reply).elim, builds⟩
  case startQueryExecution.started pseudoCommand input start reply =>
    refine ⟨fun input' reply' mem => ?_, ?_⟩
    · cases reply <;> simp only [logged, afterStart] at mem <;> (try split at mem) <;>
        simp_all
    · cases reply <;> simp only [logged, afterStart] <;> (try split) <;> simp [Phase.Builds]
  case poll.status q start reply =>
    cases reply with
    | error e => simp [logged, Phase.Builds]
    | ok resp =>
        rcases pollStatus_cases cfg q start now resp with ⟨st, -, eq⟩ | ⟨-, eq⟩ | ⟨reason, -, eq⟩ |
          ⟨-, eq⟩ | ⟨-, eq⟩ <;> simp [logged, eq, costOf, Phase.Builds]
  case stop.stopped q ctxErr reply =>
    cases reply <;> simp only [logged] <;> (try split) <;> simp [Phase.Builds]
  all_goals simp [logged, Phase.Builds]

theorem requestsBuilt_step {s s' : Session} {input : Input} (holds : RequestsBuilt X cfg plan s)
    (moved : step X cfg s input = some s') : RequestsBuilt X cfg plan s' := by
  rcases step_cases X cfg moved with ⟨hp, hl, -⟩ | ⟨r, next, resumed, rfl⟩ |
    ⟨_, _, _, _, _, -, -, -, rfl⟩ | ⟨_, _, _, _, -, -, rfl⟩
  · exact ⟨hp ▸ holds.1, hl ▸ holds.2⟩
  · obtain ⟨sent, builds⟩ := resume_requests X cfg plan holds.1 resumed
    exact ⟨builds, fun input reply mem => (List.mem_append.1 mem).elim (holds.2 input reply) (sent input reply)⟩
  · exact ⟨trivial, fun input reply mem => holds.2 input reply (by simpa using mem)⟩
  · exact ⟨by dsimp only; split <;> trivial, fun input reply mem => holds.2 input reply (by simpa using mem)⟩

/-- In every run of QueryContext. -/
theorem requestsBuilt_invariant {query : GoString} {namedArgs : List NamedValue} {s : Session}
    (proceeds : prologue X cfg query namedArgs = .proceed plan)
    (reached : QueryContextRun X cfg query namedArgs s) : RequestsBuilt X cfg plan s :=
  QueryContextRun.induction X cfg (RequestsBuilt X cfg plan)
    (fun now _ cache => by
      rw [queryContext_of_proceed X cfg proceeds]
      obtain ⟨unsubmitted, builds⟩ := gate_requests X cfg plan now cache
      exact ⟨builds, fun input reply mem => (unsubmitted input reply mem).elim⟩)
    (fun _ _ _ holds moved => requestsBuilt_step X cfg plan holds moved) reached

end Requests

/-- Every request QueryContext sends to `StartQueryExecution` is the one built
from the query and the configuration: the text `stripPseudoCommand` left of the
query, before any interpolation (`queryWithPlaceholders`), the execution
parameters `buildExecutionParams` gave for the arguments, the configured
database and output bucket, and the configured workgroup name, or
`DefaultWGName` when none is configured. For every configuration, query,
arguments, time, context, memoizer and sequence of inputs. -/
theorem submissions_carry_built_request (X : Helpers) (cfg : Config) {query : GoString}
    {namedArgs : List NamedValue} {s : Session} (reached : QueryContextRun X cfg query namedArgs s)
    {input : StartQueryExecutionInput} {reply : Reply}
    (submitted : Event.call (.startQueryExecution input) reply ∈ s.log) :
    ∃ pseudoCommand queryString params, stripPseudoCommand query = .query pseudoCommand queryString ∧
      buildExecutionParams X (namedValueToValue namedArgs) = .ok params ∧
      input = ⟨queryString, params, cfg.db, cfg.outputBucket,
        if cfg.workgroup.name = [] then X.defaultWGName else cfg.workgroup.name⟩ := by
  cases h : prologue X cfg query namedArgs with
  | returned result =>
      rw [(queryContextRun_of_returned X cfg h reached).2] at submitted
      cases submitted
  | proceed plan =>
      obtain ⟨stripped, -, args, -⟩ := prologue_eq_proceed X cfg h
      obtain ⟨params, built, rfl⟩ := (requestsBuilt_invariant X cfg plan h reached).2 input reply submitted
      exact ⟨plan.pseudoCommand, plan.queryWithPlaceholders, params, stripped, args ▸ built, rfl⟩

/-- Ping's `SELECT 1` on a connection with no workgroup configured: no
parameters, the reference database and bucket, and `DefaultWGName`. -/
theorem submissions_carry_built_request_without_workgroup :
    ∃ pseudoCommand queryString params, stripPseudoCommand pingQuery = .query pseudoCommand queryString ∧
      buildExecutionParams reference (namedValueToValue []) = .ok params ∧
      selectOneInput = ⟨queryString, params, unnamedConfig.db, unnamedConfig.outputBucket,
        if unnamedConfig.workgroup.name = [] then reference.defaultWGName else unnamedConfig.workgroup.name⟩ :=
  submissions_carry_built_request reference unnamedConfig
    (⟨⟨0⟩, none, ∅, selectOneSucceeds, rfl⟩ :
      QueryContextRun reference unnamedConfig pingQuery [] selectOneSucceeded)
    (show Event.call (.startQueryExecution selectOneInput) (.started (.ok (ascii "q1"))) ∈
      selectOneSucceeded.log from List.mem_cons_of_mem _ (List.mem_cons_self _ _))

end AthenaDriver
