/-
# AthenaDriver.Connection — `QueryContext` as a machine its environment drives

`QueryContext` (connection.go, lines 302-526) runs in two parts.

The `prologue` makes no remote call: the pseudo-command prefix handling
(`stripPseudoCommand`), the read-only check, `interpolateParams` when there are
arguments, and `isQueryValid`. It either returns, or leaves a `Plan`.

The rest waits on its environment. A `Session` is suspended at a `Phase`: a
remote call in flight, the fetch of its workgroup that another invocation has in
flight in the memoizer (`joinWorkGroup`), the `select` of the poll loop, the
hand-off to `NewRows`, or `returned` with QueryContext's result. The
environment moves it with an `Input`: time passes (`tick`), the caller's context
is done (`cancel`), the call or the fetch it waits on is answered (`reply`), or
the `select` returns on one of its two cases. The `select` returns on the case that is ready first, either when both
are ready at once (`cancelReady`, `timerReady`). Each step appends to the
session's `log` what it did (`Event`).

`queryContext` is the first state of an invocation; `run` applies a list of
inputs, and a `QueryContextRun` is any state some inputs reach. `ExecContext`
and `Ping` call `QueryContext` and map its result (`execContextQuery`,
`execContextResult`, `pingResult`).
-/
import AthenaDriver.Interpolate
import AthenaDriver.Remote

namespace AthenaDriver

set_option autoImplicit false

/-! ## Pseudo-commands -/

/-- Modelled from the spec: `PCGetQID` is defined outside connection.go and wg.go;
it names the pseudo-command `get_query_id`. -/
def pcGetQID : GoString := ascii "get_query_id"

/-- Modelled from the spec: `PCGetQIDStatus` is defined outside connection.go and
wg.go; it names the pseudo-command `get_query_id_status`. -/
def pcGetQIDStatus : GoString := ascii "get_query_id_status"

/-- Modelled from the spec: `PCStopQID` is defined outside connection.go and wg.go;
it names the pseudo-command `stop_query_id`. -/
def pcStopQID : GoString := ascii "stop_query_id"

/-- Modelled from the spec: `PCGetDriverVersion` is defined outside connection.go
and wg.go; it names the pseudo-command `get_driver_version`. -/
def pcGetDriverVersion : GoString := ascii "get_driver_version"

/-- What the pseudo-command prefix handling leaves: the pseudo-command (`""` for
none) and the query, or the driver-version command, or an unknown command. -/
inductive Stripped
  | query (pseudoCommand : GoString) (query : GoString)
  | driverVersion
  | unknown (query : GoString)
  deriving DecidableEq, Repr

/-- `strings.HasPrefix(query, command+" ")`, and then the remainder
`strings.Trim(query[len(command):], " ")`. -/
def commandRemainder (query command : GoString) : Option GoString :=
  if hasPrefix query (command ++ [space]) then some (trim (query.drop command.length) space) else none

/-- The pseudo-command prefix handling of QueryContext (lines 304-318). -/
def stripPseudoCommand (query : GoString) : Stripped :=
  if hasPrefix query (ascii "pc:") then
    let query := trim (query.drop 3) space
    match commandRemainder query pcGetQID with
    | some rest => .query pcGetQID rest
    | none =>
        match commandRemainder query pcGetQIDStatus with
        | some rest => .query pcGetQIDStatus rest
        | none =>
            match commandRemainder query pcStopQID with
            | some rest => .query pcStopQID rest
            | none => if hasPrefix query pcGetDriverVersion then .driverVersion else .unknown query
  else .query [] query

/-- `getHeaderlessSingleRowResultPage` (lines 281-290). Modelled from the spec:
`NewNonOpsRows` is defined outside connection.go and wg.go; it builds the one-row
result with no remote call and no error. -/
def getHeaderlessSingleRowResultPage (value : GoString) : Go Rows := pure (.headerless value)

/-! ## Before the first remote call -/

/-- What QueryContext carries past its checks: the pseudo-command, the query
after interpolation, the query as the caller wrote it (after the prefix), and the
arguments. -/
structure Plan where
  pseudoCommand : GoString
  query : GoString
  queryWithPlaceholders : GoString
  args : List Value
  deriving DecidableEq, Repr

/-- Where QueryContext stands after its checks: returned, or on with a plan. -/
inductive Prologue
  | returned (result : Go Rows)
  | proceed (plan : Plan)

variable (X : Helpers) (cfg : Config)

/-- The checks of QueryContext before any remote call (lines 303-339). -/
def prologue (query : GoString) (namedArgs : List NamedValue) : Prologue :=
  match stripPseudoCommand query with
  | .driverVersion => .returned (getHeaderlessSingleRowResultPage X.driverVersion)
  | .unknown rest =>
      .returned (fail (.new (X.sprintf (ascii "pseudo command " ++ rest ++ ascii "doesn't exist"))))
  | .query pseudoCommand query =>
      if cfg.isReadOnly && !X.isReadOnlyStatement query then
        .returned (fail (.new (ascii "writing to Athena database is disallowed in read-only mode")))
      else
        let args := namedValueToValue namedArgs
        let interpolated := if namedArgs.length > 0 then interpolateParams X query args else pure query
        match interpolated with
        | .error e => .returned (.error e)
        | .ok interpolatedQuery =>
            if !X.isQueryValid interpolatedQuery then .returned (fail .errInvalidQuery)
            else .proceed ⟨pseudoCommand, interpolatedQuery, query, args⟩

/-- The workgroup name QueryContext submits under (lines 340-343). -/
def resolvedWGName : GoString :=
  if cfg.workgroup.name = [] then X.defaultWGName else cfg.workgroup.name

/-! ## Waiting on the environment -/

/-- Where QueryContext waits. `getWorkGroup` to `finalStatus` but `joinWorkGroup`
have one remote call in flight; `joinWorkGroup` waits in `getWG` on the fetch of
its workgroup another invocation has in flight; `select` waits in the poll loop
after a non-terminal status (`since` is when it started waiting); `newRows` waits
on `NewRows`. -/
inductive Phase
  | getWorkGroup (plan : Plan)
  | joinWorkGroup (plan : Plan)
  | createWorkGroup (plan : Plan)
  | getQueryIDStatus (qid : GoString)
  | stopQueryID (qid : GoString)
  | startQueryExecution (pseudoCommand : GoString) (input : StartQueryExecutionInput) (start : Time)
  | poll (queryID : GoString) (start : Time)
  | select (queryID : GoString) (start : Time) (statementType : GoString) (since : Time)
  | stop (queryID : GoString) (ctxErr : GoError)
  | finalStatus (queryID : GoString) (ctxErr : GoError)
  | newRows (queryID : GoString)
  | returned (result : Go Rows)

/-- Whether QueryContext has returned. -/
def Phase.isReturned : Phase → Bool
  | .returned _ => true
  | _ => false

/-- Why the caller's context is done: `ctx.Err()`. -/
inductive Done
  | canceled
  | deadlineExceeded
  deriving DecidableEq, Repr

/-- The error `ctx.Err()` returns. -/
def Done.err : Done → GoError
  | .canceled => .canceled
  | .deadlineExceeded => .deadlineExceeded

/-- The caller's context is done: why, and since when. -/
structure Cancellation where
  cause : Done
  time : Time
  deriving DecidableEq, Repr

/-- A suspended QueryContext: where it waits, the clock, its context, the
workgroup memoizer, and what it has done. -/
structure Session where
  phase : Phase
  clock : Time
  done : Option Cancellation
  cache : WGCache
  log : List Event

/-- What the environment does next. -/
inductive Input
  | tick (now : Time)
  | cancel (cause : Done)
  | reply (r : Reply)
  | selectCancel
  | selectTimer

/-- `cachedQuery` (lines 262-279): a `printCost` of zero bytes when money-wise,
then `NewRows` for the id. -/
def cachedQuery (qid : GoString) : List Event × Phase :=
  (if cfg.isMoneyWise then [.printCost (some ⟨some ⟨some qid, none, [], some ⟨some 0⟩⟩⟩)] else [],
    .newRows qid)

/-- Lines 373-422: a QID is answered through its pseudo-command or `cachedQuery`;
any other query is submitted with its execution parameters, `now` being
`startOfStartQueryExecution`. -/
def answerOrSubmit (plan : Plan) (now : Time) : List Event × Phase :=
  if X.isQID plan.query then
    if plan.pseudoCommand = pcGetQIDStatus then ([], .getQueryIDStatus plan.query)
    else if plan.pseudoCommand = pcStopQID then ([], .stopQueryID plan.query)
    else cachedQuery cfg plan.query
  else
    match buildExecutionParams X plan.args with
    | .error e => ([], .returned (.error e))
    | .ok executionParameters =>
        ([], .startQueryExecution plan.pseudoCommand
          ⟨plan.queryWithPlaceholders, executionParameters, cfg.db, cfg.outputBucket,
            resolvedWGName X cfg⟩ now)

/-- Past the workgroup gate (lines 370-422): `startOfStartQueryExecution :=
time.Now()`, logged, then `answerOrSubmit`. -/
def afterGate (plan : Plan) (now : Time) : List Event × Phase :=
  (.startOfStartQueryExecution now :: (answerOrSubmit X cfg plan now).1, (answerOrSubmit X cfg plan now).2)

/-- What QueryContext does with `getWG`'s result (lines 345-367). -/
def afterLookup (plan : Plan) (now : Time) : Except GoError AthenaWorkGroup → List Event × Phase
  | .error _ =>
      if cfg.isWGRemoteCreationAllowed then ([], .createWorkGroup plan)
      else ([], .returned (fail (.new (ascii "workgroup " ++ X.quote cfg.workgroup.name ++
        ascii " doesn't exist and workgroup remote creation is disabled"))))
  | .ok wg =>
      if wg.state ≠ .enabled then
        ([], .returned (fail (.new (ascii "workgroup " ++ X.quote cfg.workgroup.name ++
          ascii " is disabled"))))
      else afterGate X cfg plan now

/-- The workgroup gate (lines 340-368): no lookup for the empty or the default
name; otherwise `getWG`, served by an entry of the memoizer, or waiting on the
fetch of the name in flight, or on a `GetWorkGroup` call of its own. -/
def gate (plan : Plan) (now : Time) (cache : WGCache) : List Event × Phase :=
  if cfg.workgroup.name = [] ∨ cfg.workgroup.name = X.defaultWGName then afterGate X cfg plan now
  else
    match cache.lookup cfg.workgroup.name now with
    | some wg =>
        let next := afterLookup X cfg plan now (.ok wg)
        (.cacheHit cfg.workgroup.name wg :: next.1, next.2)
    | none =>
        if cfg.workgroup.name ∈ cache.inFlight then ([], .joinWorkGroup plan) else ([], .getWorkGroup plan)

/-- The `printCost` of a money-wise configuration. -/
def costOf (resp : Option GetQueryExecutionOutput) : List Event :=
  if cfg.isMoneyWise then [.printCost resp] else []

/-- The status switch of the poll loop (lines 455-485), at time `now`. -/
def pollStatus (queryID : GoString) (start now : Time) (resp : GetQueryExecutionOutput) :
    List Event × Phase :=
  match resp.queryExecution with
  | none => ([], .returned (throw (.panic .nilDereference)))
  | some execution =>
      match execution.status with
      | none => ([], .returned (throw (.panic .nilDereference)))
      | some status =>
          match status.state with
          | .cancelled => (costOf cfg (some resp), .returned (fail .canceled))
          | .failed =>
              ([], .returned (do
                let reason ← deref status.stateChangeReason
                fail (.new reason)))
          | .succeeded => (costOf cfg (some resp), .newRows queryID)
          | .queued | .running => ([], .select queryID start execution.statementType now)

/-- After `StartQueryExecution` answers (lines 423-440). -/
def afterStart (pseudoCommand : GoString) (start : Time) : Except GoError GoString → List Event × Phase
  | .error e =>
      ([], .returned (if pseudoCommand = pcGetQID then
        match e.asResponseError with
        | some requestID => getHeaderlessSingleRowResultPage requestID
        | none => fail e
      else fail e))
  | .ok queryID =>
      if pseudoCommand = pcGetQID then ([], .returned (getHeaderlessSingleRowResultPage queryID))
      else ([], .poll queryID start)

/-- A call and its reply, logged before what follows from it. -/
def logged (c : Call) (r : Reply) (next : List Event × Phase) : List Event × Phase :=
  (.call c r :: next.1, next.2)

/-- What a reply to the call in flight adds to the log and where it leads, at
time `now`; `none` when nothing waits on a reply of that kind. -/
def Phase.resume (now : Time) : Phase → Reply → Option (List Event × Phase)
  | .getWorkGroup plan, .workGroup reply =>
      some (logged (.getWorkGroup cfg.workgroup.name) (.workGroup reply)
        (afterLookup X cfg plan now reply))
  | .joinWorkGroup plan, .joined reply =>
      some (.joined cfg.workgroup.name reply :: (afterLookup X cfg plan now reply).1,
        (afterLookup X cfg plan now reply).2)
  | .createWorkGroup plan, .created reply =>
      some (logged (.createWorkGroup cfg.workgroup.name cfg.workgroup.tags) (.created reply)
        (match reply with
          | .error e => ([], .returned (fail e))
          | .ok _ => afterGate X cfg plan now))
  | .getQueryIDStatus qid, .status reply =>
      some (logged (.getQueryExecution qid) (.status reply)
        ([], .returned (match reply with
          | .error e => fail e
          | .ok resp => do
              let execution ← deref resp.queryExecution
              let status ← deref execution.status
              getHeaderlessSingleRowResultPage status.state.toGoString)))
  | .stopQueryID qid, .stopped reply =>
      some (logged (.stopQueryExecution qid) (.stopped reply)
        ([], .returned (match reply with
          | .error e => fail e
          | .ok _ => getHeaderlessSingleRowResultPage (ascii "OK"))))
  | .startQueryExecution pseudoCommand input start, .started reply =>
      some (logged (.startQueryExecution input) (.started reply) (afterStart pseudoCommand start reply))
  | .poll queryID start, .status reply =>
      some (logged (.getQueryExecution queryID) (.status reply)
        (match reply with
          | .error e => ([], .returned (fail e))
          | .ok resp => pollStatus cfg queryID start now resp))
  | .stop queryID ctxErr, .stopped reply =>
      some (logged (.stopQueryExecution queryID) (.stopped reply)
        (match reply with
          | .error e => ([], .returned (fail e))
          | .ok _ =>
              if cfg.isMoneyWise then ([], .finalStatus queryID ctxErr)
              else ([], .returned (fail ctxErr))))
  | .finalStatus queryID ctxErr, .status reply =>
      some (logged (.getQueryExecution queryID) (.status reply)
        ([.printCost reply.toOption], .returned (fail ctxErr)))
  | .newRows queryID, .rows reply =>
      some ([.newRows queryID reply], .returned (reply.mapError .error))
  | _, _ => none

/-- The memoizer after a reply: the answer to `getWG`'s fetch ends it. -/
def WGCache.afterReply (cache : WGCache) (name : GoString) (now : Time) : Reply → WGCache
  | .workGroup r => cache.finish name now r
  | _ => cache

/-- The memoizer once the gate has left QueryContext at `phase`: `getWGGroup.Do`
has put in flight the fetch it started. -/
def WGCache.register (cache : WGCache) (name : GoString) : Phase → WGCache
  | .getWorkGroup _ => cache.startFetch name
  | _ => cache

/-- When the timer of a `select` entered at `since` is ready. -/
def timerAt (since : Time) : Int := since.ns + max cfg.resultPollInterval 0

/-- The `select` entered at `since` returns on `<-ctx.Done()`: the context was
done no later than the timer was ready. -/
def cancelReady (since : Time) (done : Cancellation) : Bool :=
  max done.time.ns since.ns ≤ timerAt cfg since

/-- The `select` entered at `since` returns on the timer at `now`: the timer is
ready, and the context was not done before it. -/
def timerReady (since now : Time) (done : Option Cancellation) : Bool :=
  timerAt cfg since ≤ now.ns && done.all fun d => timerAt cfg since ≤ max d.time.ns since.ns

/-- One move of the environment. -/
def step (s : Session) : Input → Option Session
  | .tick now =>
      if !s.phase.isReturned && s.clock.ns ≤ now.ns then some { s with clock := now } else none
  | .cancel cause =>
      if !s.phase.isReturned && s.done.isNone then some { s with done := some ⟨cause, s.clock⟩ }
      else none
  | .reply r =>
      (s.phase.resume X cfg s.clock r).map fun next =>
        { s with
          phase := next.2
          cache := s.cache.afterReply cfg.workgroup.name s.clock r
          log := s.log ++ next.1 }
  | .selectCancel =>
      match s.phase, s.done with
      | .select queryID _ _ since, some done =>
          if cancelReady cfg since done then
            some { s with phase := .stop queryID done.cause.err, log := s.log ++ [.cancelBranch] }
          else none
      | _, _ => none
  | .selectTimer =>
      match s.phase with
      | .select queryID start statementType since =>
          if timerReady cfg since s.clock s.done then
            some { s with
              phase :=
                if X.isQueryTimeOut start statementType cfg.serviceLimitOverride s.clock then
                  .returned (fail .errQueryTimeout)
                else .poll queryID start
              log := s.log ++ [.timerBranch start s.clock] }
          else none
      | _ => none

/-- The session after a list of inputs, if the environment may give each. -/
def run (s : Session) : List Input → Option Session
  | [] => some s
  | input :: inputs => (step X cfg s input).bind fun s' => run s' inputs

/-- The first state of a QueryContext invocation at time `now`, with the state of
the caller's context and of the workgroup memoizer. -/
def queryContext (query : GoString) (namedArgs : List NamedValue) (now : Time)
    (done : Option Cancellation) (cache : WGCache) : Session :=
  match prologue X cfg query namedArgs with
  | .returned result => ⟨.returned result, now, done, cache, []⟩
  | .proceed plan =>
      let next := gate X cfg plan now cache
      ⟨next.2, now, done, cache.register cfg.workgroup.name next.2, next.1⟩

/-- `s` is a state of a run of QueryContext on `query` and `namedArgs`. -/
def QueryContextRun (query : GoString) (namedArgs : List NamedValue) (s : Session) : Prop :=
  ∃ now done cache inputs, run X cfg (queryContext X cfg query namedArgs now done cache) inputs = some s

/-! ## ExecContext, Ping, Prepare, Begin -/

/-- `driver.Result` of ExecContext. -/
structure AthenaResult where
  lastInsertedID : Int
  rowAffected : Int
  deriving DecidableEq, Repr

/-- ExecContext's checks before it calls QueryContext (lines 231-244): the query
it passes on, with no arguments. -/
def execContextQuery (query : GoString) (namedArgs : List NamedValue) : Go GoString :=
  let interpolated :=
    if namedArgs.length > 0 then interpolateParams X query (namedValueToValue namedArgs) else pure query
  match interpolated with
  | .error e => .error e
  | .ok query => if !X.isQueryValid query then fail .errInvalidQuery else pure query

/-- `s` is a state of a run of ExecContext on `query` and `namedArgs`: its checks
passed, and QueryContext runs on the query they leave, with no arguments. -/
def ExecContextRun (query : GoString) (namedArgs : List NamedValue) (s : Session) : Prop :=
  ∃ interpolated, execContextQuery X query namedArgs = .ok interpolated ∧
    QueryContextRun X cfg interpolated [] s

/-- ExecContext's result from QueryContext's (lines 245-259). -/
def execContextResult : Go Rows → Go AthenaResult
  | .ok (.cursor _ (some updateCount)) => pure ⟨-1, updateCount⟩
  | .ok _ => pure ⟨-1, 0⟩
  | .error e => .error e

/-- The query `Ping` runs (line 535). -/
def pingQuery : GoString := ascii "SELECT 1"

/-- Ping's result from QueryContext's (lines 534-541). -/
def pingResult : Go Rows → Go Unit
  | .ok _ => pure ()
  | .error (.error _) => fail .errBadConn
  | .error (.panic p) => throw (.panic p)

/-- The prepared `Statement`, through the fields Prepare sets. -/
structure Statement where
  query : GoString
  numInput : Nat
  deriving DecidableEq, Repr

/-- `Prepare` (lines 544-555). -/
def prepare (query : GoString) : Go Statement :=
  if !X.isQueryValid query then fail .errInvalidQuery else pure ⟨query, count query questionMark⟩

/-- `Begin` and `BeginTx` (lines 558-565). -/
def begin : Go Unit := fail .errAthenaTransactionUnsupported

end AthenaDriver
