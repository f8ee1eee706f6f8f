/-
# AthenaDriver.Remote — the remote client, as QueryContext sees it

The Athena types keep the fields connection.go reads, with Go's pointers as
`Option`: a `GetQueryExecutionOutput` may lack its `QueryExecution`, a
`QueryExecution` its `Status` or `Statistics`, a status its `StateChangeReason`.
A `Call` is a request QueryContext sends to the client, a `Reply` what the client
answers, and an `Event` what a run of QueryContext records: each call with its
reply, a lookup the workgroup memoizer answered from an entry (`cacheHit`) or
with the result of a fetch another invocation had in flight (`joined`), the
clock read `startOfStartQueryExecution := time.Now()` (line 371), each
`printCost`, each branch the poll loop's `select` takes (the timer's with the
submission time and the time it fired, the two times `isQueryTimeOut` reads),
and the hand-off to `NewRows`.

`WGCache` is the memoizer behind `getWG` (wg.go): an entry serves a lookup while
the clock is before its expiry, a lookup that finds none waits on the fetch of
its name in flight or starts one, and a successful fetch is stored for 10
minutes.
-/
import AthenaDriver.Config

namespace AthenaDriver

set_option autoImplicit false

/-- `athenatypes.WorkGroupState`. -/
inductive WorkGroupState
  | enabled
  | disabled
  deriving DecidableEq, Repr

/-- `athenatypes.WorkGroup`, through the field QueryContext reads. -/
structure AthenaWorkGroup where
  state : WorkGroupState
  deriving DecidableEq, Repr

/-- `athenatypes.QueryExecutionState`. -/
inductive QueryExecutionState
  | queued
  | running
  | succeeded
  | failed
  | cancelled
  deriving DecidableEq, Repr

/-- `string(state)`. -/
def QueryExecutionState.toGoString : QueryExecutionState → GoString
  | .queued => ascii "QUEUED"
  | .running => ascii "RUNNING"
  | .succeeded => ascii "SUCCEEDED"
  | .failed => ascii "FAILED"
  | .cancelled => ascii "CANCELLED"

/-- `athenatypes.QueryExecutionStatus`. -/
structure QueryExecutionStatus where
  state : QueryExecutionState
  stateChangeReason : Option GoString
  deriving DecidableEq, Repr

/-- `athenatypes.QueryExecutionStatistics`. -/
structure QueryExecutionStatistics where
  dataScannedInBytes : Option Int
  deriving DecidableEq, Repr

/-- `athenatypes.QueryExecution`; an absent `StatementType` is `""`. -/
structure QueryExecution where
  queryExecutionId : Option GoString
  status : Option QueryExecutionStatus
  statementType : GoString
  statistics : Option QueryExecutionStatistics
  deriving DecidableEq, Repr

/-- `athena.GetQueryExecutionOutput`. -/
structure GetQueryExecutionOutput where
  queryExecution : Option QueryExecution
  deriving DecidableEq, Repr

/-- The status of a response, when it has one: `statusResp.QueryExecution.Status`. -/
def GetQueryExecutionOutput.status? (resp : GetQueryExecutionOutput) : Option QueryExecutionStatus :=
  resp.queryExecution.bind (·.status)

/-- `athena.StartQueryExecutionInput`. -/
structure StartQueryExecutionInput where
  queryString : GoString
  executionParameters : List GoString
  database : GoString
  outputLocation : GoString
  workGroup : GoString
  deriving DecidableEq, Repr

/-- A request QueryContext sends to the remote client. -/
inductive Call
  | getWorkGroup (name : GoString)
  | createWorkGroup (name : GoString) (tags : List (GoString × GoString))
  | startQueryExecution (input : StartQueryExecutionInput)
  | getQueryExecution (queryExecutionId : GoString)
  | stopQueryExecution (queryExecutionId : GoString)
  deriving DecidableEq, Repr

/-- `*Rows` as ExecContext reads it: a cursor `NewRows` built over a query, or
the single-row page of `getHeaderlessSingleRowResultPage`. -/
inductive Rows
  | cursor (queryID : GoString) (updateCount : Option Int)
  | headerless (value : GoString)
  deriving DecidableEq, Repr

/-- What the environment answers to the call in flight, to a lookup waiting on
the fetch another invocation has in flight (`joined`), or to the hand-off to
`NewRows`. -/
inductive Reply
  | workGroup (reply : Except GoError AthenaWorkGroup)
  | joined (reply : Except GoError AthenaWorkGroup)
  | created (reply : Except GoError Unit)
  | started (reply : Except GoError GoString)
  | status (reply : Except GoError GetQueryExecutionOutput)
  | stopped (reply : Except GoError Unit)
  | rows (reply : Except GoError Rows)

/-- What a run of QueryContext records. -/
inductive Event
  | call (c : Call) (reply : Reply)
  | cacheHit (name : GoString) (wg : AthenaWorkGroup)
  | joined (name : GoString) (reply : Except GoError AthenaWorkGroup)
  | startOfStartQueryExecution (now : Time)
  | printCost (resp : Option GetQueryExecutionOutput)
  | cancelBranch
  | timerBranch (start now : Time)
  | newRows (queryID : GoString) (result : Except GoError Rows)

/-- A remote call of the log. -/
def Event.isCall : Event → Bool
  | .call _ _ => true
  | _ => false

/-! ## The workgroup memoizer -/

/-- An entry of the memoizer: the workgroup fetched, and when it expires. -/
structure CacheEntry where
  workGroup : AthenaWorkGroup
  expiresAt : Time
  deriving DecidableEq, Repr

/-- The memoizer `getWGGroup` of wg.go. Modelled from the spec: `memoize.Group`
comes from the library github.com/shogo82148/memoize that wg.go imports. Its entries, newest first, each serve a lookup until the
expiry `fetch` gave it; a failed fetch stores nothing. It runs at most one fetch
per name at a time (single-flight): `inFlight` names the fetches it has
started and not yet seen answered, and a lookup that finds no entry while the
fetch of its name is in flight waits on that fetch. -/
structure WGCache where
  entries : List (GoString × CacheEntry)
  inFlight : List GoString
  deriving DecidableEq, Repr

/-- The memoizer as a process starts: no entry, no fetch in flight. -/
instance : EmptyCollection WGCache := ⟨⟨[], []⟩⟩

@[simp] theorem WGCache.empty_entries : (∅ : WGCache).entries = [] := rfl

@[simp] theorem WGCache.empty_inFlight : (∅ : WGCache).inFlight = [] := rfl

/-- The workgroup the memoizer serves for `name` at `now`, without a fetch. -/
def WGCache.lookup (cache : WGCache) (name : GoString) (now : Time) : Option AthenaWorkGroup :=
  match cache.entries.find? (·.1 = name) with
  | some (_, entry) => if now.ns < entry.expiresAt.ns then some entry.workGroup else none
  | none => none

/-- A lookup of `name` that found no entry, and no fetch of it in flight, starts one. -/
def WGCache.startFetch (cache : WGCache) (name : GoString) : WGCache :=
  { cache with inFlight := name :: cache.inFlight }

/-- The fetch of `name` answered `r` at `now`: a workgroup is cached for 10 minutes
from `now`, an error is not, and the fetch is no longer in flight. -/
def WGCache.finish (cache : WGCache) (name : GoString) (now : Time) (r : Except GoError AthenaWorkGroup) :
    WGCache where
  entries := match r with
    | .ok wg => (name, ⟨wg, now.add 600000000000⟩) :: cache.entries
    | .error _ => cache.entries
  inFlight := cache.inFlight.filter (· != name)

end AthenaDriver
