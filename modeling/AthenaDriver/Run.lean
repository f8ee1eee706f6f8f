/-
# AthenaDriver.Run — runs of QueryContext, and what one step can do

`step_cases` says once what a move of the environment can do to a session: leave
its phase and log alone (`tick`, `cancel`; the context, once done, stays done,
and time does not go back),
answer the call in flight (`Phase.resume`), or return the `select` on one of its
cases. `QueryContextRun.induction` turns a property that holds of every first
state and is kept by every step into one of every state of every run. A session
that has returned takes no step (`step_returned`), so a prologue that returns
leaves an empty log for good (`queryContextRun_of_returned`).
-/
import AthenaDriver.Connection

namespace AthenaDriver

set_option autoImplicit false

variable (X : Helpers) (cfg : Config)

/-- Every move of the environment, inverted. -/
theorem step_cases {s s' : Session} {input : Input} (moved : step X cfg s input = some s') :
    (s'.phase = s.phase ∧ s'.log = s.log ∧ s'.cache = s.cache ∧ s.phase.isReturned = false ∧
      (∀ d, s.done = some d → s'.done = some d) ∧ s.clock.ns ≤ s'.clock.ns) ∨
    (∃ r next, s.phase.resume X cfg s.clock r = some next ∧
      s' = { s with
        phase := next.2
        cache := s.cache.afterReply cfg.workgroup.name s.clock r
        log := s.log ++ next.1 }) ∨
    (∃ queryID start statementType since d, s.phase = .select queryID start statementType since ∧
      s.done = some d ∧ cancelReady cfg since d = true ∧
      s' = { s with phase := .stop queryID d.cause.err, log := s.log ++ [.cancelBranch] }) ∨
    (∃ queryID start statementType since, s.phase = .select queryID start statementType since ∧
      timerReady cfg since s.clock s.done = true ∧
      s' = { s with
        phase := if X.isQueryTimeOut start statementType cfg.serviceLimitOverride s.clock then
            .returned (fail .errQueryTimeout)
          else .poll queryID start
        log := s.log ++ [.timerBranch start s.clock] }) := by
  cases input with
  | tick now =>
      simp only [step, Bool.and_eq_true, Bool.not_eq_true', decide_eq_true_eq] at moved
      split at moved
      · cases moved; exact .inl ⟨rfl, rfl, rfl, by simp_all, fun _ h => h, by simp_all⟩
      · cases moved
  | cancel cause =>
      simp only [step, Bool.and_eq_true, Bool.not_eq_true', Option.isNone_iff_eq_none] at moved
      split at moved
      · cases moved; rename_i live
        exact .inl ⟨rfl, rfl, rfl, live.1, fun _ h => by simp_all, Int.le_refl _⟩
      · cases moved
  | reply r =>
      simp only [step, Option.map_eq_some'] at moved
      obtain ⟨next, resumed, rfl⟩ := moved
      exact .inr (.inl ⟨r, next, resumed, rfl⟩)
  | selectCancel =>
      simp only [step] at moved
      split at moved
      · split at moved
        · cases moved; exact .inr (.inr (.inl ⟨_, _, _, _, _, ‹_›, ‹_›, ‹_›, rfl⟩))
        · cases moved
      · cases moved
  | selectTimer =>
      simp only [step] at moved
      split at moved
      · split at moved
        · cases moved; exact .inr (.inr (.inr ⟨_, _, _, _, ‹_›, ‹_›, rfl⟩))
        · cases moved
      · cases moved

/-- A session that has returned takes no step. -/
theorem step_returned {s : Session} {result : Go Rows} (returned : s.phase = .returned result)
    (input : Input) : step X cfg s input = none := by
  cases input <;> simp [step, returned, Phase.isReturned, Phase.resume]

theorem run_returned {s s' : Session} {result : Go Rows} (returned : s.phase = .returned result)
    {inputs : List Input} (ran : run X cfg s inputs = some s') : s' = s := by
  cases inputs with
  | nil => cases ran; rfl
  | cons input inputs => simp [run, step_returned X cfg returned] at ran

/-- A property that holds of a session and is kept by every step holds after
every run from it. -/
theorem run_preserves (P : Session → Prop)
    (preserved : ∀ s input s', P s → step X cfg s input = some s' → P s') :
    ∀ (inputs : List Input) (s s' : Session), P s → run X cfg s inputs = some s' → P s'
  | [], s, s', holds, ran => by cases ran; exact holds
  | input :: inputs, s, s', holds, ran => by
      simp only [run, Option.bind_eq_some] at ran
      obtain ⟨mid, moved, ran⟩ := ran
      exact run_preserves P preserved inputs mid s' (preserved s input mid holds moved) ran

/-- A step only appends to the log. -/
theorem step_log {s s' : Session} {input : Input} (moved : step X cfg s input = some s') :
    ∃ more, s'.log = s.log ++ more := by
  rcases step_cases X cfg moved with ⟨-, hl, -⟩ | ⟨r, next, -, rfl⟩ |
    ⟨_, _, _, _, _, -, -, -, rfl⟩ | ⟨_, _, _, _, -, -, rfl⟩
  · exact ⟨[], by simp [hl]⟩
  all_goals exact ⟨_, rfl⟩

theorem run_log {s s' : Session} {inputs : List Input} (ran : run X cfg s inputs = some s') :
    ∃ more, s'.log = s.log ++ more :=
  run_preserves X cfg (fun t => ∃ more, t.log = s.log ++ more)
    (fun _ _ _ ⟨more, grew⟩ moved => by
      obtain ⟨more', grew'⟩ := step_log X cfg moved
      exact ⟨more ++ more', by simp [grew', grew]⟩)
    inputs s s' ⟨[], by simp⟩ ran

/-- Induction over the runs of QueryContext. -/
theorem QueryContextRun.induction {query : GoString} {namedArgs : List NamedValue}
    (P : Session → Prop)
    (first : ∀ now done cache, P (queryContext X cfg query namedArgs now done cache))
    (preserved : ∀ s input s', P s → step X cfg s input = some s' → P s')
    {s : Session} (reached : QueryContextRun X cfg query namedArgs s) : P s := by
  obtain ⟨now, done, cache, inputs, ran⟩ := reached
  exact run_preserves X cfg P preserved inputs _ s (first now done cache) ran

theorem queryContext_of_returned {query : GoString} {namedArgs : List NamedValue} {result : Go Rows}
    (returned : prologue X cfg query namedArgs = .returned result) (now : Time)
    (done : Option Cancellation) (cache : WGCache) :
    queryContext X cfg query namedArgs now done cache = ⟨.returned result, now, done, cache, []⟩ := by
  simp [queryContext, returned]

theorem queryContext_of_proceed {query : GoString} {namedArgs : List NamedValue} {plan : Plan}
    (proceeds : prologue X cfg query namedArgs = .proceed plan) (now : Time)
    (done : Option Cancellation) (cache : WGCache) :
    queryContext X cfg query namedArgs now done cache =
      ⟨(gate X cfg plan now cache).2, now, done,
        cache.register cfg.workgroup.name (gate X cfg plan now cache).2, (gate X cfg plan now cache).1⟩ := by
  simp [queryContext, proceeds]

/-- When the checks return, QueryContext has returned with an empty log, for good. -/
theorem queryContextRun_of_returned {query : GoString} {namedArgs : List NamedValue}
    {result : Go Rows} (returned : prologue X cfg query namedArgs = .returned result) {s : Session}
    (reached : QueryContextRun X cfg query namedArgs s) : s.phase = .returned result ∧ s.log = [] := by
  obtain ⟨now, done, cache, inputs, ran⟩ := reached
  rw [queryContext_of_returned X cfg returned] at ran
  cases run_returned X cfg rfl ran
  exact ⟨rfl, rfl⟩

end AthenaDriver
