/-
# AthenaDriver.Errors — where QueryContext's errors come from

Every error QueryContext returns is one it makes itself (`GoError.driverMade`:
a sentinel of the driver, an error of the context package, or a fresh
`errors.New`), or one a reply of its log carries (`Event.error?`). None of the
errors it makes is, or wraps, `driver.ErrBadConn`, so QueryContext, and
ExecContext which passes its error on, returns `ErrBadConn` only when its
environment did. `database/sql` retries a statement on a fresh connection only
after `ErrBadConn`.

Main results:
* `resume_traced` — a reply keeps every error the session holds traced.
* `errorsTraced_invariant` — in every run.
* `driver_never_returns_badConn` — with an environment that never answers
  `ErrBadConn`, neither does QueryContext nor ExecContext.
-/
import AthenaDriver.Checks

namespace AthenaDriver

set_option autoImplicit false

/-- An error QueryContext makes itself: a sentinel of the driver, an error of the
context package, or a fresh `errors.New`. -/
def GoError.driverMade : GoError → Bool
  | .errInvalidQuery | .errQueryUnknownType | .errQueryBufferOF | .errQueryTimeout
  | .canceled | .deadlineExceeded | .new _ => true
  | _ => false

/-- None of them is, or wraps, `driver.ErrBadConn`. -/
theorem GoError.driverMade_not_badConn {e : GoError} (made : e.driverMade = true) :
    e.is .errBadConn = false := by
  cases e <;> simp_all [driverMade, GoError.is]

theorem Done.err_driverMade (d : Done) : d.err.driverMade = true := by
  cases d <;> rfl

/-- The error a reply carries. -/
def Reply.error? : Reply → Option GoError
  | .workGroup (.error e) | .created (.error e) | .started (.error e)
  | .status (.error e) | .stopped (.error e) | .rows (.error e) => some e
  | _ => none

/-- The error an event of the log carries: a call's reply, or `NewRows`'s. -/
def Event.error? : Event → Option GoError
  | .call _ r => r.error?
  | .newRows _ (.error e) => some e
  | _ => none

/-- `e` is an error QueryContext made, or one an event of `log` carries. -/
def Traced (log : List Event) (e : GoError) : Prop :=
  e.driverMade = true ∨ ∃ ev ∈ log, ev.error? = some e

/-- The errors a phase holds, and the result returned, are traced. -/
def PhaseTraced (log : List Event) : Phase → Prop
  | .stop _ ctxErr | .finalStatus _ ctxErr => ctxErr.driverMade = true
  | .returned result => ∀ e, result = fail e → Traced log e
  | _ => True

theorem fail_eq_fail {α : Type} {e e' : GoError} : (fail e : Go α) = fail e' ↔ e = e' :=
  ⟨fun h => by cases h; rfl, fun h => h ▸ rfl⟩

theorem returned_driverMade {log : List Event} {e : GoError} (made : e.driverMade = true) :
    PhaseTraced log (.returned (fail e)) :=
  fun _ h => .inl (fail_eq_fail.1 h ▸ made)

/-- A result returned from the error of the reply just logged. -/
theorem returned_carried {log : List Event} {c : Call} {r : Reply} {e : GoError}
    (carries : r.error? = some e) : PhaseTraced (log ++ [.call c r]) (.returned (fail e)) :=
  fun _ h => .inr ⟨.call c r, by simp, fail_eq_fail.1 h ▸ carries⟩

section Traced

variable (X : Helpers) (cfg : Config)

theorem interpolateParams_error_driverMade {q : GoString} {args : List Value} {e : GoError}
    (failed : interpolateParams X q args = .error (.error e)) : e.driverMade = true := by
  by_cases counted : count q questionMark = args.length
  · rcases interpolateParams_error X counted failed with ⟨rfl, -⟩ | rfl <;> rfl
  · rw [interpolateParams, if_pos counted] at failed
    cases failed
    rfl

theorem buildExecutionParams_error {args : List Value} {x : Exit}
    (failed : buildExecutionParams X args = .error x) : x = .error .errQueryUnknownType := by
  unfold buildExecutionParams at failed
  split at failed
  · cases failed
  · rename_i nonempty
    clear nonempty
    induction args with
    | nil => cases failed
    | cons a args ih =>
        rw [List.mapM_cons] at failed
        cases param : executionParam X a with
        | error y =>
            rw [param] at failed
            cases failed
            cases a <;> cases param
            rfl
        | ok p =>
            rw [param] at failed
            cases rest : args.mapM (executionParam X) with
            | error y => rw [rest] at failed; cases failed; exact ih rest
            | ok ps => rw [rest] at failed; cases failed

/-- The checks return only errors QueryContext makes. -/
theorem prologue_traced {query : GoString} {namedArgs : List NamedValue} {result : Go Rows}
    (returned : prologue X cfg query namedArgs = .returned result) : PhaseTraced [] (.returned result) := by
  unfold prologue at returned
  split at returned
  · cases returned; intro e h; cases h
  · cases returned; exact returned_driverMade rfl
  · split at returned
    · cases returned; exact returned_driverMade rfl
    · dsimp only at returned
      split at returned
      · rename_i x interpolated
        cases returned
        intro e h
        cases h
        split at interpolated
        · exact .inl (interpolateParams_error_driverMade X interpolated)
        · cases interpolated
      · split at returned
        · cases returned; exact returned_driverMade rfl
        · cases returned

theorem afterGate_traced (log : List Event) (plan : Plan) (now : Time) :
    PhaseTraced log (afterGate X cfg plan now).2 := by
  show PhaseTraced log (answerOrSubmit X cfg plan now).2
  unfold answerOrSubmit
  split
  · split
    · trivial
    · split <;> trivial
  · split
    · rename_i x failed
      intro e h
      cases h
      cases buildExecutionParams_error X failed
      exact .inl rfl
    · trivial

theorem afterLookup_traced (log : List Event) (plan : Plan) (now : Time)
    (r : Except GoError AthenaWorkGroup) : PhaseTraced log (afterLookup X cfg plan now r).2 := by
  cases r with
  | error e =>
      simp only [afterLookup]
      split
      · trivial
      · exact returned_driverMade rfl
  | ok wg =>
      simp only [afterLookup]
      split
      · exact returned_driverMade rfl
      · exact afterGate_traced X cfg log plan now

theorem gate_traced (plan : Plan) (now : Time) (cache : WGCache) :
    PhaseTraced (gate X cfg plan now cache).1 (gate X cfg plan now cache).2 := by
  unfold gate
  split
  · exact afterGate_traced X cfg _ plan now
  · split
    · exact afterLookup_traced X cfg _ plan now _
    · split <;> trivial

/-- A reply keeps every error the session holds traced. -/
theorem resume_traced {log : List Event} {phase : Phase} {now : Time} {r : Reply}
    {next : List Event × Phase} (traced : PhaseTraced log phase)
    (resumed : phase.resume X cfg now r = some next) : PhaseTraced (log ++ next.1) next.2 := by
  cases phase <;> cases r <;> cases resumed
  case getWorkGroup.workGroup plan reply | joinWorkGroup.joined plan reply =>
    exact afterLookup_traced X cfg _ plan now reply
  case createWorkGroup.created plan reply =>
    cases reply with
    | error e => exact returned_carried rfl
    | ok u => exact afterGate_traced X cfg _ plan now
  case getQueryIDStatus.status q reply =>
    cases reply with
    | error e => exact returned_carried rfl
    | ok resp =>
        intro e h
        rcases resp with ⟨_ | ⟨_, _ | _, _, _⟩⟩ <;> cases h
  case stopQueryID.stopped q reply =>
    cases reply with
    | error e => exact returned_carried rfl
    | ok u => intro e h; cases h
  case startQueryExecution.started pseudoCommand input start reply =>
    cases reply with
    | error e =>
        intro e' h
        have same : e' = e := by
          split at h
          · split at h
            · cases h
            · exact (fail_eq_fail.1 h).symm
          · exact (fail_eq_fail.1 h).symm
        exact .inr ⟨.call (.startQueryExecution input) (.started (.error e)), by simp [logged],
          by rw [same]; rfl⟩
    | ok queryID =>
        simp only [logged, afterStart]
        split
        · intro e h; cases h
        · trivial
  case poll.status q start reply =>
    cases reply with
    | error e => exact returned_carried rfl
    | ok resp =>
        rcases pollStatus_cases cfg q start now resp with ⟨st, -, eq⟩ | ⟨-, eq⟩ |
          ⟨reason, -, eq⟩ | ⟨-, eq⟩ | ⟨-, eq⟩ <;> simp only [logged, eq]
        · trivial
        · exact returned_driverMade rfl
        · exact returned_driverMade rfl
        · trivial
        · intro e h; cases h
  case stop.stopped q ctxErr reply =>
    cases reply with
    | error e => exact returned_carried rfl
    | ok u =>
        simp only [logged]
        split
        · exact traced
        · exact returned_driverMade traced
  case finalStatus.status q ctxErr reply => exact returned_driverMade traced
  case newRows.rows q reply =>
    cases reply with
    | error e =>
        intro e' h
        exact .inr ⟨.newRows q (.error e), by simp, by cases h; rfl⟩
    | ok rows => intro e h; cases h

/-- QueryContext at `s` holds and has returned only traced errors. -/
def ErrorsTraced (s : Session) : Prop := PhaseTraced s.log s.phase

theorem errorsTraced_step {s s' : Session} {input : Input} (traced : ErrorsTraced s)
    (moved : step X cfg s input = some s') : ErrorsTraced s' := by
  rcases step_cases X cfg moved with ⟨hp, hl, -⟩ | ⟨r, next, resumed, rfl⟩ |
    ⟨q, t, st, since, d, -, -, -, rfl⟩ | ⟨q, t, st, since, -, -, rfl⟩
  · unfold ErrorsTraced; rw [hp, hl]; exact traced
  · exact resume_traced X cfg traced resumed
  · exact Done.err_driverMade d.cause
  · unfold ErrorsTraced
    dsimp only
    split
    · exact returned_driverMade rfl
    · trivial

theorem errorsTraced_invariant {query : GoString} {namedArgs : List NamedValue} {s : Session}
    (reached : QueryContextRun X cfg query namedArgs s) : ErrorsTraced s :=
  QueryContextRun.induction X cfg ErrorsTraced
    (fun now done cache => by
      unfold queryContext ErrorsTraced
      split
      · exact prologue_traced X cfg ‹_›
      · exact gate_traced X cfg _ now cache)
    (fun _ _ _ => errorsTraced_step X cfg) reached

/-- For every query, arguments and configuration, and every environment whose
replies and `NewRows` never answer an error that is `ErrBadConn`, the error
QueryContext returns, or ExecContext returns from it, is not `ErrBadConn`:
whether or not the invocation has issued `StartQueryExecution`. -/
theorem driver_never_returns_badConn {query : GoString} {namedArgs : List NamedValue}
    {s : Session} (clean : ∀ ev ∈ s.log, ∀ e, ev.error? = some e → e.is .errBadConn = false) :
    (QueryContextRun X cfg query namedArgs s →
      ∀ e, s.phase = .returned (fail e) → e.is .errBadConn = false) ∧
    (ExecContextRun X cfg query namedArgs s → ∀ result e, s.phase = .returned result →
      execContextResult result = .error (.error e) → e.is .errBadConn = false) := by
  have traced : ∀ {query : GoString} {namedArgs : List NamedValue},
      QueryContextRun X cfg query namedArgs s → ∀ e, s.phase = .returned (fail e) →
      e.is .errBadConn = false := fun reached e returned => by
    have := errorsTraced_invariant X cfg reached
    unfold ErrorsTraced at this
    rw [returned] at this
    rcases this e rfl with made | ⟨ev, mem, carries⟩
    · exact GoError.driverMade_not_badConn made
    · exact clean ev mem e carries
  refine ⟨traced, fun ⟨_, _, reached⟩ result e returned failed => traced reached e ?_⟩
  rw [returned]
  cases result with
  | ok rows => cases rows <;> (try rename_i u; cases u) <;> cases failed
  | error x => cases failed; rfl

end Traced

/-- The run where a cancellation makes the poll in flight fail: its
`context.Canceled` is not `ErrBadConn`. -/
theorem driver_never_returns_badConn_after_cancellation :
    let s : Session := ⟨.returned (fail .canceled), ⟨0⟩, some ⟨.canceled, ⟨0⟩⟩, ∅,
      [.startOfStartQueryExecution ⟨0⟩,
        .call (.startQueryExecution selectOneInput) (.started (.ok (ascii "q1"))),
        .call (.getQueryExecution (ascii "q1")) (.status (.error .canceled))]⟩
    QueryContextRun reference referenceConfig pingQuery [] s ∧
      ∀ e, s.phase = .returned (fail e) → e.is .errBadConn = false :=
  have reached : QueryContextRun reference referenceConfig pingQuery []
      ⟨.returned (fail .canceled), ⟨0⟩, some ⟨.canceled, ⟨0⟩⟩, ∅,
        [.startOfStartQueryExecution ⟨0⟩,
          .call (.startQueryExecution selectOneInput) (.started (.ok (ascii "q1"))),
          .call (.getQueryExecution (ascii "q1")) (.status (.error .canceled))]⟩ :=
    ⟨⟨0⟩, none, ∅, [.reply (.started (.ok (ascii "q1"))), .cancel .canceled,
      .reply (.status (.error .canceled))], rfl⟩
  ⟨reached, (driver_never_returns_badConn reference referenceConfig (by
    intro ev mem e carries
    simp only [List.mem_cons, List.mem_singleton, List.not_mem_nil, or_false] at mem
    rcases mem with rfl | rfl | rfl <;> cases carries
    rfl)).1 reached⟩

end AthenaDriver
