/-
# AthenaDriver.Checks — what QueryContext checks before its first remote call

QueryContext's checks are its `prologue`; when they return, the invocation has
made no remote call and makes none (`queryContextRun_of_returned`). When they
pass, they leave a `Plan`, and `prologue_eq_proceed` says what the plan is made
of: the text left after the pseudo-command, which the read-only check accepted,
and the arguments that interpolation accepted. Interpolation accepts only
arguments of the types `buildExecutionParams` handles too
(`interpolateParams_supported`), so the execution parameters built after the
workgroup lookup never fail (`buildExecutionParams_ok`).

Main results:
* `readOnly_submits_checked_text` — in read-only mode every submission carries
  the stripped text `isReadOnlyStatement` accepted, and a rejected text returns
  with no remote call.
* `validation_precedes_remote_calls` — every validation error is returned
  before any remote call, and none comes after one.
-/
import AthenaDriver.Placeholders
import AthenaDriver.Protocol

namespace AthenaDriver

set_option autoImplicit false

variable (X : Helpers) (cfg : Config)

/-- The checks passed: what the plan is made of. -/
theorem prologue_eq_proceed {query : GoString} {namedArgs : List NamedValue} {plan : Plan}
    (proceeds : prologue X cfg query namedArgs = .proceed plan) :
    stripPseudoCommand query = .query plan.pseudoCommand plan.queryWithPlaceholders ∧
    (cfg.isReadOnly = true → X.isReadOnlyStatement plan.queryWithPlaceholders = true) ∧
    plan.args = namedValueToValue namedArgs ∧
    (namedArgs.length > 0 →
      interpolateParams X plan.queryWithPlaceholders plan.args = .ok plan.query) := by
  unfold prologue at proceeds
  split at proceeds
  · cases proceeds
  · cases proceeds
  · rename_i pseudoCommand stripped strip
    split at proceeds
    · cases proceeds
    · rename_i allowed
      dsimp only at proceeds
      split at proceeds
      · cases proceeds
      · rename_i interpolated ok
        split at proceeds
        · cases proceeds
        · cases proceeds
          refine ⟨strip, fun readOnly => by simpa [readOnly] using allowed, rfl, fun some => ?_⟩
          simpa [some] using ok

/-! ## Arguments the interpolation accepts -/

theorem index_eq_ok_drop {α : Type} {xs : List α} {n : Nat} {a : α} (h : index xs n = .ok a) :
    xs.drop n = a :: xs.drop (n + 1) := by
  by_cases lt : n < xs.length
  · rw [index_of_lt xs n lt] at h
    cases h
    exact List.drop_eq_getElem_cons lt
  · simp only [index, Int.ofNat_nonneg, ↓reduceIte, Int.toNat_ofNat, List.get?_eq_getElem?,
      List.getElem?_eq_none (not_lt.1 lt)] at h
    cases h

theorem Appended.supported {pre : GoString} {a : Value} {text : GoString}
    (appended : Appended X pre a text) : a.unsupported = false := by
  rcases appended with ⟨rfl, -⟩ | ⟨-, literal, -⟩
  · rfl
  · cases a <;> first | rfl | cases literal

/-- `interpolateParams` accepts only arguments of the types its type switch
handles. -/
theorem interpolateParams_supported {q out : GoString} {args : List Value}
    (ok : interpolateParams X q args = .ok out) : ∀ a ∈ args, a.unsupported = false := by
  unfold interpolateParams at ok
  split at ok
  · cases ok
  · rename_i counted
    simp only [ne_eq, Decidable.not_not] at counted
    refine loop_rec X (fun c r => Reaches X q args c → r = .ok out →
        ∀ a ∈ args.drop c.argPos, a.unsupported = false)
      (fun c r step reached result => ?_) (fun c c' step ih reached result => ?_)
      ⟨0, 0, []⟩ .start ok
    · subst result
      have none_left : count (q.drop c.i) questionMark = 0 := by
        rcases pass_eq_exit step with ⟨past, -⟩ | ⟨absent, -⟩ |
            ⟨p, -, ⟨x, -, hx⟩ | ⟨a, x, -, -, hx⟩ | ⟨a, -, -, hx⟩⟩
        · simp [List.drop_eq_nil_of_le past, count]
        · exact List.count_eq_zero_of_not_mem (not_mem_of_indexByte_eq_none absent)
        all_goals cases hx
      have := (reaches_counted X counted reached).1
      simp [List.drop_eq_nil_of_le (show args.length ≤ c.argPos by omega)]
    · obtain ⟨p, a, text, -, -, arg, appended, rfl⟩ := pass_eq_next step
      rw [index_eq_ok_drop arg]
      exact List.forall_mem_cons.2 ⟨appended.supported X, ih (reached.next step) result⟩

theorem executionParam_ok {a : Value} (supported : a.unsupported = false) :
    ∃ param, executionParam X a = .ok param := by
  cases a <;> first | exact ⟨_, rfl⟩ | cases supported

/-- `buildExecutionParams` succeeds on arguments of supported types. -/
theorem buildExecutionParams_ok {args : List Value} (supported : ∀ a ∈ args, a.unsupported = false) :
    ∃ params, buildExecutionParams X args = .ok params := by
  unfold buildExecutionParams
  split
  · exact ⟨[], rfl⟩
  · clear ‹_›
    induction args with
    | nil => exact ⟨[], rfl⟩
    | cons a args ih =>
        obtain ⟨param, hparam⟩ := executionParam_ok X (supported a (List.mem_cons_self _ _))
        obtain ⟨params, hparams⟩ := ih fun b mem => supported b (List.mem_cons_of_mem _ mem)
        exact ⟨param :: params, by rw [List.mapM_cons, hparam, hparams]; rfl⟩

/-- What the checks leave builds its execution parameters. -/
theorem prologue_buildExecutionParams {query : GoString} {namedArgs : List NamedValue}
    {plan : Plan} (proceeds : prologue X cfg query namedArgs = .proceed plan) :
    ∃ params, buildExecutionParams X plan.args = .ok params := by
  obtain ⟨-, -, args, interpolated⟩ := prologue_eq_proceed X cfg proceeds
  by_cases some : namedArgs.length > 0
  · exact buildExecutionParams_ok X (interpolateParams_supported X (interpolated some))
  · have : namedArgs = [] := List.eq_nil_of_length_eq_zero (by omega)
    subst this
    rw [args]
    exact ⟨[], rfl⟩

/-! ## Read-only mode -/

/-- The message of the read-only check (line 320). -/
def readOnlyMessage : GoString := ascii "writing to Athena database is disallowed in read-only mode"

theorem prologue_readOnly_message (query : GoString) (namedArgs : List NamedValue) :
    (∃ pseudoCommand stripped, stripPseudoCommand query = .query pseudoCommand stripped ∧
      cfg.isReadOnly = true ∧ X.isReadOnlyStatement stripped = false) →
    prologue X cfg query namedArgs = .returned (fail (.new readOnlyMessage)) := by
  rintro ⟨pseudoCommand, stripped, strip, readOnly, rejected⟩
  simp [prologue, strip, readOnly, rejected, readOnlyMessage]

/-- Every submission of `s` carries the text left after stripping `query`'s
pseudo-command, which `isReadOnlyStatement` accepted; and when it rejected that
text, `s` has returned the read-only error with nothing logged. -/
def ReadOnlyChecked (query : GoString) (s : Session) : Prop :=
  (∀ input r, Event.call (.startQueryExecution input) r ∈ s.log →
    ∃ pseudoCommand, stripPseudoCommand query = .query pseudoCommand input.queryString ∧
      X.isReadOnlyStatement input.queryString = true) ∧
  (∀ pseudoCommand stripped, stripPseudoCommand query = .query pseudoCommand stripped →
    X.isReadOnlyStatement stripped = false →
    s.log = [] ∧ s.phase = .returned (fail (.new readOnlyMessage)))

theorem queryContextRun_readOnlyChecked (readOnly : cfg.isReadOnly = true) {query : GoString}
    {namedArgs : List NamedValue} {s : Session} (reached : QueryContextRun X cfg query namedArgs s) :
    ReadOnlyChecked X query s := by
  constructor
  · intro input r mem
    cases h : prologue X cfg query namedArgs with
    | returned result => simp [(queryContextRun_of_returned X cfg h reached).2] at mem
    | proceed plan =>
        obtain ⟨strip, checked, -, -⟩ := prologue_eq_proceed X cfg h
        obtain ⟨stage, follow, -⟩ := follows_protocol X cfg plan h reached
        have submits := Stage.follow_submits X cfg plan follow mem
        simp only [Stage.submits, Bool.and_eq_true, beq_iff_eq] at submits
        rw [submits.1.2]
        exact ⟨_, strip, checked readOnly⟩
  · intro pseudoCommand stripped strip rejected
    obtain ⟨phase, log⟩ := queryContextRun_of_returned X cfg
      (prologue_readOnly_message X cfg query namedArgs ⟨_, _, strip, readOnly, rejected⟩) reached
    exact ⟨log, phase⟩

/-- In read-only mode, through QueryContext, Ping (which is QueryContext on
`SELECT 1`) or ExecContext (which is QueryContext on the text its checks leave),
every `StartQueryExecution` carries the text left after the pseudo-command, and
`isReadOnlyStatement` accepted that text in the checks of the same invocation;
when it rejected the text, the invocation returns an error with no remote call. -/
theorem readOnly_submits_checked_text (readOnly : cfg.isReadOnly = true) (query : GoString)
    (namedArgs : List NamedValue) :
    (∀ s, QueryContextRun X cfg query namedArgs s → ReadOnlyChecked X query s) ∧
    (∀ s, ExecContextRun X cfg query namedArgs s → ∃ interpolated,
      execContextQuery X query namedArgs = .ok interpolated ∧ ReadOnlyChecked X interpolated s) :=
  ⟨fun _ reached => queryContextRun_readOnlyChecked X cfg readOnly reached,
    fun _ ⟨interpolated, checked, reached⟩ =>
      ⟨interpolated, checked, queryContextRun_readOnlyChecked X cfg readOnly reached⟩⟩

/-- `SELECT 1` in read-only mode is submitted as the text the check accepted. -/
theorem readOnly_submits_checked_text_select_one :
    ∃ pseudoCommand, stripPseudoCommand pingQuery = .query pseudoCommand selectOneInput.queryString ∧
      reference.isReadOnlyStatement selectOneInput.queryString = true :=
  ((readOnly_submits_checked_text reference readOnlyConfig rfl pingQuery []).1 selectOneSucceeded
    ⟨⟨0⟩, none, ∅, selectOneSucceeds, rfl⟩).1 selectOneInput _
      (List.mem_cons_of_mem _ (List.mem_cons_self _ _))

/-! ## Validation before the first remote call -/

theorem proceeds_of_logged {query : GoString} {namedArgs : List NamedValue} {s : Session}
    (reached : QueryContextRun X cfg query namedArgs s) (logged : s.log ≠ []) :
    ∃ plan, prologue X cfg query namedArgs = .proceed plan := by
  cases h : prologue X cfg query namedArgs with
  | returned result => exact absurd (queryContextRun_of_returned X cfg h reached).2 logged
  | proceed plan => exact ⟨plan, rfl⟩

/-- Through QueryContext or ExecContext, the checks return every validation
error (an unknown pseudo-command, `ErrInvalidQuery`, `ErrQueryUnknownType`,
`ErrQueryBufferOF`) with nothing logged, and once anything is logged the checks
have passed and `buildExecutionParams`, after the workgroup lookup, succeeds. -/
theorem validation_precedes_remote_calls (query : GoString) (namedArgs : List NamedValue) :
    (∀ s, QueryContextRun X cfg query namedArgs s →
      (∀ result, prologue X cfg query namedArgs = .returned result →
        s.phase = .returned result ∧ s.log = []) ∧
      (s.log ≠ [] → ∃ plan params, prologue X cfg query namedArgs = .proceed plan ∧
        buildExecutionParams X plan.args = .ok params)) ∧
    (∀ s, ExecContextRun X cfg query namedArgs s → s.log ≠ [] →
      ∃ interpolated plan params, execContextQuery X query namedArgs = .ok interpolated ∧
        prologue X cfg interpolated [] = .proceed plan ∧ buildExecutionParams X plan.args = .ok params) := by
  refine ⟨fun s reached => ⟨fun _ returned => queryContextRun_of_returned X cfg returned reached,
    fun logged => ?_⟩, fun s ⟨interpolated, checked, reached⟩ logged => ?_⟩
  · obtain ⟨plan, proceeds⟩ := proceeds_of_logged X cfg reached logged
    exact ⟨plan, prologue_buildExecutionParams X cfg proceeds |>.imp fun _ h => ⟨proceeds, h⟩⟩
  · obtain ⟨plan, proceeds⟩ := proceeds_of_logged X cfg reached logged
    obtain ⟨params, built⟩ := prologue_buildExecutionParams X cfg proceeds
    exact ⟨interpolated, plan, params, checked, proceeds, built⟩

/-- `SELECT 1`, submitted and answered, passed its checks and built its
execution parameters. -/
theorem validation_precedes_remote_calls_select_one :
    ∃ plan params, prologue reference referenceConfig pingQuery [] = .proceed plan ∧
      buildExecutionParams reference plan.args = .ok params :=
  ((validation_precedes_remote_calls reference referenceConfig pingQuery []).1 selectOneSucceeded
    selectOneSucceeded_reached).2 (by simp [selectOneSucceeded])

end AthenaDriver
