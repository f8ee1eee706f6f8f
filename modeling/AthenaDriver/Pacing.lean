/-
# AthenaDriver.Pacing — the poll loop waits out its interval

Between two polls the loop of QueryContext `select`s on `ctx.Done()` and on
`time.After(pollInterval)`, and only the timer branch polls again. The timer is
ready `max(ResultPollIntervalSeconds, 0)` after the `select` was entered, that
is after the poll before it was answered: no earlier than any timer branch
before it, and no earlier than `startOfStartQueryExecution`. `Paced` carries
these times along a run (`Phase.Timely` those a phase holds), and every move
keeps it, however the environment lets time pass.

Each round of the poll loop polls once and takes the timer branch once, and its
last round polls at most twice (`PollsPaced`, read off the grammar of
`AthenaDriver.PollLoop`). With the spacing of the timer branches this bounds
the polls of a run by the time since the submission.

Main results:
* `paced_step` — every move keeps `Paced`.
* `timer_branches_poll_interval_apart` — in every run, any two timer branches
  are a poll interval apart, and each is one after the submission.
* `polls_bounded_by_elapsed_time` — with a positive interval, at most two polls
  more than whole intervals since the submission.
-/
import AthenaDriver.PollResult

namespace AthenaDriver

set_option autoImplicit false

/-- When the `select` took its timer branch. -/
def Event.timerTime? : Event → Option Time
  | .timerBranch _ now => some now
  | _ => none

/-- The times of a log's timer branches, oldest first. -/
def timerTimes (log : List Event) : List Time := log.filterMap Event.timerTime?

@[simp] theorem timerTimes_nil : timerTimes [] = [] := rfl

@[simp] theorem timerTimes_cons (e : Event) (log : List Event) :
    timerTimes (e :: log) = e.timerTime?.toList ++ timerTimes log := by
  cases h : e.timerTime? <;> simp [timerTimes, List.filterMap_cons, h]

@[simp] theorem timerTimes_append (log more : List Event) :
    timerTimes (log ++ more) = timerTimes log ++ timerTimes more :=
  List.filterMap_append ..

theorem timerTimes_quiet {log : List Event} (quiet : ∀ e ∈ log, e.timerTime? = none) :
    timerTimes log = [] :=
  List.filterMap_eq_nil_iff.2 quiet

/-- The times a phase holds: the submission's start, not ahead of `clock`; and
when a `select` was entered, not ahead of `clock` either, and after the
submission and the timer branches `timers`. -/
def Phase.Timely (timers : List Time) (clock : Time) : Phase → Prop
  | .startQueryExecution _ _ start | .poll _ start => start.ns ≤ clock.ns
  | .select _ start _ since => start.ns ≤ since.ns ∧ since.ns ≤ clock.ns ∧ ∀ t ∈ timers, t.ns ≤ since.ns
  | _ => True

theorem Phase.Timely.mono {timers : List Time} {clock clock' : Time} {phase : Phase}
    (later : clock.ns ≤ clock'.ns) (timely : phase.Timely timers clock) : phase.Timely timers clock' := by
  cases phase with
  | startQueryExecution _ _ start => exact Int.le_trans timely later
  | poll _ start => exact Int.le_trans timely later
  | select _ start _ since => exact ⟨timely.1, Int.le_trans timely.2.1 later, timely.2.2⟩
  | _ => trivial

/-- How the timer branches of the poll loop stand at a state of QueryContext. -/
structure Paced (cfg : Config) (s : Session) : Prop where
  /-- Any two timer branches are a poll interval apart. -/
  apart : (timerTimes s.log).Pairwise fun a b => a.ns + cfg.resultPollInterval ≤ b.ns
  /-- Each timer branch came a poll interval after the submission. -/
  late : ∀ start now, Event.timerBranch start now ∈ s.log → start.ns + cfg.resultPollInterval ≤ now.ns
  /-- No timer branch is ahead of the clock. -/
  behind : ∀ t ∈ timerTimes s.log, t.ns ≤ s.clock.ns
  /-- The times the phase holds. -/
  timely : s.phase.Timely (timerTimes s.log) s.clock

/-- A move that logs no timer branch and leaves the clock where it was keeps
`Paced`, once the phase it leads to holds its times. -/
theorem Paced.of_quiet {cfg : Config} {s s' : Session} {more : List Event} (paced : Paced cfg s)
    (grew : s'.log = s.log ++ more) (quiet : ∀ e ∈ more, e.timerTime? = none)
    (same : s'.clock = s.clock) (timely : s'.phase.Timely (timerTimes s.log) s.clock) :
    Paced cfg s' := by
  have times : timerTimes s'.log = timerTimes s.log := by
    simp [grew, timerTimes_quiet quiet]
  refine ⟨?_, fun start now mem => ?_, ?_, ?_⟩ <;> (try rw [times]) <;> (try rw [same])
  · exact paced.apart
  · rw [grew] at mem
    rcases List.mem_append.1 mem with old | new
    · exact paced.late start now old
    · simpa [Event.timerTime?] using quiet _ new
  · exact paced.behind
  · exact timely

section Moves

variable (X : Helpers) (cfg : Config)

theorem afterGate_timely (plan : Plan) (now : Time) (timers : List Time) :
    (∀ e ∈ (afterGate X cfg plan now).1, e.timerTime? = none) ∧
      (afterGate X cfg plan now).2.Timely timers now := by
  unfold afterGate answerOrSubmit cachedQuery
  split
  · split
    · simp [Event.timerTime?, Phase.Timely]
    · split <;> (try split) <;> simp [Event.timerTime?, Phase.Timely]
  · split <;> simp [Event.timerTime?, Phase.Timely]

theorem afterLookup_timely (plan : Plan) (now : Time) (r : Except GoError AthenaWorkGroup)
    (timers : List Time) :
    (∀ e ∈ (afterLookup X cfg plan now r).1, e.timerTime? = none) ∧
      (afterLookup X cfg plan now r).2.Timely timers now := by
  cases r with
  | error e => simp only [afterLookup]; split <;> simp [Phase.Timely]
  | ok wg =>
      simp only [afterLookup]
      split
      · simp [Phase.Timely]
      · exact afterGate_timely X cfg plan now timers

theorem gate_timely (plan : Plan) (now : Time) (cache : WGCache) :
    (∀ e ∈ (gate X cfg plan now cache).1, e.timerTime? = none) ∧
      (gate X cfg plan now cache).2.Timely [] now := by
  unfold gate
  split
  · exact afterGate_timely X cfg plan now []
  · split
    · obtain ⟨quiet, timely⟩ := afterLookup_timely X cfg plan now (.ok ‹_›) []
      exact ⟨by simpa [Event.timerTime?] using quiet, timely⟩
    · split <;> simp [Phase.Timely]

/-- A reply logs no timer branch, and what it leads to holds `now`, the time it
came, as the time a `select` is entered. -/
theorem resume_timely {phase : Phase} {now : Time} {r : Reply} {next : List Event × Phase}
    {timers : List Time} (behind : ∀ t ∈ timers, t.ns ≤ now.ns) (timely : phase.Timely timers now)
    (resumed : phase.resume X cfg now r = some next) :
    (∀ e ∈ next.1, e.timerTime? = none) ∧ next.2.Timely timers now := by
  cases phase <;> simp only [Phase.Timely] at timely <;> cases r <;> cases resumed
  case getWorkGroup.workGroup plan reply | joinWorkGroup.joined plan reply =>
    simpa [logged, Event.timerTime?] using afterLookup_timely X cfg plan now reply timers
  case createWorkGroup.created plan reply =>
    cases reply
    · simp [logged, Event.timerTime?, Phase.Timely]
    · simpa [logged, Event.timerTime?] using afterGate_timely X cfg plan now timers
  case poll.status q start reply =>
    cases reply with
    | error e => simp [logged, Event.timerTime?, Phase.Timely]
    | ok resp =>
        rcases pollStatus_cases cfg q start now resp with ⟨st, -, eq⟩ | ⟨-, eq⟩ | ⟨reason, -, eq⟩ |
          ⟨-, eq⟩ | ⟨-, eq⟩ <;> simp [logged, eq, costOf, Event.timerTime?, Phase.Timely]
        exact ⟨timely, behind⟩
  case startQueryExecution.started pseudoCommand input start reply =>
    cases reply <;> simp only [logged, afterStart] <;> (try split) <;>
      simp [Event.timerTime?, Phase.Timely, timely]
  case stop.stopped q ctxErr reply =>
    cases reply <;> simp only [logged] <;> (try split) <;> simp [Event.timerTime?, Phase.Timely]
  all_goals simp [logged, Event.timerTime?, Phase.Timely]

/-- Every move keeps `Paced`: the timer branch fires only once the interval has
passed since the `select` was entered. -/
theorem paced_step {s s' : Session} {input : Input} (paced : Paced cfg s)
    (moved : step X cfg s input = some s') : Paced cfg s' := by
  rcases step_cases X cfg moved with ⟨hp, hl, -, -, -, later⟩ | ⟨r, next, resumed, rfl⟩ |
    ⟨q, start, st, since, d, hp, -, -, rfl⟩ | ⟨q, start, st, since, hp, ready, rfl⟩
  case inl =>
    refine ⟨?_, ?_, ?_, ?_⟩ <;> rw [hl]
    · exact paced.apart
    · exact paced.late
    · exact fun t mem => Int.le_trans (paced.behind t mem) later
    · rw [hp]; exact paced.timely.mono later
  case inr.inl =>
    obtain ⟨quiet, timely⟩ := resume_timely X cfg paced.behind paced.timely resumed
    exact paced.of_quiet rfl quiet rfl timely
  case inr.inr.inl => exact paced.of_quiet rfl (by simp [Event.timerTime?]) rfl trivial
  case inr.inr.inr =>
    have timely := paced.timely
    rw [hp] at timely
    obtain ⟨started, -, waited⟩ := timely
    have fired : since.ns + max cfg.resultPollInterval 0 ≤ s.clock.ns := by
      simp only [timerReady, timerAt, Bool.and_eq_true, decide_eq_true_eq] at ready
      exact ready.1
    have gap : ∀ t ∈ timerTimes s.log, t.ns + cfg.resultPollInterval ≤ s.clock.ns := fun t mem => by
      have := waited t mem
      omega
    have times : timerTimes (s.log ++ [.timerBranch start s.clock]) = timerTimes s.log ++ [s.clock] := by
      simp [Event.timerTime?]
    refine ⟨?_, fun start' now mem => ?_, ?_, ?_⟩ <;> (try dsimp only; rw [times])
    · exact List.pairwise_append.2 ⟨paced.apart, List.pairwise_singleton _ _,
        fun t mem _ new => by rw [List.mem_singleton.1 new]; exact gap t mem⟩
    · rcases List.mem_append.1 mem with old | new
      · exact paced.late _ _ old
      · obtain ⟨rfl, rfl⟩ : start' = start ∧ now = s.clock := by simpa using new
        omega
    · intro t mem
      rcases List.mem_append.1 mem with old | new
      · exact paced.behind t old
      · obtain rfl := List.mem_singleton.1 new
        exact Int.le_refl _
    · split <;> simp only [Phase.Timely]
      omega

/-- In every run of QueryContext, on any query. -/
theorem paced_invariant {query : GoString} {namedArgs : List NamedValue} {s : Session}
    (reached : QueryContextRun X cfg query namedArgs s) : Paced cfg s :=
  QueryContextRun.induction X cfg (Paced cfg)
    (fun now _ cache => by
      unfold queryContext
      split
      · exact ⟨by simp, by simp, by simp, trivial⟩
      · rename_i plan _
        obtain ⟨quiet, timely⟩ := gate_timely X cfg plan now cache
        have none := timerTimes_quiet quiet
        refine ⟨?_, fun start now mem => ?_, ?_, ?_⟩ <;> dsimp only <;> (try rw [none])
        · exact List.Pairwise.nil
        · simpa [Event.timerTime?] using quiet _ mem
        · simp
        · exact timely)
    (fun _ _ _ paced moved => paced_step X cfg paced moved) reached

/-- The poll loop waits out its interval: in every run of QueryContext, on any
query, whatever Athena answers and however time passes, any two timer branches
of the `select` are at least `ResultPollIntervalSeconds` apart, and each comes
at least that long after `startOfStartQueryExecution`. -/
theorem timer_branches_poll_interval_apart {query : GoString} {namedArgs : List NamedValue}
    {s : Session} (reached : QueryContextRun X cfg query namedArgs s) :
    (timerTimes s.log).Pairwise (fun a b => a.ns + cfg.resultPollInterval ≤ b.ns) ∧
      ∀ start now, Event.timerBranch start now ∈ s.log → start.ns + cfg.resultPollInterval ≤ now.ns :=
  ⟨(paced_invariant X cfg reached).apart, (paced_invariant X cfg reached).late⟩

end Moves

/-! ## Counting the polls -/

/-- A `GetQueryExecution` call of the log. -/
def Event.isPoll : Event → Bool
  | .call (.getQueryExecution _) _ => true
  | _ => false

/-- `events` makes at most `k` more polls than timer branches, and every timer
branch of it is of the submission at `start`. -/
def PollsPaced (start : Time) (k : Nat) (events : List Event) : Prop :=
  events.countP Event.isPoll ≤ (timerTimes events).length + k ∧
    ∀ t now, Event.timerBranch t now ∈ events → t = start

theorem PollsPaced.append {start : Time} {k k' : Nat} {events more : List Event}
    (first : PollsPaced start k events) (second : PollsPaced start k' more) :
    PollsPaced start (k + k') (events ++ more) := by
  refine ⟨?_, fun t now mem => (List.mem_append.1 mem).elim (first.2 t now) (second.2 t now)⟩
  have polls := first.1
  have polls' := second.1
  simp only [List.countP_append, timerTimes_append, List.length_append] at *
  omega

theorem timerBranch_mem_timerTimes {log : List Event} {t now : Time}
    (mem : Event.timerBranch t now ∈ log) : now ∈ timerTimes log :=
  List.mem_filterMap.2 ⟨_, mem, rfl⟩

/-- A stretch of log with no timer branch and at most `k` polls. -/
theorem PollsPaced.of_quiet {start : Time} {k : Nat} {events : List Event}
    (quiet : timerTimes events = []) (few : events.countP Event.isPoll ≤ k) :
    PollsPaced start k events :=
  ⟨by rw [quiet]; simpa using few, fun t now mem => by simpa [quiet] using timerBranch_mem_timerTimes mem⟩

theorem PollsPaced.mono {start : Time} {k k' : Nat} {events : List Event} (le : k ≤ k')
    (paced : PollsPaced start k events) : PollsPaced start k' events :=
  ⟨Nat.le_trans paced.1 (Nat.add_le_add_left le _), paced.2⟩

section Grammar

variable (X : Helpers) (cfg : Config) (queryID : GoString) (start : Time)

theorem costOf_no_timer (resp : Option GetQueryExecutionOutput) : timerTimes (costOf cfg resp) = [] := by
  unfold costOf; split <;> simp [Event.timerTime?]

theorem costOf_no_poll (resp : Option GetQueryExecutionOutput) :
    (costOf cfg resp).countP Event.isPoll = 0 := by
  unfold costOf; split <;> simp [Event.isPoll]

/-- Each round of the poll loop polls once and takes the timer branch once. -/
theorem Rounds.pollsPaced {rounds : List Event} (h : Rounds X cfg queryID start rounds) :
    PollsPaced start 0 rounds := by
  induction h with
  | nil => exact .of_quiet rfl (by simp)
  | round _ _ _ ih =>
      exact ih.append (show PollsPaced start 0 [polled queryID _, .timerBranch start _] from
        ⟨by simp [polled, Event.isPoll, Event.timerTime?], by simp [polled]⟩)

/-- The last round polls at most twice: its poll, and money-wise after a stop
the final one; it takes the timer branch at most once. -/
theorem Outcome.pollsPaced {done : Option Cancellation} {ending : List Event} {result : Go Rows}
    (h : Outcome X cfg queryID start done ending result) : PollsPaced start 2 ending := by
  cases h with
  | stopped _ _ after =>
      unfold AfterStop at after
      split at after
      · obtain ⟨reply, rfl⟩ := after
        exact .of_quiet (by simp [Event.timerTime?, polled]) (by simp [polled, Event.isPoll])
      · subst after
        exact .of_quiet (by simp [Event.timerTime?, polled]) (by simp [polled, Event.isPoll])
  | timedOut => exact ⟨by simp [polled, Event.isPoll, Event.timerTime?], by simp [polled]⟩
  | _ =>
      exact .of_quiet (by simp [polled, Event.timerTime?, costOf_no_timer])
        (by simp [polled, Event.isPoll, costOf_no_poll])

/-- Every stretch of the poll loop's grammar polls at most twice more than it
takes the timer branch. -/
theorem Polling.pollsPaced {phase : Phase} {done : Option Cancellation} {events : List Event}
    (h : Polling X cfg queryID start phase done events) : PollsPaced start 2 events := by
  cases phase <;> simp only [Polling] at h
  case poll => exact (Rounds.pollsPaced X cfg queryID start h.2.2).mono (by decide)
  case select =>
    obtain ⟨-, -, rounds, resp, hr, -, rfl⟩ := h
    exact ((Rounds.pollsPaced X cfg queryID start hr).append (show PollsPaced start 1 [polled queryID resp]
      from .of_quiet (by simp [polled, Event.timerTime?]) (by simp [polled, Event.isPoll]))).mono (by decide)
  case stop =>
    obtain ⟨-, rounds, resp, st, d, hr, -, -, -, rfl⟩ := h
    exact ((Rounds.pollsPaced X cfg queryID start hr).append
      (show PollsPaced start 1 [polled queryID resp, .cancelBranch] from
        .of_quiet (by simp [polled, Event.timerTime?]) (by simp [polled, Event.isPoll]))).mono (by decide)
  case finalStatus =>
    obtain ⟨-, -, rounds, resp, st, d, hr, -, -, -, rfl⟩ := h
    exact ((Rounds.pollsPaced X cfg queryID start hr).append
      (show PollsPaced start 1 [polled queryID resp, .cancelBranch,
          .call (.stopQueryExecution queryID) (.stopped (.ok ()))] from
        .of_quiet (by simp [polled, Event.timerTime?]) (by simp [polled, Event.isPoll]))).mono (by decide)
  case newRows =>
    obtain ⟨-, rounds, resp, hr, -, rfl⟩ := h
    exact ((Rounds.pollsPaced X cfg queryID start hr).append
      (show PollsPaced start 1 (polled queryID resp :: costOf cfg (some resp)) from
        .of_quiet (by simp [polled, Event.timerTime?, costOf_no_timer])
          (by simp [polled, Event.isPoll, costOf_no_poll]))).mono (by decide)
  case returned =>
    obtain ⟨rounds, ending, hr, outcome | panicked, rfl⟩ := h
    · exact ((Rounds.pollsPaced X cfg queryID start hr).append
        (Outcome.pollsPaced X cfg queryID start outcome)).mono (by decide)
    · refine ((Rounds.pollsPaced X cfg queryID start hr).append (show PollsPaced start 1 ending from ?_)).mono
        (by decide)
      cases panicked <;>
        exact .of_quiet (by simp [polled, Event.timerTime?]) (by simp [polled, Event.isPoll])

end Grammar

theorem Event.quiet_of_beforeSubmission {e : Event} (before : e.beforeSubmission) :
    e.isPoll = false ∧ e.timerTime? = none := by
  cases e with
  | call c r => cases c <;> simp_all [Event.beforeSubmission, Event.isPoll, Event.timerTime?]
  | _ => simp_all [Event.beforeSubmission, Event.isPoll, Event.timerTime?]

/-- Before the submission the log has no poll and no timer branch. -/
theorem pollsPaced_of_beforeSubmission {pre : List Event} (before : ∀ e ∈ pre, e.beforeSubmission)
    (start : Time) : PollsPaced start 0 pre :=
  .of_quiet (timerTimes_quiet fun e mem => (Event.quiet_of_beforeSubmission (before e mem)).2)
    (Nat.le_of_eq (List.countP_eq_zero.2 fun e mem => by
      simp [(Event.quiet_of_beforeSubmission (before e mem)).1]))

/-- In every run of QueryContext on a query it submits, the log polls at most
twice more than it takes the timer branch, always of the one submission. -/
theorem pollsPaced_invariant (X : Helpers) (cfg : Config) {query : GoString}
    {namedArgs : List NamedValue} {plan : Plan} {s : Session}
    (proceeds : prologue X cfg query namedArgs = .proceed plan) (submits : X.isQID plan.query = false)
    (notGetQID : plan.pseudoCommand ≠ pcGetQID) (reached : QueryContextRun X cfg query namedArgs s) :
    ∃ start, PollsPaced start 2 s.log := by
  rcases submission_invariant X cfg submits notGetQID proceeds reached with
    ⟨before, -⟩ | ⟨pre, input, queryID, start, events, before, hlog, polling⟩
  · exact ⟨⟨0⟩, (pollsPaced_of_beforeSubmission before _).mono (by decide)⟩
  · refine ⟨start, ?_⟩
    rw [show s.log = pre ++ [.startOfStartQueryExecution start] ++
        [.call (.startQueryExecution input) (.started (.ok queryID))] ++ events by simp [hlog]]
    exact (((pollsPaced_of_beforeSubmission (beforeSubmission_stamped before start) start).append
      (show PollsPaced start 0 [.call (.startQueryExecution input) (.started (.ok queryID))] from
        .of_quiet (by simp [Event.timerTime?]) (by simp [Event.isPoll]))).append
      (Polling.pollsPaced X cfg queryID start polling)).mono (by decide)

/-- Times at least `d` apart, each at least `d` after `lo` and none after `hi`,
number at most `(hi - lo) / d`. -/
theorem length_mul_le_of_spaced {d hi : Int} : ∀ {lo : Int} {times : List Time}, lo ≤ hi →
    times.Pairwise (fun a b => a.ns + d ≤ b.ns) → (∀ t ∈ times, lo + d ≤ t.ns) →
    (∀ t ∈ times, t.ns ≤ hi) → (times.length : Int) * d ≤ hi - lo
  | _, [], le, _, _, _ => by simp; omega
  | _, x :: rest, _, spaced, after, before => by
      have rest_bound := @length_mul_le_of_spaced d hi x.ns rest (before x (List.mem_cons_self _ _))
        (List.pairwise_cons.1 spaced).2 (List.pairwise_cons.1 spaced).1
        (fun t mem => before t (List.mem_cons_of_mem x mem))
      have first := after x (List.mem_cons_self _ _)
      simp only [List.length_cons]
      push_cast
      rw [Int.add_mul, Int.one_mul]
      omega

/-- With a positive poll interval, QueryContext calls GetQueryExecution at most
twice more than there are whole poll intervals since the submission: in every
run on a query it submits (not a QID, not under `pc:get_query_id`), once a timer
branch fired, `(polls - 2) × ResultPollIntervalSeconds` is at most the time since
`startOfStartQueryExecution`, whatever Athena answers and however time passes. -/
theorem polls_bounded_by_elapsed_time (X : Helpers) (cfg : Config) (pos : 0 < cfg.resultPollInterval)
    {query : GoString} {namedArgs : List NamedValue} {plan : Plan} {s : Session}
    (proceeds : prologue X cfg query namedArgs = .proceed plan) (submits : X.isQID plan.query = false)
    (notGetQID : plan.pseudoCommand ≠ pcGetQID) (reached : QueryContextRun X cfg query namedArgs s)
    {start now : Time} (fired : Event.timerBranch start now ∈ s.log) :
    ((s.log.countP Event.isPoll : Int) - 2) * cfg.resultPollInterval ≤ s.clock.ns - start.ns := by
  have paced := paced_invariant X cfg reached
  obtain ⟨start', polls, starts⟩ := pollsPaced_invariant X cfg proceeds submits notGetQID reached
  have after : ∀ t ∈ timerTimes s.log, start.ns + cfg.resultPollInterval ≤ t.ns := fun t mem => by
    obtain ⟨e, logged, found⟩ := List.mem_filterMap.1 mem
    cases e with
    | timerBranch a n =>
        obtain rfl : n = t := Option.some.inj found
        rw [(starts start now fired).trans (starts a n logged).symm]
        exact paced.late a n logged
    | _ => cases found
  have started : start.ns ≤ s.clock.ns := by
    have := paced.late start now fired
    have := paced.behind now (timerBranch_mem_timerTimes fired)
    have : (0 : Int) < cfg.resultPollInterval := pos
    omega
  have pos : (0 : Int) ≤ cfg.resultPollInterval := Int.le_of_lt pos
  calc ((s.log.countP Event.isPoll : Int) - 2) * cfg.resultPollInterval
      ≤ ((timerTimes s.log).length : Int) * cfg.resultPollInterval :=
        Int.mul_le_mul_of_nonneg_right (by omega) pos
    _ ≤ s.clock.ns - start.ns := length_mul_le_of_spaced started paced.apart after paced.behind

/-- `SELECT 1` polled Running, then, one interval later, Succeeded. -/
def selectOneWaits : List Input :=
  [.reply (.started (.ok (ascii "q1"))), .reply (.status (.ok (responseQ1 .running none))),
    .tick ⟨1000000000⟩, .selectTimer, .reply (.status (.ok (responseQ1 .succeeded none))),
    .reply (.rows (.ok (.cursor (ascii "q1") none)))]

/-- Where that run ends. -/
def selectOneWaited : Session :=
  ⟨.returned (pure (.cursor (ascii "q1") none)), ⟨1000000000⟩, none, ∅,
    [.startOfStartQueryExecution ⟨0⟩, .call (.startQueryExecution selectOneInput) (.started (.ok (ascii "q1"))),
      polled (ascii "q1") (responseQ1 .running none), .timerBranch ⟨0⟩ ⟨1000000000⟩,
      polled (ascii "q1") (responseQ1 .succeeded none),
      .newRows (ascii "q1") (.ok (.cursor (ascii "q1") none))]⟩

theorem selectOneWaited_reached :
    QueryContextRun reference referenceConfig pingQuery [] selectOneWaited :=
  ⟨⟨0⟩, none, ∅, selectOneWaits, rfl⟩

/-- Its one timer branch came a whole interval after the submission. -/
theorem timer_branches_poll_interval_apart_after_one_wait :
    (timerTimes selectOneWaited.log).Pairwise
        (fun a b => a.ns + referenceConfig.resultPollInterval ≤ b.ns) ∧
      ∀ start now, Event.timerBranch start now ∈ selectOneWaited.log →
        start.ns + referenceConfig.resultPollInterval ≤ now.ns :=
  timer_branches_poll_interval_apart reference referenceConfig selectOneWaited_reached

/-- The run that waited one interval polled twice, within its bound. -/
theorem polls_bounded_by_elapsed_time_after_one_wait :
    ((selectOneWaited.log.countP Event.isPoll : Int) - 2) * referenceConfig.resultPollInterval ≤
      selectOneWaited.clock.ns - (⟨0⟩ : Time).ns :=
  polls_bounded_by_elapsed_time reference referenceConfig (by decide)
    (rfl : prologue reference referenceConfig pingQuery [] = .proceed ⟨[], pingQuery, pingQuery, []⟩)
    rfl (by decide)
    selectOneWaited_reached
    (show Event.timerBranch ⟨0⟩ ⟨1000000000⟩ ∈ selectOneWaited.log by simp [selectOneWaited])

end AthenaDriver
