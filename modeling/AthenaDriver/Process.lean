/-
# AthenaDriver.Process — invocations of QueryContext sharing the workgroup memoizer

`getWGGroup` (wg.go, lines 32-35) is a package variable: the connections of a
process share one memoizer, while everything else an invocation of QueryContext
reads or writes is its own. A `Process` is the clock, that memoizer, and the
invocations started so far, each on the configuration of its connection. Its
moves interleave the invocations' in any order: time passes for all of them at
once, an invocation starts on the memoizer as it stands (its gate may put the
fetch of its name in flight, `WGCache.register`), or the environment moves one
invocation as `step` does. The answer to a `GetWorkGroup` ends its fetch in the
shared memoizer (`WGCache.afterInput`) and, in the same move, reaches every
invocation that joined that fetch (`Invocation.deliver`): `memoize.Group` hands
the caller of the fetch and every caller waiting on its key one result, the
workgroup or the error. An invocation that joined a fetch moves on only so.

`Process.Sound` is what every reachable state satisfies (`Process.Reachable.sound`):
each invocation is a run of QueryContext alone, the clocks agree, every entry
of the memoizer expires within 10 minutes, and the fetches are single-flight
(`Process.Flights`): each fetch in flight is the `GetWorkGroup` of one
invocation waiting on it, and every invocation waiting in `getWG` waits on one.

Main results:
* `invocations_run_alone` — every invocation of every interleaving is a run of
  QueryContext alone.
* `one_fetch_in_flight_per_name` — at most one invocation per workgroup name
  waits on a `GetWorkGroup` of its own, and every invocation waiting in `getWG`
  has such a call in flight for its name.
* `later_invocations_skip_lookup` — for 10 minutes after an invocation fetched
  its workgroup, one that starts on it makes no `GetWorkGroup` call, whatever the
  others do meanwhile.
-/
import AthenaDriver.Memoizer

namespace AthenaDriver

set_option autoImplicit false

/-! ## Sessions, as the process uses them -/

theorem Phase.inGetWG_cases {phase : Phase} (waits : phase.inGetWG = true) :
    ∃ plan, phase = .getWorkGroup plan ∨ phase = .joinWorkGroup plan := by
  cases phase <;> simp_all [Phase.inGetWG]

theorem Phase.inGetWG_of_isLookup {phase : Phase} (leads : phase.isLookup = true) : phase.inGetWG = true := by
  cases phase <;> simp_all [Phase.isLookup, Phase.inGetWG]

section Sessions

variable (X : Helpers) (cfg : Config)

theorem run_append (s : Session) (inputs more : List Input) :
    run X cfg s (inputs ++ more) = (run X cfg s inputs).bind fun s' => run X cfg s' more := by
  induction inputs generalizing s with
  | nil => rfl
  | cons input inputs ih =>
      simp only [List.cons_append, run]
      cases step X cfg s input <;> simp [ih]

theorem QueryContextRun.of_run {query : GoString} {namedArgs : List NamedValue} {s s' : Session}
    (reached : QueryContextRun X cfg query namedArgs s) {inputs : List Input}
    (ran : run X cfg s inputs = some s') : QueryContextRun X cfg query namedArgs s' := by
  obtain ⟨now, done, cache, before, ranBefore⟩ := reached
  exact ⟨now, done, cache, before ++ inputs, by rw [run_append, ranBefore]; exact ran⟩

@[simp] theorem queryContext_clock (query : GoString) (namedArgs : List NamedValue) (now : Time)
    (done : Option Cancellation) (cache : WGCache) :
    (queryContext X cfg query namedArgs now done cache).clock = now := by
  unfold queryContext; split <;> rfl

theorem queryContext_cache (query : GoString) (namedArgs : List NamedValue) (now : Time)
    (done : Option Cancellation) (cache : WGCache) :
    (queryContext X cfg query namedArgs now done cache).cache =
      cache.register cfg.workgroup.name (queryContext X cfg query namedArgs now done cache).phase := by
  unfold queryContext; split <;> rfl

/-- An invocation starts a fetch only for a name with none in flight, and one
that waits in `getWG` has, once started, a fetch of its name in flight. -/
theorem queryContext_waits (query : GoString) (namedArgs : List NamedValue) (now : Time)
    (done : Option Cancellation) (cache : WGCache) :
    ((queryContext X cfg query namedArgs now done cache).phase.isLookup = true →
      cfg.workgroup.name ∉ cache.inFlight) ∧
    ((queryContext X cfg query namedArgs now done cache).phase.inGetWG = true →
      cfg.workgroup.name ∈ (queryContext X cfg query namedArgs now done cache).cache.inFlight) := by
  cases h : prologue X cfg query namedArgs with
  | returned result => simp [queryContext_of_returned X cfg h, Phase.isLookup, Phase.inGetWG]
  | proceed plan =>
      rw [queryContext_of_proceed X cfg h]
      dsimp only
      unfold gate
      split
      · have past := (afterGate_quiet X cfg plan now).2
        simp [past, Phase.isLookup_eq_false past]
      · split
        · rename_i wg _
          have past := (afterLookup_quiet X cfg plan now (.ok wg)).2
          simp [past, Phase.isLookup_eq_false past]
        · split <;> simp_all [Phase.isLookup, Phase.inGetWG, WGCache.register, WGCache.startFetch]

theorem step_live {s s' : Session} {input : Input} (moved : step X cfg s input = some s') :
    s.phase.isReturned = false := by
  cases h : s.phase with
  | returned result => rw [step_returned X cfg h] at moved; cases moved
  | _ => rfl

/-- Only time moves the clock. -/
theorem step_clock {s s' : Session} {input : Input} (notTick : ∀ now, input ≠ .tick now)
    (moved : step X cfg s input = some s') : s'.clock = s.clock := by
  cases input with
  | tick now => exact absurd rfl (notTick now)
  | reply r =>
      simp only [step, Option.map_eq_some'] at moved
      obtain ⟨next, -, rfl⟩ := moved
      rfl
  | cancel cause =>
      simp only [step] at moved
      split at moved <;> cases moved
      rfl
  | selectCancel | selectTimer =>
      simp only [step] at moved
      repeat' split at moved
      all_goals cases moved
      all_goals rfl

/-- Only the answer it waits on moves QueryContext out of `getWG`, and no move
brings it there: any other input leaves the phase of a session that waits in
`getWG`, before or after, as it was. -/
theorem step_getWG {s s' : Session} {input : Input} (moved : step X cfg s input = some s')
    (notAnswer : ∀ r, input ≠ .reply (.workGroup r)) (notJoined : ∀ r, input ≠ .reply (.joined r))
    (waits : s'.phase.inGetWG = true ∨ s.phase.inGetWG = true) : s'.phase = s.phase := by
  cases input with
  | tick now | cancel cause =>
      simp only [step] at moved
      split at moved <;> cases moved
      rfl
  | reply r =>
      simp only [step, Option.map_eq_some'] at moved
      obtain ⟨next, resumed, rfl⟩ := moved
      rcases waits with waits | waits
      · simp [resume_not_lookup X cfg resumed] at waits
      · obtain ⟨plan, h | h⟩ := Phase.inGetWG_cases waits <;> rw [h] at resumed <;>
          cases r <;> cases resumed
        · exact absurd rfl (notAnswer _)
        · exact absurd rfl (notJoined _)
  | selectCancel | selectTimer =>
      simp only [step] at moved
      repeat' split at moved
      all_goals cases moved
      all_goals simp_all [Phase.inGetWG]

/-- Only a wait on a fetch another invocation has in flight takes its result. -/
theorem step_joined {s s' : Session} {r : Except GoError AthenaWorkGroup}
    (moved : step X cfg s (.reply (.joined r)) = some s') :
    (∃ plan, s.phase = .joinWorkGroup plan) ∧ s'.phase.inGetWG = false := by
  simp only [step, Option.map_eq_some'] at moved
  obtain ⟨next, resumed, rfl⟩ := moved
  refine ⟨?_, resume_not_lookup X cfg resumed⟩
  cases h : s.phase <;> rw [h] at resumed <;> cases resumed
  exact ⟨_, rfl⟩

/-- Only a wait on a `GetWorkGroup` of its own takes its answer. -/
theorem step_workGroup {s s' : Session} {r : Except GoError AthenaWorkGroup}
    (moved : step X cfg s (.reply (.workGroup r)) = some s') :
    s.phase.isLookup = true ∧ s'.phase.inGetWG = false := by
  simp only [step, Option.map_eq_some'] at moved
  obtain ⟨next, resumed, rfl⟩ := moved
  exact ⟨resume_workGroup X cfg resumed, resume_not_lookup X cfg resumed⟩

theorem step_of_joinWorkGroup {s : Session} {plan : Plan} (joins : s.phase = .joinWorkGroup plan)
    (r : Except GoError AthenaWorkGroup) : (step X cfg s (.reply (.joined r))).isSome := by
  simp [step, joins, Phase.resume]

end Sessions

/-- An entry the memoizer serves is one it holds, not yet expired. -/
theorem WGCache.lookup_entry {cache : WGCache} {n : GoString} {t : Time} {wg : AthenaWorkGroup}
    (found : cache.lookup n t = some wg) :
    ∃ e ∈ cache.entries, e.1 = n ∧ e.2.workGroup = wg ∧ t.ns < e.2.expiresAt.ns := by
  unfold WGCache.lookup at found
  split at found
  · rename_i name entry first
    split at found
    · cases found
      exact ⟨(name, entry), List.mem_of_find?_eq_some first, by simpa using List.find?_some first,
        rfl, by assumption⟩
    · cases found
  · cases found

theorem WGCache.lookup_finish_ne (cache : WGCache) {n name : GoString} (other : name ≠ n) (t now : Time)
    (r : Except GoError AthenaWorkGroup) : (cache.finish name t r).lookup n now = cache.lookup n now := by
  cases r <;> simp [WGCache.lookup, WGCache.finish, other]

@[simp] theorem WGCache.register_entries (cache : WGCache) (name : GoString) (phase : Phase) :
    (cache.register name phase).entries = cache.entries := by
  cases phase <;> rfl

theorem WGCache.mem_register {cache : WGCache} {name n : GoString} {phase : Phase}
    (mem : n ∈ (cache.register name phase).inFlight) : n ∈ cache.inFlight ∨ (n = name ∧ phase.isLookup = true) := by
  cases phase <;> simp_all [WGCache.register, WGCache.startFetch, Phase.isLookup]
  exact mem.symm

@[simp] theorem WGCache.lookup_register (cache : WGCache) (name : GoString) (phase : Phase) (n : GoString)
    (now : Time) : (cache.register name phase).lookup n now = cache.lookup n now := by
  cases phase <;> rfl

theorem WGCache.inFlight_subset_register (cache : WGCache) (name : GoString) (phase : Phase) :
    cache.inFlight ⊆ (cache.register name phase).inFlight := by
  cases phase <;> simp [WGCache.register, WGCache.startFetch]

/-! ## The process -/

/-- An invocation of QueryContext: the configuration of its connection, the
query and arguments it was called with, and where it stands. -/
structure Invocation where
  cfg : Config
  query : GoString
  namedArgs : List NamedValue
  session : Session

/-- A process: its clock, the memoizer `getWGGroup` its connections share, and the
invocations of QueryContext started so far, oldest first. -/
structure Process where
  clock : Time
  memo : WGCache
  invocations : List Invocation

/-- What happens next in the process: time passes, an invocation starts, or the
environment moves invocation `i` with an input other than time. -/
inductive Move
  | tick (now : Time)
  | start (cfg : Config) (query : GoString) (namedArgs : List NamedValue)
  | act (i : Nat) (input : Input)

/-- The shared memoizer after an invocation on workgroup `name` takes `input` at
`now`: the answer to its `GetWorkGroup` ends its fetch. -/
def WGCache.afterInput (memo : WGCache) (name : GoString) (now : Time) : Input → WGCache
  | .reply r => memo.afterReply name now r
  | _ => memo

theorem WGCache.afterInput_of_not_answer (memo : WGCache) (name : GoString) (now : Time) {input : Input}
    (notAnswer : ∀ r, input ≠ .reply (.workGroup r)) : memo.afterInput name now input = memo := by
  rcases input with _ | _ | (r | _ | _ | _ | _ | _ | _) | _ | _
  all_goals first | exact absurd rfl (notAnswer r) | rfl

section Moves

variable (X : Helpers)

/-- Time passes for an invocation; one that has returned no longer reads it. -/
def Invocation.tick (now : Time) (inv : Invocation) : Invocation :=
  { inv with session := (step X inv.cfg inv.session (.tick now)).getD inv.session }

/-- The fetch of `name` answered `r`: an invocation on that name that joined it
takes the result; any other invocation is left as it was. -/
def Invocation.deliver (name : GoString) (r : Except GoError AthenaWorkGroup) (inv : Invocation) :
    Invocation :=
  if inv.cfg.workgroup.name = name then
    { inv with session := (step X inv.cfg inv.session (.reply (.joined r))).getD inv.session }
  else inv

/-- What the move of the invocation on workgroup `name` that took `input` does to
an invocation: the answer to a `GetWorkGroup` reaches those that joined its fetch,
and no other input reaches another invocation. -/
def Invocation.afterMove (name : GoString) : Input → Invocation → Invocation
  | .reply (.workGroup r) => Invocation.deliver X name r
  | _ => id

/-- Invocation `i` takes `input`, at the clock of the process. -/
def Process.act (P : Process) (i : Nat) (input : Input) : Option Process :=
  P.invocations[i]?.bind fun inv =>
    (step X inv.cfg inv.session input).map fun s =>
      { P with
        memo := P.memo.afterInput inv.cfg.workgroup.name inv.session.clock input
        invocations := (P.invocations.set i { inv with session := s }).map
          (Invocation.afterMove X inv.cfg.workgroup.name input) }

/-- One move of the process. An invocation that joined a fetch takes its result
only with the answer to that fetch, never on its own. -/
def Process.move (P : Process) : Move → Option Process
  | .tick now =>
      if P.clock.ns ≤ now.ns then
        some { P with clock := now, invocations := P.invocations.map (Invocation.tick X now) }
      else none
  | .start cfg query namedArgs =>
      let s := queryContext X cfg query namedArgs P.clock none P.memo
      some { P with memo := s.cache, invocations := P.invocations ++ [⟨cfg, query, namedArgs, s⟩] }
  | .act _ (.tick _) | .act _ (.reply (.joined _)) => none
  | .act i input => P.act X i input

/-- The process after a list of moves, if each can be taken. -/
def Process.run (P : Process) : List Move → Option Process
  | [] => some P
  | m :: moves => (P.move X m).bind fun P' => P'.run moves

/-- A process as it starts at `t`: an empty memoizer, and no invocation yet. -/
def Process.initial (t : Time) : Process := ⟨t, ∅, []⟩

/-- `P` is a state of the process some moves reach. -/
def Process.Reachable (P : Process) : Prop :=
  ∃ t moves, (Process.initial t).run X moves = some P

/-- Every move of the process, inverted. -/
theorem Process.move_cases {P P' : Process} {m : Move} (moved : P.move X m = some P') :
    (∃ now, m = .tick now ∧ P.clock.ns ≤ now.ns ∧
      P' = { P with clock := now, invocations := P.invocations.map (Invocation.tick X now) }) ∨
    (∃ cfg query namedArgs, m = .start cfg query namedArgs ∧
      P' = { P with
        memo := (queryContext X cfg query namedArgs P.clock none P.memo).cache
        invocations := P.invocations ++
          [⟨cfg, query, namedArgs, queryContext X cfg query namedArgs P.clock none P.memo⟩] }) ∨
    (∃ i input inv s, m = .act i input ∧ (∀ now, input ≠ .tick now) ∧
      (∀ r, input ≠ .reply (.joined r)) ∧ P.invocations[i]? = some inv ∧
      step X inv.cfg inv.session input = some s ∧
      P' = { P with
        memo := P.memo.afterInput inv.cfg.workgroup.name inv.session.clock input
        invocations := (P.invocations.set i { inv with session := s }).map
          (Invocation.afterMove X inv.cfg.workgroup.name input) }) := by
  cases m with
  | tick now =>
      simp only [Process.move] at moved
      split at moved
      · cases moved; exact .inl ⟨now, rfl, by assumption, rfl⟩
      · cases moved
  | start cfg query namedArgs => cases moved; exact .inr (.inl ⟨cfg, query, namedArgs, rfl, rfl⟩)
  | act i input =>
      have acted : P.act X i input = some P' ∧ (∀ now, input ≠ .tick now) ∧
          ∀ r, input ≠ .reply (.joined r) := by
        cases input with
        | reply r => cases r <;> first | cases moved | exact ⟨moved, fun _ => nofun, fun _ => nofun⟩
        | _ => first | cases moved | exact ⟨moved, fun _ => nofun, fun _ => nofun⟩
      obtain ⟨acted, notTick, notJoined⟩ := acted
      simp only [Process.act, Option.bind_eq_some, Option.map_eq_some'] at acted
      obtain ⟨inv, at_i, s, stepped, rfl⟩ := acted
      exact .inr (.inr ⟨i, input, inv, s, rfl, notTick, notJoined, at_i, stepped, rfl⟩)

theorem set_at {l : List Invocation} {i k : Nat} {a x : Invocation} (at_k : (l.set i a)[k]? = some x) :
    (i = k ∧ x = a) ∨ (i ≠ k ∧ l[k]? = some x) := by
  rw [List.getElem?_set] at at_k
  split at at_k
  · split at at_k <;> cases at_k
    exact .inl ⟨‹_›, rfl⟩
  · exact .inr ⟨‹_›, at_k⟩

theorem getElem?_concat_cases {l : List Invocation} {a x : Invocation} {k : Nat}
    (at_k : (l ++ [a])[k]? = some x) : l[k]? = some x ∨ (k = l.length ∧ x = a) := by
  by_cases old : k < l.length
  · rw [List.getElem?_append_left old] at at_k
    exact .inl at_k
  · rw [List.getElem?_append_right (by omega)] at at_k
    obtain ⟨lt, rfl⟩ := List.getElem?_eq_some_iff.1 at_k
    simp only [List.length_singleton] at lt
    exact .inr ⟨by omega, by simp⟩

/-- Each invocation after invocation `i` moved: `i` after its own step, every
other one at its place before, each then moved by `f`. -/
theorem act_at {l : List Invocation} {i k : Nat} {a inv' : Invocation} {f : Invocation → Invocation}
    (at_k : ((l.set i a).map f)[k]? = some inv') :
    (i = k ∧ inv' = f a) ∨ (i ≠ k ∧ ∃ old, l[k]? = some old ∧ inv' = f old) := by
  rw [List.getElem?_map] at at_k
  obtain ⟨y, at_y, rfl⟩ := Option.map_eq_some'.1 at_k
  rcases set_at at_y with ⟨same, rfl⟩ | ⟨other, at_y⟩
  · exact .inl ⟨same, rfl⟩
  · exact .inr ⟨other, y, at_y, rfl⟩

/-! ## Each invocation moves as it would alone -/

/-- `inv'` is `inv` after some moves of its own. -/
def Invocation.Advances (inv inv' : Invocation) : Prop :=
  ∃ inputs s, run X inv.cfg inv.session inputs = some s ∧ inv' = { inv with session := s }

theorem Invocation.Advances.refl (inv : Invocation) : inv.Advances X inv := ⟨[], inv.session, rfl, rfl⟩

theorem Invocation.Advances.trans {inv inv' inv'' : Invocation} (first : inv.Advances X inv')
    (second : inv'.Advances X inv'') : inv.Advances X inv'' := by
  obtain ⟨inputs, s, ran, rfl⟩ := first
  obtain ⟨more, s', ran', rfl⟩ := second
  exact ⟨inputs ++ more, s', by rw [run_append, ran]; exact ran', rfl⟩

theorem Invocation.Advances.of_step {inv : Invocation} {input : Input} {s : Session}
    (moved : step X inv.cfg inv.session input = some s) : inv.Advances X { inv with session := s } :=
  ⟨[input], s, by simp [run, moved], rfl⟩

theorem Invocation.Advances.run {inv inv' : Invocation} (advanced : inv.Advances X inv')
    (reached : QueryContextRun X inv.cfg inv.query inv.namedArgs inv.session) :
    QueryContextRun X inv'.cfg inv'.query inv'.namedArgs inv'.session := by
  obtain ⟨inputs, s, ran, rfl⟩ := advanced
  exact reached.of_run X inv.cfg ran

theorem Invocation.tick_advances (now : Time) (inv : Invocation) : inv.Advances X (inv.tick X now) := by
  unfold Invocation.tick
  cases moved : step X inv.cfg inv.session (.tick now) with
  | none => exact .refl X inv
  | some s => exact .of_step X moved

/-- Time reaches an invocation that has not returned; one that has stays as it was. -/
theorem Invocation.tick_session {now : Time} {inv : Invocation} (behind : inv.session.clock.ns ≤ now.ns) :
    (inv.tick X now).session =
      if inv.session.phase.isReturned then inv.session else { inv.session with clock := now } := by
  cases h : inv.session.phase.isReturned <;> simp [Invocation.tick, step, h, behind]

theorem Invocation.tick_phase {now : Time} {inv : Invocation} (behind : inv.session.clock.ns ≤ now.ns) :
    (inv.tick X now).session.phase = inv.session.phase := by
  rw [Invocation.tick_session X behind]; split <;> rfl

/-- The result of a fetch leaves an invocation as it was, or moves the one that
joined it by that result. -/
theorem Invocation.deliver_cases (name : GoString) (r : Except GoError AthenaWorkGroup) (inv : Invocation) :
    (inv.deliver X name r = inv ∧
      (inv.cfg.workgroup.name = name → step X inv.cfg inv.session (.reply (.joined r)) = none)) ∨
    ∃ s, step X inv.cfg inv.session (.reply (.joined r)) = some s ∧
      inv.deliver X name r = { inv with session := s } := by
  unfold Invocation.deliver
  split
  · cases moved : step X inv.cfg inv.session (.reply (.joined r)) with
    | none => exact .inl ⟨rfl, fun _ => rfl⟩
    | some s => exact .inr ⟨s, rfl, rfl⟩
  · exact .inl ⟨rfl, fun same => absurd same ‹_›⟩

theorem Invocation.deliver_of_ne {name : GoString} {inv : Invocation} (other : inv.cfg.workgroup.name ≠ name)
    (r : Except GoError AthenaWorkGroup) : inv.deliver X name r = inv := if_neg other

/-- After the result of the fetch of `name`, an invocation still in `getWG` is one
it left as it was, and on that name one waiting on its own `GetWorkGroup`. -/
theorem Invocation.deliver_waiting {name : GoString} {r : Except GoError AthenaWorkGroup} {inv : Invocation}
    (waits : (inv.deliver X name r).session.phase.inGetWG = true) :
    inv.deliver X name r = inv ∧ (inv.cfg.workgroup.name = name → inv.session.phase.isLookup = true) := by
  rcases Invocation.deliver_cases X name r inv with ⟨same, unmoved⟩ | ⟨s, moved, eq⟩
  · refine ⟨same, fun named => ?_⟩
    rw [same] at waits
    obtain ⟨plan, h | h⟩ := Phase.inGetWG_cases waits
    · rw [h]; rfl
    · simpa [unmoved named] using step_of_joinWorkGroup X inv.cfg h r
  · rw [eq] at waits
    simp [(step_joined X inv.cfg moved).2] at waits

theorem Invocation.afterMove_of_not_answer {name : GoString} {input : Input}
    (notAnswer : ∀ r, input ≠ .reply (.workGroup r)) (inv : Invocation) : inv.afterMove X name input = inv := by
  rcases input with _ | _ | (r | _ | _ | _ | _ | _ | _) | _ | _
  all_goals first | exact absurd rfl (notAnswer r) | rfl

theorem Invocation.afterMove_advances (name : GoString) (input : Input) (inv : Invocation) :
    inv.Advances X (inv.afterMove X name input) := by
  rcases input with _ | _ | (r | _ | _ | _ | _ | _ | _) | _ | _
  case workGroup =>
    show inv.Advances X (inv.deliver X name r)
    rcases Invocation.deliver_cases X name r inv with ⟨same, -⟩ | ⟨s, moved, eq⟩
    · rw [same]; exact .refl X inv
    · rw [eq]; exact .of_step X moved
  all_goals exact .refl X inv

/-- A move of the process moves each invocation it had only as QueryContext
moves alone, and keeps it at its place. -/
theorem Process.move_invocation {P P' : Process} {m : Move} (moved : P.move X m = some P')
    {k : Nat} {inv : Invocation} (at_k : P.invocations[k]? = some inv) :
    ∃ inv', P'.invocations[k]? = some inv' ∧ inv.Advances X inv' := by
  rcases Process.move_cases X moved with ⟨now, -, -, rfl⟩ | ⟨cfg, query, namedArgs, -, rfl⟩ |
    ⟨i, input, actor, s, -, -, -, at_i, stepped, rfl⟩
  · exact ⟨_, by simp [at_k], Invocation.tick_advances X now inv⟩
  · exact ⟨inv, by rw [List.getElem?_append_left ((List.getElem?_eq_some_iff.1 at_k).1), at_k],
      .refl X inv⟩
  · have after := Invocation.afterMove_advances X actor.cfg.workgroup.name input
    by_cases same : i = k
    · subst same
      rw [at_i] at at_k
      cases at_k
      exact ⟨_, by rw [List.getElem?_map, List.getElem?_set_self ((List.getElem?_eq_some_iff.1 at_i).1)]; rfl,
        (Invocation.Advances.of_step X stepped).trans X (after _)⟩
    · exact ⟨_, by simp [List.getElem?_set_ne same, at_k], after inv⟩

theorem Process.run_invocation :
    ∀ {P P' : Process} {moves : List Move}, P.run X moves = some P' →
      ∀ {k : Nat} {inv : Invocation}, P.invocations[k]? = some inv →
        ∃ inv', P'.invocations[k]? = some inv' ∧ inv.Advances X inv'
  | P, P', [], ran, _, inv, at_k => by cases ran; exact ⟨inv, at_k, .refl X inv⟩
  | P, P', m :: moves, ran, _, inv, at_k => by
      simp only [Process.run, Option.bind_eq_some] at ran
      obtain ⟨mid, moved, ran⟩ := ran
      obtain ⟨inv₁, at_k₁, first⟩ := Process.move_invocation X moved at_k
      obtain ⟨inv₂, at_k₂, second⟩ := Process.run_invocation ran at_k₁
      exact ⟨inv₂, at_k₂, first.trans X second⟩

/-! ## Clocks -/

/-- Invocation `inv` is not ahead of the clock `t`, and at it while running. -/
def Invocation.Behind (t : Time) (inv : Invocation) : Prop :=
  inv.session.clock.ns ≤ t.ns ∧ (inv.session.phase.isReturned = false → inv.session.clock = t)

theorem Invocation.behind_of_clock {t : Time} {inv : Invocation} (at_t : inv.session.clock = t) :
    inv.Behind t :=
  ⟨at_t ▸ Int.le_refl _, fun _ => at_t⟩

/-- A move other than time finds an invocation at the clock, and leaves it there. -/
theorem Invocation.Behind.step {t : Time} {inv : Invocation} {input : Input} {s : Session}
    (behind : inv.Behind t) (moved : step X inv.cfg inv.session input = some s)
    (notTick : ∀ now, input ≠ .tick now) : inv.session.clock = t ∧ s.clock = t :=
  have at_t := behind.2 (step_live X inv.cfg moved)
  ⟨at_t, (step_clock X inv.cfg notTick moved).trans at_t⟩

theorem Invocation.Behind.afterMove {t : Time} {inv : Invocation} (behind : inv.Behind t)
    (name : GoString) (input : Input) : (inv.afterMove X name input).Behind t := by
  rcases input with _ | _ | (r | _ | _ | _ | _ | _ | _) | _ | _
  case workGroup =>
    show (inv.deliver X name r).Behind t
    rcases Invocation.deliver_cases X name r inv with ⟨same, -⟩ | ⟨s, moved, eq⟩
    · rwa [same]
    · rw [eq]; exact Invocation.behind_of_clock (behind.step X moved (fun _ => nofun)).2
  all_goals exact behind

/-! ## Single flight -/

/-- The fetches in flight, as the invocations see them: each is the
`GetWorkGroup` of an invocation on its name, every invocation waiting in `getWG`
waits on one, and no two invocations wait on a `GetWorkGroup` of their own for
the same name. -/
structure Process.Flights (P : Process) : Prop where
  flights : ∀ n ∈ P.memo.inFlight, ∃ inv ∈ P.invocations,
    inv.cfg.workgroup.name = n ∧ inv.session.phase.isLookup = true
  waiting : ∀ inv ∈ P.invocations, inv.session.phase.inGetWG = true →
    inv.cfg.workgroup.name ∈ P.memo.inFlight
  single : ∀ (i j : Nat) (inv inv' : Invocation), P.invocations[i]? = some inv → P.invocations[j]? = some inv' →
    inv.session.phase.isLookup = true → inv'.session.phase.isLookup = true →
    inv.cfg.workgroup.name = inv'.cfg.workgroup.name → i = j

theorem Process.flights_tick {P : Process} {now : Time} (flying : P.Flights)
    (behind : ∀ inv ∈ P.invocations, inv.Behind P.clock) (later : P.clock.ns ≤ now.ns) :
    ({ P with clock := now, invocations := P.invocations.map (Invocation.tick X now) } : Process).Flights := by
  have kept : ∀ inv ∈ P.invocations, (inv.tick X now).session.phase = inv.session.phase :=
    fun inv mem => Invocation.tick_phase X (Int.le_trans (behind inv mem).1 later)
  refine ⟨fun n mem => ?_, fun _ ticked => ?_, fun i j _ _ at_i at_j => ?_⟩
  · obtain ⟨inv, mem, named, leads⟩ := flying.flights n mem
    exact ⟨_, List.mem_map_of_mem _ mem, named, by rw [kept inv mem]; exact leads⟩
  · obtain ⟨inv, mem, rfl⟩ := List.mem_map.1 ticked
    rw [kept inv mem]
    exact flying.waiting inv mem
  · simp only [List.getElem?_map, Option.map_eq_some'] at at_i at_j
    obtain ⟨inv, at_i, rfl⟩ := at_i
    obtain ⟨inv', at_j, rfl⟩ := at_j
    rw [kept inv (List.getElem?_mem at_i), kept inv' (List.getElem?_mem at_j)]
    exact flying.single i j inv inv' at_i at_j

theorem Process.flights_start {P : Process} {cfg : Config} {query : GoString}
    {namedArgs : List NamedValue} (flying : P.Flights) :
    ({ P with
      memo := (queryContext X cfg query namedArgs P.clock none P.memo).cache
      invocations := P.invocations ++
        [⟨cfg, query, namedArgs, queryContext X cfg query namedArgs P.clock none P.memo⟩] } : Process).Flights := by
  obtain ⟨fresh, joins⟩ := queryContext_waits X cfg query namedArgs P.clock none P.memo
  have grows := (queryContext_cache X cfg query namedArgs P.clock none P.memo).symm ▸
    WGCache.inFlight_subset_register P.memo cfg.workgroup.name _
  refine ⟨fun n mem => ?_, fun inv mem waits => ?_, fun i j inv inv' at_i at_j leads leads' named => ?_⟩
  · rw [queryContext_cache] at mem
    rcases WGCache.mem_register mem with old | ⟨rfl, leads⟩
    · obtain ⟨inv, mem, named, leads⟩ := flying.flights n old
      exact ⟨inv, List.mem_append_left _ mem, named, leads⟩
    · exact ⟨_, List.mem_append_right _ (List.mem_singleton_self _), rfl, leads⟩
  · rcases List.mem_append.1 mem with mem | new
    · exact grows (flying.waiting inv mem waits)
    · obtain rfl := List.mem_singleton.1 new
      exact joins waits
  · have clash : ∀ (k : Nat) (old : Invocation), P.invocations[k]? = some old → old.session.phase.isLookup = true →
        old.cfg.workgroup.name = cfg.workgroup.name →
        (queryContext X cfg query namedArgs P.clock none P.memo).phase.isLookup = false :=
      fun k old at_k leads named => Bool.eq_false_iff.2 fun fetches => fresh fetches
        (named ▸ flying.waiting old (List.getElem?_mem at_k) (Phase.inGetWG_of_isLookup leads))
    rcases getElem?_concat_cases at_i with at_i | ⟨rfl, rfl⟩ <;>
      rcases getElem?_concat_cases at_j with at_j | ⟨rfl, rfl⟩
    · exact flying.single i j inv inv' at_i at_j leads leads' named
    · simp [clash i inv at_i leads named] at leads'
    · simp [clash j inv' at_j leads' named.symm] at leads
    · rfl

/-- Any move but the answer to a `GetWorkGroup` keeps the fetches in flight: the
memoizer is left alone, and the invocation that moved waits in `getWG` after it
exactly when it did before. -/
theorem Process.flights_other {P : Process} {i : Nat} {input : Input} {inv : Invocation} {s : Session}
    (flying : P.Flights) (notAnswer : ∀ r, input ≠ .reply (.workGroup r))
    (notJoined : ∀ r, input ≠ .reply (.joined r)) (at_i : P.invocations[i]? = some inv)
    (stepped : step X inv.cfg inv.session input = some s) :
    ({ P with invocations := P.invocations.set i { inv with session := s } } : Process).Flights := by
  have kept := step_getWG X inv.cfg stepped notAnswer notJoined
  have still : ∀ (k : Nat) (x : Invocation), (P.invocations.set i { inv with session := s })[k]? = some x →
      x.session.phase.inGetWG = true → ∃ old, P.invocations[k]? = some old ∧ old.cfg = x.cfg ∧
        old.session.phase = x.session.phase := by
    intro k x at_k waits
    rcases set_at at_k with ⟨rfl, rfl⟩ | ⟨-, at_k⟩
    · exact ⟨inv, at_i, rfl, (kept (.inl waits)).symm⟩
    · exact ⟨x, at_k, rfl, rfl⟩
  refine ⟨fun n mem => ?_, fun x mem waits => ?_, fun k k' x x' at_k at_k' leads leads' named => ?_⟩
  · obtain ⟨old, mem, named, leads⟩ := flying.flights n mem
    obtain ⟨k, at_k⟩ := List.mem_iff_getElem?.1 mem
    by_cases moved : i = k
    · subst moved
      rw [at_i] at at_k
      cases at_k
      refine ⟨_, List.getElem?_mem (List.getElem?_set_self (List.getElem?_eq_some_iff.1 at_i).1), named, ?_⟩
      rw [kept (.inr (Phase.inGetWG_of_isLookup leads))]
      exact leads
    · exact ⟨old, List.getElem?_mem (by rw [List.getElem?_set_ne moved, at_k]), named, leads⟩
  · obtain ⟨k, at_k⟩ := List.mem_iff_getElem?.1 mem
    obtain ⟨old, at_k, sameCfg, samePhase⟩ := still k x at_k waits
    rw [← sameCfg]
    exact flying.waiting old (List.getElem?_mem at_k) (samePhase ▸ waits)
  · obtain ⟨old, at_k, sameCfg, samePhase⟩ := still k x at_k (Phase.inGetWG_of_isLookup leads)
    obtain ⟨old', at_k', sameCfg', samePhase'⟩ := still k' x' at_k' (Phase.inGetWG_of_isLookup leads')
    exact flying.single k k' old old' at_k at_k' (samePhase ▸ leads) (samePhase' ▸ leads')
      (by rw [sameCfg, sameCfg', named])

/-- The answer to a `GetWorkGroup` ends its fetch: the invocation that made the
call and every invocation that joined it leave `getWG`, and every other fetch in
flight keeps its caller waiting on it. -/
theorem Process.flights_answer {P : Process} {i : Nat} {inv : Invocation}
    {r : Except GoError AthenaWorkGroup} {s : Session} (flying : P.Flights)
    (at_i : P.invocations[i]? = some inv)
    (stepped : step X inv.cfg inv.session (.reply (.workGroup r)) = some s) :
    ({ P with
      memo := P.memo.finish inv.cfg.workgroup.name inv.session.clock r
      invocations := (P.invocations.set i { inv with session := s }).map
        (Invocation.deliver X inv.cfg.workgroup.name r) } : Process).Flights := by
  obtain ⟨leads, ended⟩ := step_workGroup X inv.cfg stepped
  -- every invocation still in `getWG` was there before, at its place, on another name
  have still : ∀ (k : Nat) (x : Invocation), ((P.invocations.set i { inv with session := s }).map
      (Invocation.deliver X inv.cfg.workgroup.name r))[k]? = some x → x.session.phase.inGetWG = true →
        P.invocations[k]? = some x ∧ x.cfg.workgroup.name ≠ inv.cfg.workgroup.name := by
    intro k x at_k waits
    rcases act_at at_k with ⟨rfl, rfl⟩ | ⟨other, old, at_old, rfl⟩
    · obtain ⟨same, -⟩ := Invocation.deliver_waiting X waits
      rw [same] at waits
      simp [ended] at waits
    · obtain ⟨same, named⟩ := Invocation.deliver_waiting X waits
      rw [same]
      exact ⟨at_old, fun clash => other (flying.single i k inv old at_i at_old leads (named clash) clash.symm)⟩
  refine ⟨fun n mem => ?_, fun x mem waits => ?_, fun k k' x x' at_k at_k' leads leads' named => ?_⟩
  · obtain ⟨inFlight, other⟩ := List.mem_filter.1 mem
    obtain ⟨old, present, rfl, leads⟩ := flying.flights _ inFlight
    obtain ⟨k, at_k⟩ := List.mem_iff_getElem?.1 present
    have moved : i ≠ k := by
      rintro rfl
      rw [at_i] at at_k
      cases at_k
      simp at other
    have kept : ((P.invocations.set i { inv with session := s }).map
        (Invocation.deliver X inv.cfg.workgroup.name r))[k]? = some old := by
      rw [List.getElem?_map, List.getElem?_set_ne moved, at_k, Option.map_some',
        Invocation.deliver_of_ne X (by simpa using other)]
    exact ⟨old, List.getElem?_mem kept, rfl, leads⟩
  · obtain ⟨k, at_k⟩ := List.mem_iff_getElem?.1 mem
    obtain ⟨at_k, other⟩ := still k x at_k waits
    exact List.mem_filter.2 ⟨flying.waiting x (List.getElem?_mem at_k) waits, by simpa using other⟩
  · exact flying.single k k' x x' (still k x at_k (Phase.inGetWG_of_isLookup leads)).1
      (still k' x' at_k' (Phase.inGetWG_of_isLookup leads')).1 leads leads' named

theorem Process.flights_act {P : Process} {i : Nat} {input : Input} {inv : Invocation} {s : Session}
    (flying : P.Flights) (notJoined : ∀ r, input ≠ .reply (.joined r))
    (at_i : P.invocations[i]? = some inv) (stepped : step X inv.cfg inv.session input = some s) :
    ({ P with
      memo := P.memo.afterInput inv.cfg.workgroup.name inv.session.clock input
      invocations := (P.invocations.set i { inv with session := s }).map
        (Invocation.afterMove X inv.cfg.workgroup.name input) } : Process).Flights := by
  by_cases answer : ∃ r, input = .reply (.workGroup r)
  · obtain ⟨r, rfl⟩ := answer
    exact Process.flights_answer X flying at_i stepped
  · push_neg at answer
    rw [WGCache.afterInput_of_not_answer _ _ _ answer,
      List.map_id'' (Invocation.afterMove_of_not_answer X answer)]
    exact Process.flights_other X flying answer notJoined at_i stepped

/-! ## What every reachable state satisfies -/

/-- The invariant of the process. -/
structure Process.Sound (P : Process) : Prop where
  /-- Every invocation is in a state QueryContext reaches alone. -/
  runs : ∀ inv ∈ P.invocations, QueryContextRun X inv.cfg inv.query inv.namedArgs inv.session
  clocks : ∀ inv ∈ P.invocations, inv.Behind P.clock
  /-- Every entry of the memoizer expires within 10 minutes. -/
  expiries : ∀ e ∈ P.memo.entries, e.2.expiresAt.ns ≤ P.clock.ns + 600000000000
  flights : P.Flights

theorem Process.sound_initial (t : Time) : (Process.initial t).Sound X where
  runs := by simp [Process.initial]
  clocks := by simp [Process.initial]
  expiries := by simp [Process.initial]
  flights := ⟨by simp [Process.initial], by simp [Process.initial],
    fun _ _ _ _ at_i => by simp [Process.initial] at at_i⟩

theorem Process.sound_move {P P' : Process} {m : Move} (sound : P.Sound X)
    (moved : P.move X m = some P') : P'.Sound X := by
  rcases Process.move_cases X moved with ⟨now, -, later, rfl⟩ | ⟨cfg, query, namedArgs, -, rfl⟩ |
    ⟨i, input, inv, s, -, notTick, notJoined, at_i, stepped, rfl⟩
  · refine ⟨fun _ ticked => ?_, fun _ ticked => ?_, fun e mem => ?_,
      Process.flights_tick X sound.flights sound.clocks later⟩
    · obtain ⟨inv, mem, rfl⟩ := List.mem_map.1 ticked
      exact (Invocation.tick_advances X now inv).run X (sound.runs inv mem)
    · obtain ⟨inv, mem, rfl⟩ := List.mem_map.1 ticked
      have behind := sound.clocks inv mem
      rw [Invocation.Behind, Invocation.tick_session X (Int.le_trans behind.1 later)]
      split
      · exact ⟨Int.le_trans behind.1 later, by simp_all⟩
      · exact ⟨Int.le_refl _, fun _ => rfl⟩
    · have := sound.expiries e mem
      dsimp only
      omega
  · refine ⟨fun inv mem => ?_, fun inv mem => ?_, fun e mem => ?_, Process.flights_start X sound.flights⟩
    · rcases List.mem_append.1 mem with mem | new
      · exact sound.runs inv mem
      · obtain rfl := List.mem_singleton.1 new
        exact ⟨P.clock, none, P.memo, [], rfl⟩
    · rcases List.mem_append.1 mem with mem | new
      · exact sound.clocks inv mem
      · obtain rfl := List.mem_singleton.1 new
        exact Invocation.behind_of_clock (queryContext_clock X cfg query namedArgs _ _ _)
    · rw [queryContext_cache, WGCache.register_entries] at mem
      exact sound.expiries e mem
  · have behind := sound.clocks inv (List.getElem?_mem at_i)
    have atClock := behind.step X stepped notTick
    refine ⟨fun x mem => ?_, fun x mem => ?_, fun e mem => ?_,
      Process.flights_act X sound.flights notJoined at_i stepped⟩
    · obtain ⟨k, at_k⟩ := List.mem_iff_getElem?.1 mem
      rcases act_at at_k with ⟨-, rfl⟩ | ⟨-, old, at_old, rfl⟩
      · exact (Invocation.afterMove_advances X _ input _).run X
          ((Invocation.Advances.of_step X stepped).run X (sound.runs inv (List.getElem?_mem at_i)))
      · exact (Invocation.afterMove_advances X _ input old).run X (sound.runs old (List.getElem?_mem at_old))
    · obtain ⟨k, at_k⟩ := List.mem_iff_getElem?.1 mem
      rcases act_at at_k with ⟨-, rfl⟩ | ⟨-, old, at_old, rfl⟩
      · exact (Invocation.behind_of_clock atClock.2).afterMove X _ input
      · exact (sound.clocks old (List.getElem?_mem at_old)).afterMove X _ input
    · by_cases answer : ∃ r, input = .reply (.workGroup r)
      · obtain ⟨r, rfl⟩ := answer
        cases r with
        | error e' => exact sound.expiries e mem
        | ok wg =>
            rcases List.mem_cons.1 mem with rfl | mem
            · simp [Time.add, atClock.1]
            · exact sound.expiries e mem
      · push_neg at answer
        rw [WGCache.afterInput_of_not_answer _ _ _ answer] at mem
        exact sound.expiries e mem

theorem Process.run_sound :
    ∀ {P P' : Process} {moves : List Move}, P.Sound X → P.run X moves = some P' → P'.Sound X
  | P, P', [], sound, ran => by cases ran; exact sound
  | P, P', m :: moves, sound, ran => by
      simp only [Process.run, Option.bind_eq_some] at ran
      obtain ⟨mid, moved, ran⟩ := ran
      exact Process.run_sound (Process.sound_move X sound moved) ran

theorem Process.Reachable.sound {P : Process} (reached : P.Reachable X) : P.Sound X := by
  obtain ⟨t, moves, ran⟩ := reached
  exact Process.run_sound X (Process.sound_initial X t) ran

/-! ## The shared memoizer -/

/-- The memoizer never drops a live entry: a name it serves at `t`, it still
serves at `t` after any move, since a later fetch stores an entry that expires
no earlier. -/
theorem Process.move_serves {P P' : Process} {m : Move} (sound : P.Sound X)
    (moved : P.move X m = some P') {n : GoString} {t : Time} (serves : (P.memo.lookup n t).isSome) :
    (P'.memo.lookup n t).isSome := by
  rcases Process.move_cases X moved with ⟨now, -, -, rfl⟩ | ⟨cfg, query, namedArgs, -, rfl⟩ |
    ⟨i, input, inv, s, -, notTick, -, at_i, stepped, rfl⟩
  · exact serves
  · rwa [queryContext_cache, WGCache.lookup_register]
  · by_cases answer : ∃ r, input = .reply (.workGroup r)
    · obtain ⟨r, rfl⟩ := answer
      show ((P.memo.finish inv.cfg.workgroup.name inv.session.clock r).lookup n t).isSome
      by_cases same : inv.cfg.workgroup.name = n
      · cases r with
        | error e => exact serves
        | ok wg =>
            obtain ⟨wg', found⟩ := Option.isSome_iff_exists.1 serves
            obtain ⟨e, mem, -, -, live⟩ := WGCache.lookup_entry found
            have fresh := sound.expiries e mem
            have atClock := ((sound.clocks inv (List.getElem?_mem at_i)).step X stepped notTick).1
            rw [same, WGCache.lookup_finish, if_pos (by rw [atClock]; omega)]
            rfl
      · rwa [WGCache.lookup_finish_ne _ same]
    · push_neg at answer
      dsimp only
      rwa [WGCache.afterInput_of_not_answer _ _ _ answer]

theorem Process.run_serves :
    ∀ {P P' : Process} {moves : List Move}, P.Sound X → P.run X moves = some P' →
      ∀ {n : GoString} {t : Time}, (P.memo.lookup n t).isSome → (P'.memo.lookup n t).isSome
  | P, P', [], _, ran, _, _, serves => by cases ran; exact serves
  | P, P', m :: moves, sound, ran, _, _, serves => by
      simp only [Process.run, Option.bind_eq_some] at ran
      obtain ⟨mid, moved, ran⟩ := ran
      exact Process.run_serves (Process.sound_move X sound moved) ran
        (Process.move_serves X sound moved serves)

/-- A workgroup an invocation fetched stays live in the shared memoizer, for
every connection configured with its name, for 10 minutes whatever moves follow. -/
theorem Process.fetched_entry_live {P P₁ : Process} {i : Nat} {inv : Invocation} {wg : AthenaWorkGroup}
    {moves : List Move} {cfg : Config} (sound : P.Sound X) (acting : P.invocations[i]? = some inv)
    (fetch : P.run X (.act i (.reply (.workGroup (.ok wg))) :: moves) = some P₁)
    (same : cfg.workgroup.name = inv.cfg.workgroup.name)
    (soon : P₁.clock.ns < P.clock.ns + 600000000000) :
    (P₁.memo.lookup cfg.workgroup.name P₁.clock).isSome := by
  simp only [Process.run, Option.bind_eq_some] at fetch
  obtain ⟨P₀, stored, fetch⟩ := fetch
  refine Process.run_serves X (Process.sound_move X sound stored) fetch ?_
  rcases Process.move_cases X stored with ⟨_, ⟨⟩, -⟩ | ⟨_, _, _, ⟨⟩, -⟩ |
    ⟨_, _, inv', s, ⟨⟩, -, -, at_i, stepped, rfl⟩
  rw [acting] at at_i
  cases at_i
  have atClock := ((sound.clocks inv (List.getElem?_mem acting)).step X stepped (fun _ => nofun)).1
  simp [WGCache.afterInput, WGCache.afterReply, same, atClock, soon]

/-! ## Results -/

/-- Two invocations of `SELECT 1` under the analytics workgroup, started at time
zero: the first puts the fetch of the workgroup in flight, the second joins it. -/
def joinedLookup : List Move := [.start analyticsConfig pingQuery [], .start analyticsConfig pingQuery []]

/-- Where those moves leave the process: one `GetWorkGroup` in flight, and both
invocations waiting on it. -/
def joinedLookupEnd : Process :=
  ⟨⟨0⟩, ⟨[], [ascii "analytics"]⟩,
    [⟨analyticsConfig, pingQuery, [],
        ⟨.getWorkGroup ⟨[], pingQuery, pingQuery, []⟩, ⟨0⟩, none, ⟨[], [ascii "analytics"]⟩, []⟩⟩,
      ⟨analyticsConfig, pingQuery, [],
        ⟨.joinWorkGroup ⟨[], pingQuery, pingQuery, []⟩, ⟨0⟩, none, ⟨[], [ascii "analytics"]⟩, []⟩⟩]⟩

/-- The memoizer after the analytics workgroup was fetched at time zero. -/
def analyticsMemo : WGCache := ⟨[(ascii "analytics", ⟨⟨.enabled⟩, ⟨600000000000⟩⟩)], []⟩

/-- `getWGGroup` is single-flight: in every reachable state of the process, for
each workgroup name at most one invocation waits on a `GetWorkGroup` of its own,
and every invocation waiting in `getWG` (on its own call, or on the fetch it
joined) has such a call in flight for its name, so that the answer to that call
reaches it. -/
theorem one_fetch_in_flight_per_name {P : Process} (reached : P.Reachable X) :
    (∀ (i j : Nat) (inv inv' : Invocation), P.invocations[i]? = some inv → P.invocations[j]? = some inv' →
      inv.session.phase.isLookup = true → inv'.session.phase.isLookup = true →
      inv.cfg.workgroup.name = inv'.cfg.workgroup.name → i = j) ∧
    ∀ inv ∈ P.invocations, inv.session.phase.inGetWG = true →
      ∃ caller ∈ P.invocations, caller.cfg.workgroup.name = inv.cfg.workgroup.name ∧
        caller.session.phase.isLookup = true :=
  have flying := (Process.Reachable.sound X reached).flights
  ⟨flying.single, fun inv mem waits => flying.flights _ (flying.waiting inv mem waits)⟩

/-- While both invocations of `joinedLookup` wait on the analytics workgroup, the
one that joined the fetch has the other's `GetWorkGroup` in flight to wait on. -/
theorem one_fetch_in_flight_while_one_joins :
    ∃ caller ∈ joinedLookupEnd.invocations, caller.cfg.workgroup.name = ascii "analytics" ∧
      caller.session.phase.isLookup = true :=
  (@one_fetch_in_flight_per_name reference joinedLookupEnd ⟨⟨0⟩, joinedLookup, rfl⟩).2 _
    (List.mem_cons_of_mem _ (List.mem_singleton_self _)) rfl

/-- `SELECT 1` under the analytics workgroup, started at time zero on
`analyticsMemo`: the memoizer answered the lookup. -/
def analyticsServed : Session :=
  ⟨.startQueryExecution [] { selectOneInput with workGroup := ascii "analytics" } ⟨0⟩, ⟨0⟩, none,
    analyticsMemo, [.cacheHit (ascii "analytics") ⟨.enabled⟩, .startOfStartQueryExecution ⟨0⟩]⟩

/-- Two invocations of `SELECT 1` under the analytics workgroup: the first
fetches it, and the second starts on the memoizer the first left. -/
def sharedLookup : List Move :=
  [.start analyticsConfig pingQuery [], .act 0 (.reply (.workGroup (.ok ⟨.enabled⟩))),
    .start analyticsConfig pingQuery []]

/-- Where those moves leave the process. -/
def sharedLookupEnd : Process :=
  ⟨⟨0⟩, analyticsMemo, [⟨analyticsConfig, pingQuery, [], analyticsLookedUp⟩,
    ⟨analyticsConfig, pingQuery, [], analyticsServed⟩]⟩

/-- The memoizer is shared: once an invocation's `GetWorkGroup` returned its
workgroup, an invocation that starts less than 10 minutes later on a connection
with the same workgroup makes no `GetWorkGroup` call, whatever the invocations
did in between (other lookups, failures, cancellations) and whatever it meets
after. -/
theorem later_invocations_skip_lookup {P P₁ P₂ : Process} {i : Nat} {inv : Invocation}
    {wg : AthenaWorkGroup} {moves moves' : List Move} {cfg : Config} {query : GoString}
    {namedArgs : List NamedValue} {late : Invocation}
    (reached : P.Reachable X) (acting : P.invocations[i]? = some inv)
    (fetch : P.run X (.act i (.reply (.workGroup (.ok wg))) :: moves) = some P₁)
    (same : cfg.workgroup.name = inv.cfg.workgroup.name)
    (soon : P₁.clock.ns < P.clock.ns + 600000000000)
    (later : P₁.run X (.start cfg query namedArgs :: moves') = some P₂)
    (started : P₂.invocations[P₁.invocations.length]? = some late) :
    ∀ n reply, Event.call (.getWorkGroup n) reply ∉ late.session.log := by
  simp only [Process.run, Option.bind_eq_some] at later
  obtain ⟨P₃, begun, later⟩ := later
  obtain ⟨wg', found⟩ := Option.isSome_iff_exists.1
    (Process.fetched_entry_live X (Process.Reachable.sound X reached) acting fetch same soon)
  cases begun
  obtain ⟨late', at_late, inputs, s, ran, rfl⟩ := Process.run_invocation X later
    (List.getElem?_concat_length _ _)
  rw [started] at at_late
  cases at_late
  cases h : prologue X cfg query namedArgs with
  | returned result =>
      rw [(queryContextRun_of_returned X cfg h ⟨_, _, _, inputs, ran⟩).2]
      simp
  | proceed plan => exact no_lookup_past_gate X cfg h (gate_not_lookup X cfg plan found) ran

/-- The second invocation of `sharedLookup`, started right after the first
fetched the workgroup, makes no `GetWorkGroup` call. -/
theorem later_invocations_skip_lookup_after_shared_lookup :
    sharedLookupEnd.invocations[1]? = some ⟨analyticsConfig, pingQuery, [], analyticsServed⟩ ∧
      ∀ n reply, Event.call (.getWorkGroup n) reply ∉ analyticsServed.log :=
  ⟨rfl, @later_invocations_skip_lookup reference
    ⟨⟨0⟩, ⟨[], [ascii "analytics"]⟩,
      [⟨analyticsConfig, pingQuery, [], queryContext reference analyticsConfig pingQuery [] ⟨0⟩ none ∅⟩]⟩
    ⟨⟨0⟩, analyticsMemo, [⟨analyticsConfig, pingQuery, [], analyticsLookedUp⟩]⟩ sharedLookupEnd 0
    ⟨analyticsConfig, pingQuery, [], queryContext reference analyticsConfig pingQuery [] ⟨0⟩ none ∅⟩
    ⟨.enabled⟩ [] [] analyticsConfig pingQuery [] ⟨analyticsConfig, pingQuery, [], analyticsServed⟩
    ⟨⟨0⟩, [.start analyticsConfig pingQuery []], rfl⟩ rfl rfl rfl (by decide) rfl rfl⟩

end Moves

end AthenaDriver
