/-
# AthenaDriver.PseudoCommands — the `pc:` prefix, and a pseudo-command in front of a query that is not an id

QueryContext strips a `pc:` prefix and keeps the pseudo-command aside (lines
304-318). The grammar that handling parses is written here from its
description (`CommandForm`, `VersionForm`): `pc:`, spaces, a command, at least
one space, a remainder with no space at either end, spaces. The handling parses
exactly that grammar; `get_query_id` never takes a `get_query_id_status`
request, because the byte after `get_query_id` there is `_`, not a space.

Past its checks QueryContext reads the pseudo-command only for a query `IsQID`
accepts (lines 374-405), and after the submission only to answer
`pc:get_query_id` (lines 425-439). Any other pseudo-command, in front of a
remainder that is not an id, is carried along and never read: the invocation
runs exactly as on the remainder alone. `Phase.withPseudoCommand` puts the
pseudo-command back where a phase carries it, and commutes with every step of
an invocation that follows the protocol for a plan with no pseudo-command.

Main results:
* `stripPseudoCommand_parses_grammar` — a query with no `pc:` passes unchanged;
  a command with a remainder is parsed exactly on its `CommandForm`, and no
  query has two; `get_driver_version` is answered, with nothing logged, exactly
  on its `VersionForm` with no command form; every other `pc:` query returns
  the unknown-command error with nothing logged.
* `step_withPseudoCommand` — the two invocations move in lockstep.
* `pseudoCommand_non_QID_runs_as_remainder` — for every configuration,
  arguments, memoizer, context and inputs, the run on a query whose
  pseudo-command is not `get_query_id` and whose remainder is not an id is the
  run on the remainder, with the pseudo-command put back.
* `stopQueryID_runs_non_QID_as_sql` — `pc:stop_query_id SELECT 1` submits
  `SELECT 1`, polls it, and returns its rows, exactly as `SELECT 1` does.
-/
import AthenaDriver.Checks

namespace AthenaDriver

set_option autoImplicit false

section Grammar

/-! The grammar of the prefix handling, from its description. -/

/-- `n` spaces. -/
def spaces (n : Nat) : GoString := List.replicate n space

/-- The pseudo-commands that take a remainder, in the order QueryContext tries them. -/
def remainderCommands : List GoString := [pcGetQID, pcGetQIDStatus, pcStopQID]

/-- `query` is `command` with the remainder `rest`:
`"pc:" ++ ' '^a ++ command ++ ' '^b ++ rest ++ ' '^d` with `b ≥ 1`, and `rest`
not empty, with no space at either end. -/
def CommandForm (query command rest : GoString) : Prop :=
  rest ≠ [] ∧ rest.head? ≠ some space ∧ rest.getLast? ≠ some space ∧
    ∃ a b d, 1 ≤ b ∧ query = ascii "pc:" ++ spaces a ++ command ++ spaces b ++ rest ++ spaces d

/-- After `"pc:"` and any spaces, `query` starts with `get_driver_version`. -/
def VersionForm (query : GoString) : Prop :=
  ∃ a rest, query = ascii "pc:" ++ spaces a ++ pcGetDriverVersion ++ rest

theorem drop_pc {query : GoString} (starts : ascii "pc:" <+: query) : query = ascii "pc:" ++ query.drop 3 := by
  obtain ⟨t, rfl⟩ := starts
  rw [show 3 = (ascii "pc:").length from rfl, List.drop_left]

/-- A remainder found in a query with no trailing space follows the command
after at least one space, and has no space at either end. -/
theorem commandRemainder_eq_some {query command rest : GoString} (last : query.getLast? ≠ some space)
    (found : commandRemainder query command = some rest) :
    rest ≠ [] ∧ rest.head? ≠ some space ∧ rest.getLast? ≠ some space ∧
      ∃ b d, 1 ≤ b ∧ query = command ++ spaces b ++ rest ++ spaces d := by
  unfold commandRemainder at found
  split at found
  case isFalse => contradiction
  case isTrue starts =>
  cases found
  obtain ⟨t, rfl⟩ := hasPrefix_iff.1 starts
  rw [List.append_assoc] at last
  rw [List.append_assoc, List.drop_left]
  obtain ⟨b, d, split⟩ := trim_split (c := space) ([space] ++ t)
  obtain ⟨head, last'⟩ := trim_edges (c := space) ([space] ++ t)
  have nonempty : trim ([space] ++ t) space ≠ [] := by
    intro empty
    rw [empty, List.append_nil, ← List.replicate_add] at split
    have length := congrArg List.length split
    simp only [List.getLast?_append, split, List.getLast?_replicate, List.length_replicate] at last length
    simp_all
  have whole := congrArg (command ++ ·) split
  refine ⟨nonempty, head, last', b, d, ?_, by simpa only [spaces, List.append_assoc] using whole⟩
  rcases Nat.eq_zero_or_pos b with rfl | pos
  · obtain ⟨x, r, kept⟩ := List.exists_cons_of_ne_nil nonempty
    rw [List.replicate_zero, List.nil_append, kept] at split
    rw [kept] at head
    simp only [List.singleton_append, List.cons_append, List.cons.injEq] at split
    exact absurd (congrArg some split.1.symm) head
  · exact pos

theorem commandRemainder_spaces (command : GoString) {rest : GoString} {b : Nat} (hb : 1 ≤ b)
    (head : rest.head? ≠ some space) (last : rest.getLast? ≠ some space) :
    commandRemainder (command ++ spaces b ++ rest) command = some rest := by
  obtain ⟨b, rfl⟩ := Nat.exists_eq_add_of_le' hb
  have starts : command ++ spaces (b + 1) ++ rest = command ++ [space] ++ (spaces b ++ rest) := by
    simp [spaces, List.replicate_succ]
  rw [commandRemainder, starts, hasPrefix_append, if_pos rfl, List.append_assoc, List.drop_left]
  simpa [spaces, List.replicate_succ] using trim_replicate_append (c := space) (b + 1) 0 head last

/-- A query that starts with a command is not read as another command that
differs from it within their common length. -/
theorem commandRemainder_eq_none_of_starts {command query : GoString} (other : GoString) (starts : command <+: query)
    (short : ¬other ++ [space] <+: command) (long : ¬command <+: other ++ [space]) :
    commandRemainder query other = none := by
  obtain ⟨t, rfl⟩ := starts
  simp [commandRemainder, hasPrefix_append_eq_false short long]

/-- Which branch of the prefix handling gave a command with a remainder. -/
theorem stripPseudoCommand_eq_query {query command rest : GoString} (mem : command ∈ remainderCommands)
    (stripped : stripPseudoCommand query = .query command rest) :
    ascii "pc:" <+: query ∧ commandRemainder (trim (query.drop 3) space) command = some rest := by
  unfold stripPseudoCommand at stripped
  split at stripped
  case isFalse =>
    cases stripped
    simp [remainderCommands, pcGetQID, pcGetQIDStatus, pcStopQID, ascii] at mem
  case isTrue starts =>
  refine ⟨hasPrefix_iff.1 starts, ?_⟩
  dsimp only at stripped
  split at stripped
  case h_1 found => cases stripped; exact found
  split at stripped
  case h_1 found => cases stripped; exact found
  split at stripped
  case h_1 found => cases stripped; exact found
  split at stripped <;> cases stripped

theorem commandForm_of_commandRemainder {query command rest : GoString} (starts : ascii "pc:" <+: query)
    (found : commandRemainder (trim (query.drop 3) space) command = some rest) :
    CommandForm query command rest := by
  obtain ⟨a, d, split⟩ := trim_split (c := space) (query.drop 3)
  obtain ⟨nonempty, head, last, b, d', hb, form⟩ := commandRemainder_eq_some (trim_edges _).2 found
  refine ⟨nonempty, head, last, a, b, d' + d, hb, ?_⟩
  rw [drop_pc starts, split, form]
  simp only [spaces, List.replicate_add, List.append_assoc]

theorem versionForm_of_hasPrefix {query : GoString} (starts : ascii "pc:" <+: query)
    (version : hasPrefix (trim (query.drop 3) space) pcGetDriverVersion = true) : VersionForm query := by
  obtain ⟨a, t, split⟩ := exists_of_prefix_trim (hasPrefix_iff.1 version)
  exact ⟨a, t, by rw [drop_pc starts, split]; simp [spaces]⟩

theorem trim_drop_commandForm (a b d : Nat) {command rest : GoString} (nonempty : command ≠ [])
    (head : command.head? ≠ some space) (last : rest ≠ [] ∧ rest.getLast? ≠ some space) :
    trim ((ascii "pc:" ++ spaces a ++ command ++ spaces b ++ rest ++ spaces d).drop 3) space =
      command ++ spaces b ++ rest := by
  rw [show ascii "pc:" ++ spaces a ++ command ++ spaces b ++ rest ++ spaces d =
    ascii "pc:" ++ (spaces a ++ (command ++ spaces b ++ rest) ++ spaces d) by simp only [List.append_assoc],
    show 3 = (ascii "pc:").length from rfl, List.drop_left]
  refine trim_replicate_append a d ?_ ?_
  · obtain ⟨x, command, rfl⟩ := List.exists_cons_of_ne_nil nonempty
    simpa using head
  · cases ends : rest.getLast? with
    | none => exact absurd (List.getLast?_eq_none_iff.1 ends) last.1
    | some y => simpa [List.getLast?_append, ends] using last.2

theorem stripPseudoCommand_of_commandForm {query command rest : GoString} (mem : command ∈ remainderCommands)
    (form : CommandForm query command rest) : stripPseudoCommand query = .query command rest := by
  obtain ⟨nonempty, head, last, a, b, d, hb, rfl⟩ := form
  have remainder := commandRemainder_spaces command hb head last
  have starts : command <+: command ++ spaces b ++ rest := (List.prefix_append _ _).trans (List.prefix_append _ _)
  have pc : hasPrefix (ascii "pc:" ++ spaces a ++ command ++ spaces b ++ rest ++ spaces d) (ascii "pc:") := by
    simp only [hasPrefix_iff, List.append_assoc]
    exact List.prefix_append _ _
  simp only [remainderCommands, List.mem_cons, List.mem_singleton, List.not_mem_nil, or_false] at mem
  rcases mem with rfl | rfl | rfl <;>
    rw [stripPseudoCommand, if_pos pc, trim_drop_commandForm a b d (by decide) (by decide) ⟨nonempty, last⟩]
  · simp only [remainder]
  · simp only [commandRemainder_eq_none_of_starts pcGetQID starts (by decide) (by decide),
      remainder]
  · simp only [commandRemainder_eq_none_of_starts pcGetQID starts (by decide) (by decide),
      commandRemainder_eq_none_of_starts pcGetQIDStatus starts (by decide) (by decide), remainder]

theorem stripPseudoCommand_eq_driverVersion_iff (query : GoString) :
    stripPseudoCommand query = .driverVersion ↔
      VersionForm query ∧ ∀ command ∈ remainderCommands, ∀ rest, ¬CommandForm query command rest := by
  constructor
  · intro version
    refine ⟨?_, fun command mem rest form => by
      rw [stripPseudoCommand_of_commandForm mem form] at version; cases version⟩
    unfold stripPseudoCommand at version
    split at version
    case isFalse => cases version
    case isTrue starts =>
    dsimp only at version
    split at version; cases version
    split at version; cases version
    split at version; cases version
    split at version
    case isTrue prefixed => exact versionForm_of_hasPrefix (hasPrefix_iff.1 starts) prefixed
    case isFalse => cases version
  · rintro ⟨⟨a, t, rfl⟩, -⟩
    have starts : pcGetDriverVersion <+:
        trim ((ascii "pc:" ++ spaces a ++ pcGetDriverVersion ++ t).drop 3) space := by
      rw [show ascii "pc:" ++ spaces a ++ pcGetDriverVersion ++ t =
        ascii "pc:" ++ (spaces a ++ pcGetDriverVersion ++ t) by simp only [List.append_assoc],
        show 3 = (ascii "pc:").length from rfl, List.drop_left]
      exact prefix_trim_replicate_append a (by decide) (by decide) (by decide)
    rw [stripPseudoCommand, if_pos (by simp only [hasPrefix_iff, List.append_assoc]; exact List.prefix_append _ _)]
    simp only [commandRemainder_eq_none_of_starts pcGetQID starts (by decide) (by decide),
      commandRemainder_eq_none_of_starts pcGetQIDStatus starts (by decide) (by decide),
      commandRemainder_eq_none_of_starts pcStopQID starts (by decide) (by decide),
      hasPrefix_iff.2 starts, if_true]

theorem stripPseudoCommand_unknown {query : GoString} (starts : ascii "pc:" <+: query)
    (noVersion : ¬VersionForm query)
    (noCommand : ∀ command ∈ remainderCommands, ∀ rest, ¬CommandForm query command rest) :
    stripPseudoCommand query = .unknown (trim (query.drop 3) space) := by
  have none (command : GoString) (mem : command ∈ remainderCommands) :
      commandRemainder (trim (query.drop 3) space) command = none := by
    cases found : commandRemainder (trim (query.drop 3) space) command with
    | none => rfl
    | some rest => exact absurd (commandForm_of_commandRemainder starts found) (noCommand command mem rest)
  have notVersion : hasPrefix (trim (query.drop 3) space) pcGetDriverVersion = false := by
    cases prefixed : hasPrefix (trim (query.drop 3) space) pcGetDriverVersion with
    | false => rfl
    | true => exact absurd (versionForm_of_hasPrefix starts prefixed) noVersion
  rw [stripPseudoCommand, if_pos (hasPrefix_iff.2 starts)]
  simp only [none pcGetQID (by simp [remainderCommands]), none pcGetQIDStatus (by simp [remainderCommands]),
    none pcStopQID (by simp [remainderCommands]), notVersion, Bool.false_eq_true, if_false]

end Grammar

section Answered

/-! QueryContext returns rows before its first step only for
`pc:get_driver_version`: every other early return is an error, and the
workgroup gate leads to a remote call, `NewRows`, or an error. -/

variable (X : Helpers) (cfg : Config)

theorem afterGate_ne_rows (plan : Plan) (now : Time) (rows : Rows) :
    (afterGate X cfg plan now).2 ≠ .returned (.ok rows) := by
  unfold afterGate answerOrSubmit cachedQuery
  split_ifs <;> try split
  all_goals simp

theorem gate_ne_rows (plan : Plan) (now : Time) (cache : WGCache) (rows : Rows) :
    (gate X cfg plan now cache).2 ≠ .returned (.ok rows) := by
  unfold gate
  split
  · exact afterGate_ne_rows X cfg plan now rows
  · split
    · simp only [afterLookup]
      split_ifs
      · simp [fail]
      · exact afterGate_ne_rows X cfg plan now rows
    · split <;> simp

theorem stripPseudoCommand_of_prologue_rows {query : GoString} {namedArgs : List NamedValue} {rows : Rows}
    (answered : prologue X cfg query namedArgs = .returned (.ok rows)) :
    stripPseudoCommand query = .driverVersion := by
  unfold prologue at answered
  split at answered
  · assumption
  · simp [fail] at answered
  · split_ifs at answered
    · simp [fail] at answered
    all_goals
      dsimp only at answered
      split at answered
      · simp at answered
      · split_ifs at answered
        simp [fail] at answered

theorem stripPseudoCommand_of_queryContext_rows {query : GoString} {namedArgs : List NamedValue} {now : Time}
    {done : Option Cancellation} {cache : WGCache} {rows : Rows}
    (answered : (queryContext X cfg query namedArgs now done cache).phase = .returned (.ok rows)) :
    stripPseudoCommand query = .driverVersion := by
  unfold queryContext at answered
  split at answered
  case h_1 returned => exact stripPseudoCommand_of_prologue_rows X cfg (by cases answered; exact returned)
  case h_2 => exact absurd answered (gate_ne_rows X cfg _ now cache rows)

end Answered

section Parsing

variable (X : Helpers) (cfg : Config)

/-- QueryContext's pseudo-command prefix handling parses exactly its grammar, and
no query has two parses: a query with no `pc:` passes unchanged, with no
pseudo-command; a command with a remainder is parsed on exactly its
`CommandForm`; `get_driver_version` is answered, with nothing logged, exactly on
a `VersionForm` with no command form; any other `pc:` query returns the
unknown-command error with nothing logged. -/
theorem stripPseudoCommand_parses_grammar (query : GoString) :
    (¬ascii "pc:" <+: query → stripPseudoCommand query = .query [] query) ∧
    (∀ command ∈ remainderCommands, ∀ rest,
      stripPseudoCommand query = .query command rest ↔ CommandForm query command rest) ∧
    (∀ command ∈ remainderCommands, ∀ command' ∈ remainderCommands, ∀ rest rest',
      CommandForm query command rest → CommandForm query command' rest' → command = command' ∧ rest = rest') ∧
    (∀ namedArgs, (∀ s, QueryContextRun X cfg query namedArgs s →
        s.phase = .returned (pure (.headerless X.driverVersion)) ∧ s.log = []) ↔
      VersionForm query ∧ ∀ command ∈ remainderCommands, ∀ rest, ¬CommandForm query command rest) ∧
    (ascii "pc:" <+: query → ¬VersionForm query →
      (∀ command ∈ remainderCommands, ∀ rest, ¬CommandForm query command rest) →
      ∀ namedArgs s, QueryContextRun X cfg query namedArgs s →
        s.phase = .returned (fail (.new (X.sprintf (ascii "pseudo command " ++ trim (query.drop 3) space ++
          ascii "doesn't exist")))) ∧ s.log = []) := by
  refine ⟨fun noPrefix => ?_, fun command mem rest => ⟨fun stripped => ?_, stripPseudoCommand_of_commandForm mem⟩,
    fun command mem command' mem' rest rest' form form' => ?_,
    fun namedArgs => ⟨fun answered => ?_, fun version s reached => ?_⟩,
    fun starts noVersion noCommand namedArgs s reached => ?_⟩
  · rw [stripPseudoCommand, if_neg (by rwa [hasPrefix_iff])]
  · obtain ⟨starts, found⟩ := stripPseudoCommand_eq_query mem stripped
    exact commandForm_of_commandRemainder starts found
  · exact Stripped.query.inj ((stripPseudoCommand_of_commandForm mem form).symm.trans
      (stripPseudoCommand_of_commandForm mem' form'))
  · have first := (answered _ ⟨⟨0⟩, none, ∅, [], rfl⟩).1
    exact (stripPseudoCommand_eq_driverVersion_iff query).1 (stripPseudoCommand_of_queryContext_rows X cfg first)
  · have version := (stripPseudoCommand_eq_driverVersion_iff query).2 version
    exact queryContextRun_of_returned X cfg
      (by simp [prologue, version, getHeaderlessSingleRowResultPage]) reached
  · exact queryContextRun_of_returned X cfg
      (by simp [prologue, stripPseudoCommand_unknown starts noVersion noCommand]) reached

/-- `pc:get_driver_version` is answered with the reference driver version, with
nothing logged, whatever the replies. -/
theorem stripPseudoCommand_parses_grammar_on_driver_version :
    ∀ s, QueryContextRun reference referenceConfig (ascii "pc:get_driver_version") [] s →
      s.phase = .returned (pure (.headerless (ascii "1.0.0"))) ∧ s.log = [] :=
  have parses := stripPseudoCommand_parses_grammar reference referenceConfig (ascii "pc:get_driver_version")
  (parses.2.2.2.1 []).2 ⟨⟨0, [], rfl⟩, fun command mem rest form => by
    have stripped := (parses.2.1 command mem rest).2 form
    rw [show stripPseudoCommand (ascii "pc:get_driver_version") = .driverVersion by decide] at stripped
    cases stripped⟩

example : stripPseudoCommand (ascii "pc: get_query_id_status  q1 ") = .query pcGetQIDStatus (ascii "q1") := by
  decide

end Parsing

section Carried

variable (pc : GoString)

/-- `pc` in the places where a phase carries the pseudo-command. -/
def Phase.withPseudoCommand : Phase → Phase
  | .getWorkGroup plan => .getWorkGroup { plan with pseudoCommand := pc }
  | .joinWorkGroup plan => .joinWorkGroup { plan with pseudoCommand := pc }
  | .createWorkGroup plan => .createWorkGroup { plan with pseudoCommand := pc }
  | .startQueryExecution _ input start => .startQueryExecution pc input start
  | phase => phase

/-- `pc` in the places where a session carries the pseudo-command. -/
def Session.withPseudoCommand (s : Session) : Session :=
  { s with phase := s.phase.withPseudoCommand pc }

/-- `pc` in the plan the checks pass on. -/
def Prologue.withPseudoCommand : Prologue → Prologue
  | .returned result => .returned result
  | .proceed plan => .proceed { plan with pseudoCommand := pc }

@[simp] theorem Phase.isReturned_withPseudoCommand (phase : Phase) :
    (phase.withPseudoCommand pc).isReturned = phase.isReturned := by
  cases phase <;> rfl

@[simp] theorem WGCache.register_withPseudoCommand (cache : WGCache) (name : GoString) (phase : Phase) :
    cache.register name (phase.withPseudoCommand pc) = cache.register name phase := by
  cases phase <;> rfl

end Carried

section Lockstep

variable (X : Helpers) (cfg : Config) (pc : GoString)

/-- Where an invocation with no pseudo-command, on a query that is not an id,
waits: the plans it carries are its own, and it submits with no pseudo-command. -/
def Phase.Plain : Phase → Prop
  | .getWorkGroup plan | .joinWorkGroup plan | .createWorkGroup plan =>
      plan.pseudoCommand = [] ∧ X.isQID plan.query = false
  | .startQueryExecution pseudoCommand _ _ => pseudoCommand = []
  | _ => True

/-- The protocol keeps an invocation on a plan with no pseudo-command, that is
not an id, where `Phase.Plain` says. -/
theorem Tracks.plain {plan : Plan} {phase : Phase} {stage : Stage}
    (tracks : Tracks X cfg plan phase stage) (none : plan.pseudoCommand = [])
    (notQID : X.isQID plan.query = false) : phase.Plain X := by
  cases phase <;> simp only [Tracks] at tracks <;> simp only [Phase.Plain]
  case getWorkGroup | joinWorkGroup | createWorkGroup => exact tracks.1 ▸ ⟨none, notQID⟩
  case startQueryExecution => exact tracks.2.1.trans none

theorem afterGate_withPseudoCommand {plan : Plan} (notQID : X.isQID plan.query = false) (now : Time) :
    afterGate X cfg { plan with pseudoCommand := pc } now =
      ((afterGate X cfg plan now).1, (afterGate X cfg plan now).2.withPseudoCommand pc) := by
  simp only [afterGate, answerOrSubmit, notQID, Bool.false_eq_true, ↓reduceIte]
  split <;> rfl

theorem afterLookup_withPseudoCommand {plan : Plan} (notQID : X.isQID plan.query = false) (now : Time)
    (r : Except GoError AthenaWorkGroup) :
    afterLookup X cfg { plan with pseudoCommand := pc } now r =
      ((afterLookup X cfg plan now r).1, (afterLookup X cfg plan now r).2.withPseudoCommand pc) := by
  cases r with
  | error e => simp only [afterLookup]; split <;> rfl
  | ok wg =>
      simp only [afterLookup]
      split
      · rfl
      · exact afterGate_withPseudoCommand X cfg pc notQID now

theorem gate_withPseudoCommand {plan : Plan} (notQID : X.isQID plan.query = false) (now : Time)
    (cache : WGCache) :
    gate X cfg { plan with pseudoCommand := pc } now cache =
      ((gate X cfg plan now cache).1, (gate X cfg plan now cache).2.withPseudoCommand pc) := by
  unfold gate
  split
  · exact afterGate_withPseudoCommand X cfg pc notQID now
  · split
    · rw [afterLookup_withPseudoCommand X cfg pc notQID]
    · split <;> rfl

/-- Only `pc:get_query_id` changes what a submission's reply leads to. -/
theorem afterStart_of_ne_getQID {pseudoCommand : GoString} (notGetQID : pseudoCommand ≠ pcGetQID)
    (start : Time) (reply : Except GoError GoString) :
    afterStart pseudoCommand start reply = afterStart [] start reply := by
  have plain : ([] : GoString) ≠ pcGetQID := by decide
  cases reply <;> simp [afterStart, notGetQID, plain]

theorem resume_withPseudoCommand (notGetQID : pc ≠ pcGetQID) {phase : Phase} (plain : phase.Plain X)
    (now : Time) (r : Reply) :
    (phase.withPseudoCommand pc).resume X cfg now r =
      (phase.resume X cfg now r).map fun next => (next.1, next.2.withPseudoCommand pc) := by
  cases phase <;> cases r <;> (try rfl) <;> simp only [Phase.withPseudoCommand, Phase.resume,
    Option.map_some', Option.map_none']
  case getWorkGroup.workGroup plan reply | joinWorkGroup.joined plan reply =>
    rw [afterLookup_withPseudoCommand X cfg pc plain.2]; rfl
  case createWorkGroup.created plan reply =>
    cases reply
    · rfl
    · rw [afterGate_withPseudoCommand X cfg pc plain.2]; rfl
  case startQueryExecution.started pseudoCommand input start reply =>
    simp only [Phase.Plain] at plain
    subst plain
    rw [afterStart_of_ne_getQID notGetQID]
    cases reply with
    | error e => rfl
    | ok queryID => simp only [logged, afterStart]; split <;> rfl
  case poll.status q start reply =>
    cases reply with
    | error e => rfl
    | ok resp =>
        rcases pollStatus_cases cfg q start now resp with ⟨st, -, eq⟩ | ⟨-, eq⟩ |
          ⟨reason, -, eq⟩ | ⟨-, eq⟩ | ⟨-, eq⟩ <;> simp only [logged, eq]
  case stop.stopped q ctxErr reply =>
    cases reply
    · rfl
    · simp only [logged]; split <;> rfl

/-- One step of the invocation with the pseudo-command is the step of the one
without it. -/
theorem step_withPseudoCommand (notGetQID : pc ≠ pcGetQID) {s : Session} (plain : s.phase.Plain X)
    (input : Input) :
    step X cfg (s.withPseudoCommand pc) input = (step X cfg s input).map (Session.withPseudoCommand pc) := by
  cases input with
  | tick now | cancel cause =>
      simp only [step, Session.withPseudoCommand, Phase.isReturned_withPseudoCommand]
      split <;> rfl
  | reply r =>
      simp only [step, Session.withPseudoCommand]
      rw [resume_withPseudoCommand X cfg pc notGetQID plain]
      cases s.phase.resume X cfg s.clock r <;> rfl
  | selectCancel =>
      cases h : s.phase <;> simp only [step, Session.withPseudoCommand, h, Phase.withPseudoCommand] <;>
        try rfl
      cases s.done
      · rfl
      · dsimp only
        split <;> rfl
  | selectTimer =>
      cases h : s.phase <;> simp only [step, Session.withPseudoCommand, h, Phase.withPseudoCommand] <;>
        try rfl
      split
      · simp only [Option.map_some']; congr 2; split <;> rfl
      · rfl

/-- A run of the invocation with the pseudo-command is the run of the one
without it, for as long as the latter keeps where it waits plain. -/
theorem run_withPseudoCommand (notGetQID : pc ≠ pcGetQID) (P : Session → Prop)
    (plain : ∀ s, P s → s.phase.Plain X)
    (preserved : ∀ s input s', P s → step X cfg s input = some s' → P s') :
    ∀ (inputs : List Input) (s : Session), P s →
      run X cfg (s.withPseudoCommand pc) inputs = (run X cfg s inputs).map (Session.withPseudoCommand pc)
  | [], _, _ => rfl
  | input :: inputs, s, holds => by
      simp only [run, step_withPseudoCommand X cfg pc notGetQID (plain s holds)]
      cases moved : step X cfg s input with
      | none => rfl
      | some s' =>
          exact run_withPseudoCommand notGetQID P plain preserved inputs s' (preserved s input s' holds moved)

theorem prologue_withPseudoCommand {query rest : GoString}
    (stripped : stripPseudoCommand query = .query pc rest) (noPrefix : hasPrefix rest (ascii "pc:") = false)
    (namedArgs : List NamedValue) :
    prologue X cfg query namedArgs = (prologue X cfg rest namedArgs).withPseudoCommand pc := by
  have plain : stripPseudoCommand rest = .query [] rest := by simp [stripPseudoCommand, noPrefix]
  simp only [prologue, stripped, plain]
  split
  · rfl
  · split
    · rfl
    · split <;> rfl

end Lockstep

section Remainder

variable (X : Helpers) (cfg : Config)

/-- A pseudo-command other than `get_query_id`, in front of a remainder that is
not an id and does not itself start with `pc:`, is never read: for every configuration, arguments, time, context,
memoizer and inputs, the invocation on the query runs as the invocation on the
remainder, with the same log, memoizer and result, only carrying the
pseudo-command. -/
theorem pseudoCommand_non_QID_runs_as_remainder {query rest pc : GoString}
    {namedArgs : List NamedValue} (stripped : stripPseudoCommand query = .query pc rest)
    (noPrefix : hasPrefix rest (ascii "pc:") = false) (notGetQID : pc ≠ pcGetQID)
    (notQID : ∀ plan, prologue X cfg rest namedArgs = .proceed plan → X.isQID plan.query = false)
    (now : Time) (done : Option Cancellation) (cache : WGCache) (inputs : List Input) :
    run X cfg (queryContext X cfg query namedArgs now done cache) inputs =
      (run X cfg (queryContext X cfg rest namedArgs now done cache) inputs).map
        (Session.withPseudoCommand pc) := by
  have carried := prologue_withPseudoCommand X cfg pc stripped noPrefix namedArgs
  cases h : prologue X cfg rest namedArgs with
  | returned result =>
      rw [h] at carried
      rw [queryContext_of_returned X cfg carried, queryContext_of_returned X cfg h]
      exact run_withPseudoCommand X cfg pc notGetQID (·.phase = .returned result)
        (fun s returned => by rw [returned]; trivial)
        (fun s _ _ returned moved => by simp [step_returned X cfg returned] at moved) inputs
        ⟨.returned result, now, done, cache, []⟩ rfl
  | proceed plan =>
      rw [h] at carried
      have none : plan.pseudoCommand = [] := by
        have := (prologue_eq_proceed X cfg h).1
        rw [stripPseudoCommand, if_neg (by simp [noPrefix])] at this
        exact (Stripped.query.inj this).1.symm
      rw [queryContext_of_proceed X cfg carried, queryContext_of_proceed X cfg h,
        gate_withPseudoCommand X cfg pc (notQID plan h)]
      dsimp only
      rw [WGCache.register_withPseudoCommand]
      exact run_withPseudoCommand X cfg pc notGetQID (Follows X cfg plan)
        (fun s ⟨_, _, tracks⟩ => tracks.plain X cfg none (notQID plan h))
        (fun _ _ _ holds moved => follows_step X cfg plan holds moved) inputs
        ⟨(gate X cfg plan now cache).2, now, done,
          cache.register cfg.workgroup.name (gate X cfg plan now cache).2, (gate X cfg plan now cache).1⟩
        (gate_tracks X cfg plan now cache)

/-- `pc:stop_query_id SELECT 1` runs as `SELECT 1` on the replies of a
Succeeded poll. -/
theorem pseudoCommand_non_QID_runs_as_remainder_stop_select_one :
    run reference referenceConfig
        (queryContext reference referenceConfig (ascii "pc:stop_query_id SELECT 1") [] ⟨0⟩ none ∅)
        selectOneSucceeds =
      (run reference referenceConfig (queryContext reference referenceConfig pingQuery [] ⟨0⟩ none ∅)
        selectOneSucceeds).map (Session.withPseudoCommand pcStopQID) :=
  @pseudoCommand_non_QID_runs_as_remainder reference referenceConfig
    (ascii "pc:stop_query_id SELECT 1") pingQuery pcStopQID [] rfl rfl (by decide)
    (fun plan proceeds => by
      rw [show prologue reference referenceConfig pingQuery [] = .proceed ⟨[], pingQuery, pingQuery, []⟩
        from rfl] at proceeds
      cases proceeds
      rfl)
    ⟨0⟩ none ∅ selectOneSucceeds

/-- `pc:stop_query_id SELECT 1` runs `SELECT 1`: submitted as `q1`, Succeeded on
the first poll, its rows handed to `NewRows` and returned. -/
theorem stopQueryID_runs_non_QID_as_sql :
    run reference referenceConfig
        (queryContext reference referenceConfig (ascii "pc:stop_query_id SELECT 1") [] ⟨0⟩ none ∅)
        selectOneSucceeds = some selectOneSucceeded := rfl

end Remainder

end AthenaDriver
