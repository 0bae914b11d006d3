import ScriptCoverage.Proofs.Command.Preparation
import ScriptCoverage.Proofs.Config.Refusal

/-!
# Invocations that never come to their command

Arguments that cannot be read and settings that cannot be loaded end an invocation before its command begins.
`Program.main_obstructed` says how: nothing but the log of the session changes, and what happens does not depend on
the parser. Only settings that are refused end it with the exit code 3 (`Program.obstructed_iff`); arguments that
cannot be read end it with 2, and what loading does not deal with ends it without an exit code.
-/

namespace ScriptCoverage

open ScriptCoverage.Action ScriptCoverage.Loading

/-- Why an invocation does not come to its command. -/
inductive Obstacle where
  | arguments (program message : String)
  | settings (cause : Failure)

namespace Obstacle

/-- How an invocation ends at an obstacle. -/
def outcome : Obstacle → Except Failure ExitStatus
  | arguments _ _ => .ok .misuse
  | settings (.config _) => .ok .invalidUsage
  | settings cause => .error cause

/-- What is logged at an obstacle: the refusal of settings. -/
def log : Obstacle → List LogEntry
  | settings (.config cause) => [⟨.error, cause.message⟩]
  | _ => []

theorem code_eq_three (obstacle : Obstacle) :
    (∃ status, obstacle.outcome = .ok status ∧ status.code = 3) ↔ ∃ cause, obstacle = .settings (.config cause) := by
  constructor
  · rintro ⟨status, houtcome, hcode⟩
    unfold outcome at houtcome
    split at houtcome
    · cases houtcome; cases hcode
    · rename_i cause
      exact ⟨cause, rfl⟩
    · cases houtcome
  · rintro ⟨cause, rfl⟩
    exact ⟨.invalidUsage, rfl, rfl⟩

end Obstacle

namespace Program

/-- The settings of a command, as they are loaded from what surrounds the program. -/
def loading (options : CommandOptions) (s : Surroundings) : Loading Config :=
  Config.load s s.directory options.config.value? (.mapping options.overrides.toMapping)

/-- What stands between an invocation and its command: arguments that cannot be read, or, for a command that is to be
carried out, settings that cannot be loaded. -/
def obstacle? (words : List String) (s : Surroundings) : Option Obstacle :=
  match Invocation.ofArguments words with
  | .error (.misuse program message) => some (.arguments program message)
  | .error (.help _) => none
  | .ok ⟨flags, command⟩ =>
    if flags.version then none
    else match command with
      | none => none
      | some (_, options) => match (loading options s).outcome with
        | .error cause => some (.settings cause)
        | .ok _ => none

theorem exec_settings (options : CommandOptions) (s : Session) : (settings options).exec s =
    ((loading options s.toSurroundings).outcome,
      { s with log := s.log ++ (loading options s.toSurroundings).run.log }) := by
  rfl

/-- An invocation whose settings cannot be loaded ends there. -/
theorem exec_invoke_settings {flags : ProgramFlags} {command : Command} {options : CommandOptions} {cause : Failure}
    {s t : Session} (hversion : flags.version = false) (h : (settings options).exec s = (.error cause, t)) :
    (invoke ⟨flags, some (command, options)⟩).exec s =
      ((Obstacle.settings cause).outcome, { t with log := t.log ++ (Obstacle.settings cause).log }) := by
  have hattempt : (Action.attempt (settings options)).exec s = (.ok (.error cause), t) := by rw [exec_attempt, h]
  unfold invoke
  simp only [hversion, Bool.false_eq_true, if_false]
  rw [exec_bind_ok hattempt]
  cases cause with
  | config cause => rfl
  | _ => simp only [Obstacle.outcome, Obstacle.log, exec_throw, List.append_nil]

variable {words : List String} {s : Surroundings} {obstacle : Obstacle}

/-- What an obstacle comes from. -/
theorem obstacle_cases (h : obstacle? words s = some obstacle) :
    (∃ program message, Invocation.ofArguments words = .error (.misuse program message) ∧
      obstacle = .arguments program message) ∨
    ∃ flags command options cause, Invocation.ofArguments words = .ok ⟨flags, some (command, options)⟩ ∧
      flags.version = false ∧ (loading options s).outcome = .error cause ∧ obstacle = .settings cause := by
  unfold obstacle? at h
  split at h
  case h_1 program message hwords =>
    cases h
    exact Or.inl ⟨program, message, hwords, rfl⟩
  case h_2 => cases h
  case h_3 flags command hwords =>
    split at h
    · cases h
    · rename_i hversion
      split at h
      · cases h
      · rename_i command options
        split at h
        · rename_i cause hcause
          cases h
          exact Or.inr ⟨flags, command, options, cause, hwords, by simpa using hversion, hcause, rfl⟩
        · cases h

/-- **Obstacles.** At an obstacle an invocation ends as the obstacle says, whatever parser, engine, network and packages
there are. All that it has done is to add to the log. -/
theorem main_obstructed (h : obstacle? words s = some obstacle) :
    ∃ ending log, ending.outcome = obstacle.outcome ∧ ∀ session : Session, session.toSurroundings = s →
      (main words).run session = (ending, { session with log := session.log ++ log }) := by
  rcases obstacle_cases h with ⟨program, message, hwords, rfl⟩ |
      ⟨flags, command, options, cause, hwords, hversion, hcause, rfl⟩
  · refine ⟨{ outcome := .ok .misuse, misuse := some s!"{program}: error: {message}" }, [], rfl, ?_⟩
    intro session _
    rw [main, hwords, List.append_nil]
    rfl
  · refine ⟨{ outcome := (Obstacle.settings cause).outcome, level := flags.level },
      (loading options s).run.log ++ (Obstacle.settings cause).log, rfl, ?_⟩
    rintro session rfl
    have hsettings := exec_settings options session
    rw [hcause] at hsettings
    rw [run_main hwords, exec_invoke_settings hversion hsettings, List.append_assoc]

/-- The settings of an obstacle failed to load. -/
theorem loadFailure_of_obstacle {cause : Failure} (h : obstacle? words s = some (.settings cause)) :
    Config.LoadFailure cause := by
  rcases obstacle_cases h with ⟨program, message, -, hobstacle⟩ | ⟨-, -, options, cause', -, -, hcause, hobstacle⟩
  · cases hobstacle
  · cases hobstacle
    exact Config.load_error hcause

/-- **Usage and settings.** An invocation with arguments that cannot be read, or with settings that cannot be loaded,
does nothing but log, whatever the session. It ends with the exit code 3 exactly if the settings are refused. If the
arguments cannot be read, it ends with the exit code 2, and if loading stops at something that it does not deal with,
the failure escapes. -/
theorem obstructed_iff (h : obstacle? words s = some obstacle) :
    ∃ ending log, (∀ session : Session, session.toSurroundings = s →
        (main words).run session = (ending, { session with log := session.log ++ log })) ∧
      ((∃ status, ending.outcome = .ok status ∧ status.code = 3) ↔ ∃ cause, obstacle = .settings (.config cause)) ∧
      ((∃ program message, obstacle = .arguments program message) →
        ∃ status, ending.outcome = .ok status ∧ status.code = 2) ∧
      ∀ e, ending.outcome = .error e ↔ obstacle = .settings e ∧ Config.Unhandled e := by
  obtain ⟨ending, log, houtcome, hmain⟩ := main_obstructed h
  refine ⟨ending, log, hmain, ?_, ?_, fun e => ⟨fun he => ?_, ?_⟩⟩
  · rw [houtcome]
    exact obstacle.code_eq_three
  · rintro ⟨program, message, rfl⟩
    exact ⟨.misuse, houtcome, rfl⟩
  · rw [houtcome] at he
    unfold Obstacle.outcome at he
    split at he
    · cases he
    · cases he
    · rename_i hconfig
      cases he
      rcases loadFailure_of_obstacle h with ⟨cause, rfl⟩ | hunhandled
      · exact absurd rfl (hconfig cause)
      · exact ⟨rfl, hunhandled⟩
  · rintro ⟨rfl, hunhandled⟩
    rw [houtcome]
    cases hunhandled <;> rfl

/-- A settings file that is not there is refused. -/
theorem obstructed_missing : ∃ ending log, (∀ session : Session, session.toSurroundings = {} →
      (main ["status", "--config", "none.yml"]).run session =
        (ending, { session with log := session.log ++ log })) ∧
    ∃ status, ending.outcome = .ok status ∧ status.code = 3 := by
  have hobstacle : (obstacle? ["status", "--config", "none.yml"] {}).any fun
      | .settings (.config _) => true
      | _ => false := by decide +kernel
  obtain ⟨obstacle, hobstacle, hconfig⟩ := (Option.any_eq_true _ _).1 hobstacle
  obtain ⟨ending, log, hmain, hcode, -⟩ := obstructed_iff hobstacle
  refine ⟨ending, log, hmain, hcode.2 ?_⟩
  split at hconfig
  · rename_i cause
    exact ⟨cause, rfl⟩
  · cases hconfig

/-- A working directory in which a directory stands in the place of the settings file. -/
def blocked : Surroundings where
  files := { nodes := [(["work"], .directory), (["work", ".tailwindcov.yml"], .directory)] }
  directory := Path.ofString "/work"

/-- Arguments that cannot be read do not end with the exit code 3, and the directory ends without one. -/
theorem not_obstructed :
    ((obstacle? ["run"] {}).isSome = true ∧
      ((main ["run"]).run {}).1.outcome.toOption.map ExitStatus.code = some 2) ∧
    ((obstacle? ["status"] blocked).isSome = true ∧
      ((main ["status"]).run { toSurroundings := blocked }).1.outcome.toOption.map ExitStatus.code = none) := by
  decide +kernel

end Program

end ScriptCoverage
