import Credentials.Program
import Credentials.Proofs.CommandLine.Arguments
import Credentials.Proofs.Config

/-!
# Runs of the program

What the program leaves behind when it is given options, a command and the arguments of the command,
in surroundings where the options and the key make up a configuration.
-/

namespace Credentials.Program

open Credentials.CommandLine

/-- A run with some words as arguments leaves a report behind. -/
def Leaves (words : List String) (s : Surroundings) (r : Report) : Prop :=
  ∃ args, Arguments.parse s.environment words = .ok args ∧ run args s = r

/-- Options and what a run can see make up a configuration, whichever command follows. -/
def Configures (options : List String) (s : Surroundings) (c : Config) : Prop :=
  ∃ items, AreOptions options items ∧ ∀ command,
    let args := Arguments.ofItems items s.environment command
    ∃ key, (loadKey args s).key = .ok key ∧ (args.settings key).build = .ok c

/-- What a run leaves behind once there is a configuration. -/
def outcome (c : Config) (s : Surroundings) (command : Command) : Report :=
  match runCommand c s command with
  | .error e => failure "Command failed" (some e.message)
  | .ok r => r

/-- The key and the arguments of a run make up a configuration. -/
def Reaches (args : Arguments) (s : Surroundings) (c : Config) : Prop :=
  ∃ key, (loadKey args s).key = .ok key ∧ (args.settings key).build = .ok c

/-- Once there is a configuration, the command has its outcome. -/
theorem Reaches.run_eq {args : Arguments} {s : Surroundings} {c : Config} (h : Reaches args s c) :
    run args s = afterEvents (loadKey args s).events (outcome c s args.command) := by
  obtain ⟨key, hkey, hbuild⟩ := h
  simp only [run, hkey, runWithKey, hbuild]
  rfl

variable {options words : List String} {name : String} {s : Surroundings} {c : Config}
  {command : Command} {r : Report} {e : CommandError}

/-- A command that does not fail has its report as the outcome. -/
theorem outcome_of_ok (hrun : runCommand c s command = .ok r) : outcome c s command = r := by
  rw [outcome, hrun]

/-- A command that fails has an outcome that tells why. -/
theorem outcome_of_error (hrun : runCommand c s command = .error e) :
    outcome c s command = failure "Command failed" (some e.message) := by
  rw [outcome, hrun]

/-- After the options, every command has its outcome, with events that came before it. -/
theorem Configures.exists_leaves (h : Configures options s c) (hname : name ∈ topLevel.commands)
    (hhelp : name ≠ "help") (hcommand : parseCommand name words = .ok command) :
    ∃ events, Leaves (options ++ name :: words) s (afterEvents events (outcome c s command)) := by
  obtain ⟨items, hoptions, hconfig⟩ := h
  have hreaches : Reaches (.ofItems items s.environment command) s c := hconfig command
  exact ⟨_, _, Arguments.parse_append hoptions hname hhelp hcommand _, hreaches.run_eq⟩

/-- A command that does not fail leaves its exit code and its output behind. -/
theorem Configures.exists_leaves_ok (h : Configures options s c)
    (hname : name ∈ topLevel.commands) (hhelp : name ≠ "help")
    (hcommand : parseCommand name words = .ok command)
    (hrun : runCommand c s command = .ok r) :
    ∃ left, Leaves (options ++ name :: words) s left ∧ left.exitCode = r.exitCode ∧
      left.output = r.output := by
  obtain ⟨events, hleaves⟩ := h.exists_leaves hname hhelp hcommand
  rw [outcome_of_ok hrun] at hleaves
  exact ⟨_, hleaves, rfl, rfl⟩

/-- A command that fails leaves the exit code of a failure and no output behind. -/
theorem Configures.exists_leaves_error (h : Configures options s c)
    (hname : name ∈ topLevel.commands) (hhelp : name ≠ "help")
    (hcommand : parseCommand name words = .ok command)
    (hrun : runCommand c s command = .error e) :
    ∃ left, Leaves (options ++ name :: words) s left ∧ left.exitCode = exitFailure ∧
      left.output = "" := by
  obtain ⟨events, hleaves⟩ := h.exists_leaves hname hhelp hcommand
  rw [outcome_of_error hrun] at hleaves
  exact ⟨_, hleaves, rfl, rfl⟩

/-- Surroundings with a key file and a clock, and nothing else to see. -/
def surroundingsAt (clock : Clock) : Surroundings where
  environmentBytes := []
  fileAt _ := .ok (.replicate 32 0 ++ [10])
  input := []
  clock := clock
  draw _ := .replicate _ 0

/-- The key file is enough for a configuration at any time. -/
theorem exists_configures_surroundingsAt : ∃ c, c.issuer = "warden" ∧
    c.accessLifetime = .ofSeconds 300 ∧
    ∀ clock, Configures ["--signing-key-file", "key"] (surroundingsAt clock) c := by
  obtain ⟨c, hc, hissuer, hlifetime⟩ := Settings.exists_build_zeroKey
  refine ⟨c, hissuer, hlifetime, fun clock => ?_⟩
  have hoptions : AreOptions ["--signing-key-file", "key"] [("signing-key-file", .text "key")] :=
    ⟨_, _, rfl, rfl, rfl, rfl⟩
  have hkey : SigningKey.ofFile (.replicate 32 0 ++ [10]) = .replicate 32 0 := by decide
  refine ⟨_, hoptions, fun command => ⟨.replicate 32 0, ?_, hc⟩⟩
  rw [← hkey]
  rfl

end Credentials.Program
