import SchemaGate.Command.Check

/-!
# Running an invocation

The lines that a command writes, its exit code, and its error if it has one.
-/

namespace SchemaGate.Command

/-- What the program knows of the machine it was built for. -/
structure Machine where
  os : String
  architecture : String
  target : String
  profile : String
deriving DecidableEq, Repr

structure Outcome where
  exit : ExitCode
  lines : List String := []
  error? : Option String := none
deriving DecidableEq, Repr

def programName : String := "jsonguard"

def programVersion : String := "0.1.0"

def versionLine : String := programName ++ " " ++ programVersion

def versionLines (machine : Machine) (extended : Bool) : List String :=
  if extended then
    ["name: " ++ programName, "version: " ++ programVersion, "policy: " ++ Policy.id,
      "target_os: " ++ machine.os, "target_arch: " ++ machine.architecture,
      "build_target: " ++ machine.target, "build_profile: " ++ machine.profile]
  else [versionLine]

namespace Outcome

def ofError (error : CommandError) : Outcome :=
  ⟨error.exit, [], some error.message⟩

def ofCheck (format : OutputFormat) : Except CommandError CheckReport → Outcome
  | .ok report =>
    { exit := if report.verdict = .fail then .refused else .success, lines := report.lines format }
  | .error error => ofError error

def ofLint (format : OutputFormat) : Except CommandError LintReport → Outcome
  | .ok report => { exit := .success, lines := report.lines format }
  | .error error => ofError error

/-- What is written on the standard output: every line ends with a line break. -/
def output (o : Outcome) : String :=
  String.join (o.lines.map (· ++ "\n"))

end Outcome

def usageLines : List String :=
  ["Usage: " ++ programName ++ " [--format FORMAT] [--log-format FORMAT] [--log-level LEVEL] COMMAND",
    "",
    "Commands:",
    "  check    Run one payload through a policy phase",
    "  lint     Validate a policy configuration file",
    "  version  Show version information",
    "  help     Show this text"]

/-- Arguments that cannot be used as they are say what is to be done, or what is wrong with them. -/
def Outcome.ofHalt : Halt → Outcome
  | .help => { exit := .success, lines := usageLines }
  | .version => { exit := .success, lines := [versionLine] }
  | .refuse fault => ⟨.usage, [], some fault.message⟩

def runTask (machine : Machine) (files : Files) (format : OutputFormat) : Task → Outcome
  | .check request => .ofCheck format (check files request)
  | .lint config => .ofLint format (lint files config)
  | .version extended => { exit := .success, lines := versionLines machine extended }

def run (machine : Machine) (files : Files) (arguments : List String) : Outcome :=
  match Invocation.ofArguments arguments with
  | .ok invocation => runTask machine files invocation.shared.format invocation.task
  | .error halt => .ofHalt halt

end SchemaGate.Command
