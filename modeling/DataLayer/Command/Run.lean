import DataLayer.Command.Task
import DataLayer.Log.Record

/-! Command lines from their arguments to their end.

The arguments before the command are read first, then the settings of the application and of its
log, and only then the arguments of the command. -/

namespace DataLayer.Command

open DataLayer.Source

variable {σ : Type}

/-- How a command line ends. -/
inductive Ending where
  /-- Its arguments cannot be understood. -/
  | unclear
  /-- The code is a whole number, or a truth value that was handed over as one. -/
  | exited (code : Value)
  /-- Something went wrong that no command tells of. -/
  | died (fault : Fault)

/-- The exit code of an ending. -/
def Ending.exitCode : Ending → Value
  | .unclear => .int 2
  | .exited code => code
  | .died _ => .int 1

/-- What a command line leaves. -/
structure Outcome (σ : Type) where
  ending : Ending
  screen : Screen := {}
  tree : Tree File
  session : Session σ
  log : LogSettings := {}

/-- The name of the program and its version. -/
def versionLine : String := "fluentdb 0.1.0"

/-- The service that the log names. -/
def serviceName : String := "fluentdb-cli"

/-- The exit code of a command that was interrupted. -/
def interruptedCode : Int := 130

/-- How a command line ends after a fault, and what it shows last. A wish to end is met, with the
code or the last words that it brings; an interruption and the end of the input are answered. -/
def farewell (fault : Fault) : Ending × Screen :=
  match fault with
  | .raised "SystemExit" .null => (.exited (.int 0), {})
  | .raised "SystemExit" (.int code) => (.exited (.int code), {})
  | .raised "SystemExit" (.bool code) => (.exited (.bool code), {})
  | .raised "SystemExit" words =>
    (.exited (.int 1), { output := Screen.readBack [words.display] })
  | .raised "KeyboardInterrupt" _ => (.exited (.int interruptedCode), {})
  | .raised "EOFError" _ => (.exited (.int 1), { complaints := ["", "Aborted."] })
  | _ => (.died fault, {})

namespace Desk

/-- What the log is set to. -/
def logSettings (desk : Desk σ) : Except Fault LogSettings := do
  let settings ← AppSettings.load desk.surroundings
  let log : LogSettings := { service := .text serviceName }
  Misuse.lift (log.withThreshold settings.logLevel)

/-- The outcome of a request. -/
def answer (desk : Desk σ) (tree : Tree File) (start : Session σ) (log : LogSettings)
    (request : Request) : Outcome σ :=
  let ((result, tree), session) := (desk.perform tree request).run start
  match result with
  | .error fault =>
    let (ending, screen) := farewell fault
    { ending, screen, tree, session, log }
  | .ok verdict =>
    let (screen, trouble) := ({} : Screen).addAll verdict.shown
    match trouble with
    | none =>
      { ending := .exited (.int verdict.exitCode), screen, tree, session, log }
    | some misuse => { ending := .died (.misuse misuse), screen, tree, session, log }

/-- Runs a command line on a tree of files and an engine. -/
def run (desk : Desk σ) (tree : Tree File) (engine : σ) (arguments : List String) : Outcome σ :=
  let start : Session σ := { engine }
  match Opening.ofArguments arguments with
  | .unclear => { ending := .unclear, tree, session := start }
  | .help => { ending := .exited (.int 0), tree, session := start }
  | .version =>
    { ending := .exited (.int 0), screen := { output := [versionLine] }, tree, session := start }
  | .command name rest =>
    match desk.logSettings with
    | .error fault => { ending := .died fault, tree, session := start }
    | .ok log =>
      match Order.ofArguments name rest with
      | .unclear => { ending := .unclear, tree, session := start, log }
      | .help => { ending := .exited (.int 0), tree, session := start, log }
      | .request request => desk.answer tree start log request

end Desk

/-- The records that a command line leaves in the log, in order. -/
def Outcome.records (outcome : Outcome σ) (clock : String) : List (List (String × Value)) :=
  outcome.session.log.filterMap fun logged =>
    if logged.notice.entry.passes outcome.log then
      (logged.notice.entry.record outcome.log clock logged.context).toOption
    else none

end DataLayer.Command
