import Deskhand.CommandLine.Usage

/-!
# Commands

A `Command` is what a command line asks of the program. `Command.usage` says which words there are for it, and
`Command.read` reads it.
-/

namespace Deskhand

/-- What is asked of the program. -/
inductive Command where
  | version
  /-- Run the daemon, in the background if it is to be detached. -/
  | run (isDetached : Bool)
  | stop
  | status
  | health
  | scenarioUsage
  | listScenarios (activeOnly : Bool)
  | showScenario (id : String)
  | createScenario (name file : String) (isActive : Bool)
  | activateScenario (id : String) (isActive : Bool)
  | deleteScenario (id : String)
  | runScenario (id : String)
  | showSettings
  | changeSetting (name value : String)
  | chatUsage
  /-- Bind a chat, for at most some seconds. -/
  | pairChat (seconds : Option Int)
  | checkToken
  | disconnectChat
  | listKinds
  /-- Show the last lines of the log, or those of them that hold a level. -/
  | showLog (count : Int) (level : String)
  deriving DecidableEq, Repr, Inhabited

namespace Command

/-- The words of the program. -/
def names : List String :=
  ["run", "stop", "status", "health", "scenarios", "settings", "telegram", "blocks", "logs"]

/-- The words behind `scenarios`. -/
def scenarioNames : List String :=
  ["list", "create", "show", "activate", "deactivate", "delete", "run"]

/-- What may stand behind a path of words. -/
def usage : List String → Usage
  | [] => { options := [{ name := "version", letter := some 'V' }], operands := .subcommand names }
  | ["run"] => { options := [{ name := "daemon" }] }
  | ["scenarios"] => { operands := .subcommand scenarioNames }
  | ["scenarios", "list"] => { options := [{ name := "active" }] }
  | ["scenarios", "create"] =>
    { options := [{ name := "name", use := .text, isRequired := true },
                  { name := "blocks", use := .text, isRequired := true },
                  { name := "active" }] }
  | ["scenarios", _] => { operands := .one }
  | ["settings"] => { operands := .subcommand ["show", "set"] }
  | ["settings", "set"] =>
    { options := [{ name := "key", use := .text, isRequired := true },
                  { name := "value", use := .text, isRequired := true }] }
  | ["telegram"] => { operands := .subcommand ["pair", "validate", "disconnect"] }
  | ["telegram", "pair"] => { options := [{ name := "timeout", use := .number }] }
  | ["logs"] => { options := [{ name := "lines", use := .number }, { name := "level", use := .text }] }
  | _ => {}

/-- What is shown to whoever asks for help. -/
def help : String :=
  "usage: flexauto [-h] [--version] \x7b" ++ Text.join "," names ++ "\x7d ...\n"

/-- The lines of the log that are shown when no number is given. -/
def lineCount : Int := 100

/-- The command that words ask for, if they name one. -/
def ofWords? (ws : Words) : Option Command :=
  let id := ws.operand.getD ""
  match ws.path with
  | ["run"] => some (.run (ws.values.flag "daemon"))
  | ["stop"] => some .stop
  | ["status"] => some .status
  | ["health"] => some .health
  | ["scenarios"] => some .scenarioUsage
  | ["scenarios", "list"] => some (.listScenarios (ws.values.flag "active"))
  | ["scenarios", "create"] =>
    some (.createScenario (ws.values.text "name") (ws.values.text "blocks") (ws.values.flag "active"))
  | ["scenarios", "show"] => some (.showScenario id)
  | ["scenarios", "activate"] => some (.activateScenario id true)
  | ["scenarios", "deactivate"] => some (.activateScenario id false)
  | ["scenarios", "delete"] => some (.deleteScenario id)
  | ["scenarios", "run"] => some (.runScenario id)
  | ["settings"] | ["settings", "show"] => some .showSettings
  | ["settings", "set"] => some (.changeSetting (ws.values.text "key") (ws.values.text "value"))
  | ["telegram"] => some .chatUsage
  | ["telegram", "pair"] => some (.pairChat (ws.values.int? "timeout"))
  | ["telegram", "validate"] => some .checkToken
  | ["telegram", "disconnect"] => some .disconnectChat
  | ["blocks"] => some .listKinds
  | ["logs"] => some (.showLog (ws.values.int "lines" lineCount) (ws.values.text "level"))
  | _ => none

/-- Read a command line. One that asks for the version asks for nothing else, and an empty one asks for help.
-/
def read (args : List String) : Except Interruption Command := do
  let ws ← Words.read usage args
  if ws.values.flag "version" then return .version
  else
    match ofWords? ws with
    | some c => return c
    | none => throw .help

end Command

end Deskhand
