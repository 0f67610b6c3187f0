import Deskhand.CommandLine.Command
import Deskhand.CommandLine.Pairing
import Deskhand.CommandLine.Scenarios
import Deskhand.CommandLine.Service
import Deskhand.CommandLine.Settings

/-!
# Performing commands

`Command.perform` does what a command asks for and gives the status with which the program ends: zero if it
was done.
-/

namespace Deskhand.Command

/-- The version of the program. -/
def versionText : String := "flexauto 0.3.0"

/-- A kind of block as it is listed. -/
def listedKind (kind : BlockKind) : Value :=
  .record [("type", .text kind.tag), ("kind", .text kind.role),
    ("summary", .text kind.summary)]

open Errand

/-- List the kinds of blocks. -/
def showKinds : Errand Exit :=
  succeed [("message", .text (toString BlockKind.all.length ++ " block types")),
    ("data", .list (BlockKind.all.map listedKind))]

/-- Do what a command asks for. -/
def perform : Command → Errand Exit
  | version => do
    print (versionText ++ "\n")
    return 0
  | run isDetached => runDaemon isDetached
  | stop => Errand.stop
  | status => Errand.status
  | health => Errand.health
  | listKinds => showKinds
  | showLog count level => Errand.showLog count level
  | scenarioUsage => openStore *> explain "scenarios" "list,show,create,activate,deactivate,delete,run"
  | listScenarios activeOnly => openStore *> Errand.listScenarios activeOnly
  | showScenario id => openStore *> Errand.showScenario id
  | createScenario name file isActive => openStore *> Errand.createScenario name file isActive
  | activateScenario id isActive => openStore *> Errand.activateScenario id isActive
  | deleteScenario id => openStore *> Errand.deleteScenario id
  | runScenario id => openStore *> Errand.runScenario id
  | showSettings => openStore *> Errand.showSettings
  | changeSetting name value => openStore *> Errand.changeSetting name value
  | chatUsage => openStore *> withToken fun _ => explain "telegram" "pair,validate,disconnect"
  | checkToken => openStore *> withToken Errand.checkToken
  | pairChat seconds => do
    let config ← openStore
    withToken fun settings => Errand.pairChat config settings seconds
  | disconnectChat => openStore *> Errand.disconnectChat

end Deskhand.Command
