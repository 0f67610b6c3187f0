import Deskhand.Digest.Sha256
import Deskhand.Store.Basic

/-!
# The fingerprint of a store

`Store.fingerprint` is a digest of what a running program has loaded from the store: the active scenarios with
their ids, names and chains, one after the other as they are listed, and the settings sorted by name.
-/

namespace Deskhand.Store

/-- The part of a scenario that counts. -/
def scenarioPart (s : Scenario) : String :=
  s.id ++ s.name ++ s.blocks

/-- One field of the settings with its name. -/
def settingPart (e : String × Value) : String :=
  "(" ++ Text.quoted e.1 ++ ", " ++ e.2.nested ++ ")"

/-- The settings, sorted by name. -/
def settingsPart (s : Settings) : String :=
  "[" ++ Text.join ", " ((s.record.mergeSort fun a b => a.1 ≤ b.1).map settingPart) ++ "]"

/-- The text that the digest is made of. -/
def printedText (scenarios : List Scenario) (settings : Settings) : String :=
  String.join (scenarios.map scenarioPart) ++ settingsPart settings

/-- The digest of what counts in a store. -/
def fingerprint (s : Store) : Except Fault String :=
  (s.list true).map fun active => Sha256.hex (printedText active s.settings).toUTF8.toList

end Deskhand.Store
