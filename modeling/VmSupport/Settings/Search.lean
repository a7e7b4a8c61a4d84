import VmSupport.Log.Event
import VmSupport.Settings.Override

/-!
# Looking for settings

Settings are looked for in a file of a fixed name, in the current directory first and then in each
directory above it. The nearest file that gives usable settings counts; nearer ones that do not are
reported and passed over, and what lies farther away is not looked at. Without any usable file the
settings are the default ones. Whatever was found is then overridden from the environment, as a
whole or, with a report, not at all.
-/

namespace VmSupport.Settings

/-- The name of a settings file. -/
def fileName : String := "vm-native.toml"

/-- Looks for settings at a place and above it: the first usable ones, and a report of each file
that was passed over. -/
def searchUp : Files.Place → Option Settings × List Log.Event
  | [] => (none, [])
  | (name, node) :: up =>
    match node.child? fileName with
    | none => searchUp up
    | some file =>
      match parseFile file.readText with
      | .ok s => (some s, [])
      | .error e =>
        let (found, events) := searchUp up
        let path := Files.Place.name ((fileName, file) :: (name, node) :: up)
        (found, .fileIgnored path e.message :: events)

/-- The settings for a current directory and an environment, with the reports of what was ignored. -/
def discover (current : Files.Place) (lookup : Lookup) : Settings × List Log.Event :=
  let (found, events) := searchUp current
  match (found.getD {}).tryOverride lookup with
  | (s, none) => (s, events)
  | (s, some r) => (s, events ++ [.overridesIgnored r.message])

end VmSupport.Settings
