import RoadGrowth.Fault
import RoadGrowth.Network.Settings

/-!
# Problems

Why a network could not be grown or its settings not be read. A file is named by
why it could not be read as text.
-/

namespace RoadGrowth

/-- Why a file has no text. -/
inductive FileProblem where
  | missing
  | notText
  /-- Any other failure of the system. -/
  | unreadable
  deriving DecidableEq

/-- Why an operation gave no result. -/
inductive Problem where
  | settings (problem : SettingsProblem)
  | overflow (overflow : Overflow)
  /-- A text is not the JSON form of settings. -/
  | notSettings
  | file (problem : FileProblem)
  | fault (fault : Fault)
  deriving DecidableEq

/-- The text of a problem. -/
def Problem.message : Problem → String
  | .settings found => "Config error: " ++ found.message
  | .overflow found => "Grammar error: " ++ found.message
  | .notSettings => "JSON error"
  | .file _ => "IO error"
  | .fault found => found.message?.getD "value out of range"

/-- The checked settings themselves, or what is wrong with them. -/
def NetworkSettings.checked (settings : NetworkSettings) : Except Problem NetworkSettings :=
  match settings.check with
  | .ok () => .ok settings
  | .error problem => .error (.settings problem)

end RoadGrowth
