import Rulebook.Config.Settings
import Rulebook.Telemetry.Line

/-!
The set-up of the log: the least level that is shown, and the form of the lines.
-/

namespace Rulebook

inductive LogForm where
  | structured | plain
deriving DecidableEq

structure LogSetup where
  level : Int
  form : LogForm
deriving DecidableEq

namespace LogSetup

def otherLevelNames : List (String × Int) := [("FATAL", 50), ("WARN", 30)]

/-- The level of a name in any case; an unknown name means the informative level. -/
def levelOf (name : String) : Int :=
  ((levelNumbers ++ otherLevelNames).lookup (Text.uppercase name)).getD 20

/-- The set-up for what a caller asks for. A level that is absent or empty, and a form
that is absent, are those of the settings. -/
def make (settings : Settings) (level : Option String) (structured : Option Bool) :
    LogSetup :=
  { level := levelOf ((nonEmpty? level).getD settings.logLevel)
    form := if structured.getD settings.structuredLogs then .structured else .plain }

end LogSetup

end Rulebook
