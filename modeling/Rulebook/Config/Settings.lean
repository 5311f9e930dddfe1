import Rulebook.Document.Reader
import Rulebook.Text.Case

/-!
Settings of the engine.

They are given by name or by the environment, whose variables begin with `RULELANG_` and
are found in any case; a given value goes before a variable. Execution options that a
caller leaves out fall back to them.
-/

namespace Rulebook

inductive AppEnvironment where
  | development | test | production
deriving DecidableEq

namespace AppEnvironment

def all : List AppEnvironment := [development, test, production]

def spelling : AppEnvironment → String
  | development => "local"
  | test => "test"
  | production => "prod"

end AppEnvironment

structure Settings where
  appEnv : AppEnvironment
  appName : String
  logLevel : String
  structuredLogs : Bool
  metricsEnabled : Bool
  maxRuleFirings : Int
  defaultMode : EvaluationMode
deriving DecidableEq

inductive SettingsError where
  | problems (all : List Problem)
  | environmentNotText (v : Value)

namespace Settings

def default : Settings :=
  { appEnv := .development
    appName := "rulelang"
    logLevel := "INFO"
    structuredLogs := true
    metricsEnabled := true
    maxRuleFirings := 1000
    defaultMode := .allMatches }

/-! ### Parts -/

def readAppEnv : Reader AppEnvironment
  | .text s =>
      match AppEnvironment.all.find? fun e => e.spelling == Text.lowercase s with
      | some e => .accepted e
      | none =>
          .fail (.unfit ("app_env must be one of "
            ++ (Value.texts (AppEnvironment.all.map (·.spelling))).display ++ ", got '" ++ s
            ++ "'"))
  | _ => .fail .notText

def logLevels : List String := ["DEBUG", "INFO", "WARNING", "ERROR", "CRITICAL"]

def readLogLevel : Reader String := fun v =>
  match Reader.text v with
  | .refused ps => .refused ps
  | .accepted s =>
      let level := Text.uppercase (String.ofList (Text.trim Text.isBlank s.toList))
      if level ∈ logLevels then .accepted level
      else .fail (.unfit ("log_level must be a standard logging level, got '" ++ s ++ "'"))

def readFirings : Reader Int := fun v => (Reader.int v).check (0 < ·) .notGreater

/-! ### Sources -/

abbrev Given := List (Key × Value)

/-- The setting that a variable is for: its name without the beginning that marks it. -/
def settingName? (name : String) : Option String :=
  let letters := (Text.lowercase name).toList
  let mark := "rulelang_".toList
  if mark.isPrefixOf letters then some (String.ofList (letters.drop mark.length)) else none

/-- Named values and then the variables, the last of these first, in the order in which
they are looked at. -/
def sources (named environment : Given) : Given :=
  named ++ environment.reverse.filterMap fun (k, v) =>
    (settingName? k.name).map fun name => (.text name, v)

/-! ### Reading -/

/-- Each setting on its own; those that are not given keep their default. -/
def readParts (given : Given) : Decoded Settings :=
  Settings.mk
    <$> Reader.defaulted ["app_env"] default.appEnv readAppEnv given
    <*> Reader.defaulted ["app_name"] default.appName Reader.text given
    <*> Reader.defaulted ["log_level"] default.logLevel readLogLevel given
    <*> Reader.defaulted ["structured_logs"] default.structuredLogs Reader.bool given
    <*> Reader.defaulted ["metrics_enabled"] default.metricsEnabled Reader.bool given
    <*> Reader.defaulted ["max_rule_firings"] default.maxRuleFirings readFirings given
    <*> Reader.defaulted ["default_mode"] default.defaultMode
          (Reader.member EvaluationMode.read?) given

/-- In production the number of firings may not be above its default. -/
def checkProduction (settings : Settings) : Decoded Settings :=
  if settings.appEnv = .production ∧ 1000 < settings.maxRuleFirings then
    .fail (.unfit ("RULELANG_MAX_RULE_FIRINGS cannot exceed 1000 in production. Got: "
      ++ toString settings.maxRuleFirings))
  else .accepted settings

/-- Settings from named values and variables. An environment that is no text ends the
reading at once. -/
def read (named environment : Given) : Except SettingsError Settings :=
  let given := sources named environment
  let parts : Decoded Settings :=
    match readParts given with
    | .accepted settings => checkProduction settings
    | .refused ps => .refused ps
  match Fields.get? (Key.text "app_env") given, parts with
  | none, .accepted settings | some (.text _), .accepted settings => .ok settings
  | none, .refused ps | some (.text _), .refused ps => .error (.problems ps)
  | some v, _ => .error (.environmentNotText v)

def toValue (settings : Settings) : Value :=
  .record
    [("app_env", .text settings.appEnv.spelling), ("app_name", .text settings.appName),
     ("log_level", .text settings.logLevel),
     ("structured_logs", .bool settings.structuredLogs),
     ("metrics_enabled", .bool settings.metricsEnabled),
     ("max_rule_firings", .int settings.maxRuleFirings),
     ("default_mode", .text settings.defaultMode.spelling)]

end Settings

end Rulebook
