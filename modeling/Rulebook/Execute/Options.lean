import Rulebook.Config.Settings

/-!
Options of a single execution.
-/

namespace Rulebook

/-- A mode overrides that of the program. Without actions the run is dry. -/
structure ExecutionOptions where
  mode : Option EvaluationMode
  maxRuleFirings : Int
  enableActions : Bool
  loopUntilSettled : Bool
  evaluateExamples : Bool
deriving DecidableEq

namespace ExecutionOptions

/-- The options of a caller who gives none. -/
def default (settings : Settings) : ExecutionOptions :=
  ⟨none, settings.maxRuleFirings, true, false, false⟩

def read (settings : Settings) : Reader ExecutionOptions :=
  Reader.record fun fields => ExecutionOptions.mk
    <$> Reader.defaulted ["mode"] none
          (Reader.optional (Reader.member EvaluationMode.read?)) fields
    <*> Reader.defaulted ["maxRuleFirings", "max_rule_firings"] settings.maxRuleFirings
          Settings.readFirings fields
    <*> Reader.defaulted ["enableActions", "enable_actions"] true Reader.bool fields
    <*> Reader.defaulted ["loopUntilSettled", "loop_until_settled"] false Reader.bool fields
    <*> Reader.defaulted ["evaluateExamples", "evaluate_examples"] false Reader.bool fields

/-- The mode of a run: that of the options, of the program, or of the settings. -/
def evaluationMode (options : ExecutionOptions) (settings : Settings) (program : Program) :
    EvaluationMode :=
  match options.mode, program.config with
  | some mode, _ => mode
  | none, some config => config.ruleEvaluation
  | none, none => settings.defaultMode

def toValue (options : ExecutionOptions) : Value :=
  .record
    [("mode", .ofText? (options.mode.map EvaluationMode.spelling)),
     ("maxRuleFirings", .int options.maxRuleFirings),
     ("enableActions", .bool options.enableActions),
     ("loopUntilSettled", .bool options.loopUntilSettled),
     ("evaluateExamples", .bool options.evaluateExamples)]

end ExecutionOptions

end Rulebook
