/-!
The fixed words of the language: enumerations and how documents spell them.

Each enumeration lists its members once; reading is a search of that list by
spelling, so what is written reads back (`read?_spelling`).
-/

namespace Rulebook

/-! ### Types and comparisons -/

inductive ScalarType where
  | string | number | boolean | date
deriving DecidableEq

namespace ScalarType

def all : List ScalarType := [string, number, boolean, date]

def spelling : ScalarType → String
  | string => "string"
  | number => "number"
  | boolean => "boolean"
  | date => "date"

def read? (s : String) : Option ScalarType := all.find? (·.spelling == s)

@[simp] theorem read?_spelling (t : ScalarType) : read? t.spelling = some t := by
  cases t <;> decide

end ScalarType

/-- How a comparison relates its two sides. -/
inductive Operator where
  | equals | notEquals | greater | greaterOrEqual | less | lessOrEqual | contains | memberOf
deriving DecidableEq

namespace Operator

def all : List Operator :=
  [equals, notEquals, greater, greaterOrEqual, less, lessOrEqual, contains, memberOf]

def spelling : Operator → String
  | equals => "equals"
  | notEquals => "not_equals"
  | greater => "greater"
  | greaterOrEqual => "greater_or_equal"
  | less => "less"
  | lessOrEqual => "less_or_equal"
  | contains => "contains"
  | memberOf => "member_of"

/-- Short spellings that documents may use as well. -/
def shorthands : List (String × Operator) :=
  [("==", equals), ("eq", equals), ("!=", notEquals), ("neq", notEquals),
   (">", greater), ("gt", greater), (">=", greaterOrEqual), ("gte", greaterOrEqual),
   ("<", less), ("lt", less), ("<=", lessOrEqual), ("lte", lessOrEqual), ("in", memberOf)]

def read? (s : String) : Option Operator :=
  (shorthands.lookup s).or (all.find? (·.spelling == s))

@[simp] theorem read?_spelling (o : Operator) : read? o.spelling = some o := by
  cases o <;> decide

/-- The operators that only make sense between two numbers. -/
def isOrdering : Operator → Bool
  | greater | greaterOrEqual | less | lessOrEqual => true
  | _ => false

end Operator

/-! ### Evaluation -/

/-- Whether a pass ends with the first rule that matches. -/
inductive EvaluationMode where
  | firstMatch | allMatches
deriving DecidableEq

namespace EvaluationMode

def all : List EvaluationMode := [firstMatch, allMatches]

def spelling : EvaluationMode → String
  | firstMatch => "firstMatch"
  | allMatches => "allMatches"

/-- Short spellings that documents may use as well. -/
def shorthands : List (String × EvaluationMode) :=
  [("first", firstMatch), ("all", allMatches)]

def read? (s : String) : Option EvaluationMode :=
  (shorthands.lookup s).or (all.find? (·.spelling == s))

@[simp] theorem read?_spelling (m : EvaluationMode) : read? m.spelling = some m := by
  cases m <;> decide

end EvaluationMode

/-- How much the failure of a constraint weighs. -/
inductive Severity where
  | error | warn
deriving DecidableEq

namespace Severity

def all : List Severity := [error, warn]

def spelling : Severity → String
  | error => "error"
  | warn => "warn"

def read? (s : String) : Option Severity :=
  if s = "warning" then some warn else all.find? (·.spelling == s)

@[simp] theorem read?_spelling (v : Severity) : read? v.spelling = some v := by
  cases v <;> decide

end Severity

inductive ProgramDomain where
  | businessRules | workflow | dataTransform | gameRules
deriving DecidableEq

namespace ProgramDomain

def all : List ProgramDomain := [businessRules, workflow, dataTransform, gameRules]

def spelling : ProgramDomain → String
  | businessRules => "business-rules"
  | workflow => "workflow"
  | dataTransform => "data-transform"
  | gameRules => "game-rules"

def read? (s : String) : Option ProgramDomain := all.find? (·.spelling == s)

@[simp] theorem read?_spelling (d : ProgramDomain) : read? d.spelling = some d := by
  cases d <;> decide

end ProgramDomain

/-! ### Diagnostics -/

/-- A hard issue rejects a program; a soft one is only reported. -/
inductive IssueSeverity where
  | hard | soft
deriving DecidableEq

def IssueSeverity.spelling : IssueSeverity → String
  | hard => "hard"
  | soft => "soft"

inductive IssueKind where
  | reference | typeMismatch | unitMismatch | unitMissing | staticConflict | dynamicConflict
  | duplicateDefinition | vagueTerm | uncoveredRule | noExamples | sourceMissing
deriving DecidableEq

def IssueKind.spelling : IssueKind → String
  | reference => "REFERENCE"
  | typeMismatch => "TYPE_MISMATCH"
  | unitMismatch => "UNIT_MISMATCH"
  | unitMissing => "UNIT_MISSING"
  | staticConflict => "STATIC_CONFLICT"
  | dynamicConflict => "DYNAMIC_CONFLICT"
  | duplicateDefinition => "DUPLICATE_DEFINITION"
  | vagueTerm => "VAGUE_TERM"
  | uncoveredRule => "UNCOVERED_RULE"
  | noExamples => "NO_EXAMPLES"
  | sourceMissing => "SOURCE_MISSING"

end Rulebook
