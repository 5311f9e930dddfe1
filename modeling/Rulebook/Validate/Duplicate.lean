import Rulebook.Validate.Clash

/-!
Duplicate definitions: one name for two entities, rules, constraints or examples, or
for two fields of one entity.
-/

namespace Rulebook

/-- The names that occur more than once, each of them once and in order. -/
def duplicates (names : List String) : List String :=
  sortedDistinct (names.filter fun name => 1 < names.count name)

/-- A name that is defined more than once; `label` says for what. -/
def duplicateIssue (label name : String) : Issue :=
  { kind := .duplicateDefinition
    severity := .hard
    message := "Duplicate " ++ label ++ " \"" ++ name ++ "\""
    path := none
    ruleIds := []
    details := [("name", .text name)] }

def nameGroups (program : Program) : List (String × List String) :=
  [("entity", program.entities.map (·.name)), ("rule", program.rules.map (·.id)),
   ("constraint", program.constraints.map (·.id)), ("example", program.examples.map (·.id))]
    ++ program.entities.map fun entity =>
      ("field on entity \"" ++ entity.name ++ "\"", entity.fields.map (·.name))

def duplicateIssues (program : Program) : List Issue :=
  (nameGroups program).flatMap fun (label, names) => (duplicates names).map (duplicateIssue label)

end Rulebook
