import Rulebook.Pattern.Match
import Rulebook.Report.Issue

/-!
Wording: names and descriptions should avoid vague terms.

A term is found at the start of a word and in any case, so longer words that begin with
it are found as well.
-/

namespace Rulebook

def vagueTerms : List String := ["recent", "large", "soon", "some", "few"]

/-- The pattern of a term at the start of a word, in any case. -/
def termPattern (term : String) : Pattern.Node :=
  let modes := Pattern.Modes.initial true
  .seq (.anchor modes .boundary)
    (term.toList.foldr
      (fun c rest => .seq (.char modes (.among false [.one c.toNat])) rest) .empty)

def vagueTermsIn (text : String) : List String :=
  vagueTerms.filter fun term => (termPattern term).occursIn text

def vagueIssue (owner term : String) (ruleIds : List String) : Issue :=
  { kind := .vagueTerm
    severity := .soft
    message := owner ++ ": Avoid vague term: \"" ++ term ++ "\"."
    path := none
    ruleIds := ruleIds
    details := [("term", .text term)] }

def wordingIssuesOf (owner : String) (ruleIds : List String) (text : String) : List Issue :=
  (vagueTermsIn text).map (vagueIssue owner · ruleIds)

def wordingIssues (program : Program) : List Issue :=
  (program.rules.flatMap fun rule =>
    (rule.name :: rule.description.toList).flatMap
      (wordingIssuesOf ("Rule " ++ rule.id) [rule.id]))
  ++ program.constraints.flatMap fun constraint =>
    wordingIssuesOf ("Constraint " ++ constraint.id) [] constraint.description

end Rulebook
