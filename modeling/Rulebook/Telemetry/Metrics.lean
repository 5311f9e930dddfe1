import Rulebook.Telemetry.Event

/-!
Metrics: what is counted over many operations, and the text in which it is published.

Metrics are a fold over events. A counter with labels shows a sample for each
combination that was used, in the order of first use; a histogram counts observations
up to each of its bounds.
-/

namespace Rulebook

def bump {κ : Type} [DecidableEq κ] (key : κ) (tally : List (κ × Nat)) : List (κ × Nat) :=
  Fields.set key (((Fields.get? key tally).getD 0) + 1) tally

/-- All that is counted. `firings` holds the observations of one histogram; of those of the
other one, the durations, only the number is kept. -/
structure Metrics where
  executions : List (ExecutionStatus × Nat)
  durations : Nat
  firings : List Nat
  conflicts : Nat
  issues : List ((IssueKind × IssueSeverity) × Nat)
deriving DecidableEq

namespace Metrics

def empty : Metrics := ⟨[], 0, [], 0, []⟩

mutual

def add (metrics : Metrics) : Event → Metrics
  | .log _ => metrics
  | .executed status => { metrics with executions := bump status metrics.executions }
  | .timed => { metrics with durations := metrics.durations + 1 }
  | .fired firings => { metrics with firings := firings :: metrics.firings }
  | .conflicted conflicts => { metrics with conflicts := metrics.conflicts + conflicts }
  | .reported kind severity =>
      { metrics with issues := bump (kind, severity) metrics.issues }
  | .scope _ events => addAll metrics events

def addAll (metrics : Metrics) : List Event → Metrics
  | [] => metrics
  | event :: rest => addAll (add metrics event) rest

end

end Metrics

/-! ### Publication -/

inductive MetricType where
  | counter | histogram
deriving DecidableEq

def MetricType.spelling : MetricType → String
  | counter => "counter"
  | histogram => "histogram"

structure Sample where
  name : String
  labels : List (String × String)
  value : Nat
deriving DecidableEq

structure MetricFamily where
  name : String
  help : String
  type : MetricType
  samples : List Sample
deriving DecidableEq

/-- A count as text. From seven digits on it is written with an exponent. -/
def countText (n : Nat) : String :=
  match (toString n).toList with
  | first :: rest =>
      if rest.length < 6 then toString n ++ ".0"
      else
        let shown := (rest.reverse.dropWhile (· = '0')).reverse
        String.ofList (first :: (if shown.isEmpty then [] else '.' :: shown))
          ++ "e+0" ++ toString rest.length
  | [] => ""

/-- The upper bounds of the histogram of firings; a last bucket has none. -/
def firingBounds : List Nat := [0, 1, 5, 10, 50, 100, 500, 1000]

namespace Metrics

def executionFamily (metrics : Metrics) : MetricFamily :=
  ⟨"rulelang_executions_total", "Total program executions", .counter,
    metrics.executions.map fun (status, n) =>
      ⟨"rulelang_executions_total", [("status", status.spelling)], n⟩⟩

def durationFamily (metrics : Metrics) : MetricFamily :=
  ⟨"rulelang_execution_duration_seconds", "Program execution duration in seconds", .histogram,
    [⟨"rulelang_execution_duration_seconds_count", [], metrics.durations⟩]⟩

def firingBuckets (metrics : Metrics) : List Sample :=
  let name := "rulelang_rule_firings_bucket"
  (firingBounds.map fun bound =>
    ⟨name, [("le", countText bound)], metrics.firings.countP (· ≤ bound)⟩)
  ++ [⟨name, [("le", "+Inf")], metrics.firings.length⟩]

-- The zero of a sum is the core library's, also where another one is declared.
attribute [local instance (2000)] Zero.ofOfNat0

def firingFamily (metrics : Metrics) : MetricFamily :=
  ⟨"rulelang_rule_firings", "Rule firings per execution", .histogram,
    metrics.firingBuckets
      ++ [⟨"rulelang_rule_firings_count", [], metrics.firings.length⟩,
          ⟨"rulelang_rule_firings_sum", [], metrics.firings.sum⟩]⟩

def conflictFamily (metrics : Metrics) : MetricFamily :=
  ⟨"rulelang_dynamic_conflicts_total",
    "Writes to a path already written in the same execution", .counter,
    [⟨"rulelang_dynamic_conflicts_total", [], metrics.conflicts⟩]⟩

def issueFamily (metrics : Metrics) : MetricFamily :=
  ⟨"rulelang_validation_issues_total", "Issues reported by program validation", .counter,
    metrics.issues.map fun ((kind, severity), n) =>
      ⟨"rulelang_validation_issues_total",
        [("kind", kind.spelling), ("severity", severity.spelling)], n⟩⟩

def families (metrics : Metrics) : List MetricFamily :=
  [metrics.executionFamily, metrics.durationFamily, metrics.firingFamily,
   metrics.conflictFamily, metrics.issueFamily]

def samples (metrics : Metrics) : List Sample := metrics.families.flatMap (·.samples)

end Metrics

def Sample.text (sample : Sample) : String :=
  let labels := sample.labels.map fun (name, value) => name ++ "=\"" ++ value ++ "\""
  sample.name
    ++ (if labels.isEmpty then "" else "\x7b" ++ ",".intercalate labels ++ "\x7d")
    ++ " " ++ countText sample.value

/-- The lines of a metric: what it is, and its samples. -/
def MetricFamily.lines (family : MetricFamily) : List String :=
  ["# HELP " ++ family.name ++ " " ++ family.help,
   "# TYPE " ++ family.name ++ " " ++ family.type.spelling]
    ++ family.samples.map Sample.text

def Metrics.lines (metrics : Metrics) : List String := metrics.families.flatMap (·.lines)

end Rulebook
