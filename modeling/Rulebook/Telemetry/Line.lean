import Rulebook.Calendar.Instant
import Rulebook.Document.Json
import Rulebook.Telemetry.Event

/-!
Lines of a structured log.

A line is one JSON object: what is logged, within which execution, and the data that goes
with it. Executions are known by identities, which are numbered here in the order in
which they first log something.
-/

namespace Rulebook

structure LogOrigin where
  file : String
  line : Int
  function : Option String
deriving DecidableEq

structure LogLine where
  timestamp : Option Calendar.Instant
  level : String
  logger : String
  message : String
  executionId : Option String
  label : String
  exception : Option (String × String)
  origin : Option LogOrigin
  extra : Record

def levelNumbers : List (String × Int) :=
  [("CRITICAL", 50), ("ERROR", 40), ("WARNING", 30), ("INFO", 20), ("DEBUG", 10),
   ("NOTSET", 0)]

/-- The name of a level; one without a name is called by its number. -/
def levelName (number : Int) : String :=
  match levelNumbers.find? (·.2 == number) with
  | some (name, _) => name
  | none => "Level " ++ toString number

/-- Names that belong to a record itself and are never shown as extra data. -/
def reservedNames : List String :=
  ["name", "msg", "message", "asctime", "args", "levelname", "levelno", "pathname",
   "filename", "module", "lineno", "funcName", "created", "msecs", "relativeCreated",
   "thread", "threadName", "processName", "process", "taskName", "getMessage", "exc_info",
   "exc_text", "stack_info"]

namespace LogLine

/-- Sets a datum on a line. Under the name of a part of the record it replaces that part,
and under another reserved name it is not shown. -/
def set (line : LogLine) (name : String) (v : Value) : LogLine :=
  match name, v with
  | "name", .text s => { line with logger := s }
  | "levelname", .text s => { line with level := s }
  | "pathname", .text s => { line with origin := line.origin.map ({ · with file := s }) }
  | "lineno", .int n => { line with origin := line.origin.map ({ · with line := n }) }
  | "funcName", .text s =>
      { line with origin := line.origin.map ({ · with function := some s }) }
  | name, v =>
      if name ∈ reservedNames then line else { line with extra := Fields.set name v line.extra }

def setAll (line : LogLine) (data : Record) : LogLine :=
  data.foldl (fun line (name, v) => line.set name v) line

/-- An entry that is left out where there is nothing to show. -/
def entry (name : String) : Option Value → Record
  | some v => [(name, v)]
  | none => []

def exceptionValue (kind message : String) : Value :=
  .record [("type", .text kind), ("message", .text message)]

def originEntries (origin : LogOrigin) : Record :=
  [("file", .text origin.file), ("line", .int origin.line),
   ("function", .ofText? origin.function)]

def toValue (line : LogLine) : Value :=
  .record
    (entry "timestamp" (line.timestamp.map fun t => .text t.text)
      ++ [("level", .text line.level), ("logger", .text line.logger),
          ("message", .text line.message)]
      ++ entry "execution_id" (line.executionId.map .text)
      ++ entry "program" ((nonEmpty? (some line.label)).map .text)
      ++ entry "exception" (line.exception.map fun (kind, m) => exceptionValue kind m)
      ++ (line.origin.map originEntries).getD []
      ++ (if line.extra.isEmpty then [] else [("extra", .record line.extra)]))

def text (line : LogLine) : String := line.toValue.json .line

end LogLine

/-! ### Messages with arguments -/

/-- The whole part of a number or a boolean, as text. -/
def wholeText : Value → String
  | .bool b => toString b.toInt
  | .float (.finite negative units _) =>
      toString (Binary64.signedUnits negative (units / Binary64.unitsPerOne))
  | v => v.display

def argumentText : Value → String
  | .text s => s
  | v => v.display

/-- Puts arguments in the place of marks: `%s` takes a text, `%d` a whole number, and
`%%` stands for the sign itself. -/
def fillMarks : List Char → List Value → List Char
  | '%' :: '%' :: rest, args => '%' :: fillMarks rest args
  | '%' :: 's' :: rest, arg :: args => (argumentText arg).toList ++ fillMarks rest args
  | '%' :: 'd' :: rest, arg :: args => (wholeText arg).toList ++ fillMarks rest args
  | c :: rest, args => c :: fillMarks rest args
  | [], _ => []

/-- The message of a record. Without arguments the text is left as it is. -/
def filledMessage (text : String) (args : List Value) : String :=
  if args.isEmpty then text else String.ofList (fillMarks text.toList args)

/-! ### Lines of an operation -/

def LogRecord.line (entry : LogRecord) (execution : Option (Nat × String)) : LogLine :=
  { timestamp := none
    level := entry.level.spelling
    logger := entry.logger
    message := entry.message
    executionId := execution.map fun (number, _) => "exec-" ++ toString number
    label := (execution.map (·.2)).getD ""
    exception := none
    origin := none
    extra := entry.extra }

/-- What numbering has come to: the lines, the number of the current execution once it
has one, and the next number. -/
structure Numbering where
  lines : List LogLine
  own : Option Nat
  next : Nat

mutual

/-- The lines of an event within the execution of a label. -/
def Event.lines (label : Option String) (own : Option Nat) (next : Nat) : Event → Numbering
  | .log entry =>
      match label with
      | none => ⟨[entry.line none], own, next⟩
      | some l =>
          match own with
          | some k => ⟨[entry.line (some (k, l))], own, next⟩
          | none => ⟨[entry.line (some (next, l))], some next, next + 1⟩
  | .scope l events =>
      let inner := eventLines (some l) none next events
      ⟨inner.lines, own, inner.next⟩
  | .executed _ | .timed | .fired _ | .conflicted _ | .reported .. => ⟨[], own, next⟩

def eventLines (label : Option String) (own : Option Nat) (next : Nat) :
    List Event → Numbering
  | [] => ⟨[], own, next⟩
  | event :: rest =>
      let first := event.lines label own next
      let others := eventLines label first.own first.next rest
      ⟨first.lines ++ others.lines, others.own, others.next⟩

end

end Rulebook
