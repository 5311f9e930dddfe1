import Rulebook.Document.Written
import Rulebook.Proofs.Document.Reading
import Rulebook.Proofs.Value.Reordered

/-!
What is read is written so that it reads back.

`Restored` says of one part of a program that reading what is written for it gives it back. It
holds of everything that is read: of scalars as they are, of a record when it holds of its parts
(each is written under the first of the names that it is looked for), and so of whole programs
(`program_reads_back`). Written documents therefore stay as they are when they are read and
written once more.
-/

namespace Rulebook

open Reader

/-- Reading what is written gives it back. -/
def Restored {α : Type} (read : Reader α) (write : α → Value) (a : α) : Prop :=
  read (write a) = .accepted a

/-! ### Scalars -/

theorem nonEmptyText_text {s : String} (filled : s ≠ "") :
    nonEmptyText (.text s) = .accepted s := by
  simp [nonEmptyText, text, Decoded.check, filled]

/-- What is read as a text that is not empty reads back. -/
theorem always_nonEmptyText (v : Value) : (nonEmptyText v).Always (· ≠ "") := by
  intro s accepted
  simpa using (Decoded.check_eq_accepted_iff.mp accepted).2

@[simp] theorem text_text (s : String) : text (.text s) = .accepted s := rfl

@[simp] theorem optional_ofText? (s : Option String) :
    optional text (.ofText? s) = .accepted s := by
  cases s <;> rfl

@[simp] theorem scalar_toValue (value : Scalar) : scalar value.toValue = .accepted value := by
  cases value <;> rfl

@[simp] theorem amount_toValue (delta : Amount) : amount delta.toValue = .accepted delta := by
  cases delta <;> rfl

section Members

variable {α : Type} {read? : String → Option α} {spelling : α → String}

theorem member_spelling (reads : ∀ a, read? (spelling a) = some a) (a : α) :
    member read? (.text (spelling a)) = .accepted a := by
  simp [member, reads]

theorem optional_member_spelling (reads : ∀ a, read? (spelling a) = some a) (a : Option α) :
    optional (member read?) (.ofText? (a.map spelling)) = .accepted a := by
  cases a with
  | none => rfl
  | some a =>
      show some <$> member read? (.text (spelling a)) = _
      rw [member_spelling reads, Decoded.map_accepted]

end Members

/-! ### Lists and mappings -/

section Lists

variable {α : Type} {read : Reader α} {write : α → Value} {items : List α}

/-- Items are restored one by one, whatever their number in the list. -/
theorem itemsFrom_restored (each : ∀ a ∈ items, Restored read write a) (i : Nat) :
    itemsFrom read i (items.map write) = .accepted items := by
  induction items generalizing i with
  | nil => rfl
  | cons a rest ih =>
      obtain ⟨here, others⟩ := List.forall_mem_cons.mp each
      have first : read (write a) = .accepted a := here
      rw [List.map_cons, itemsFrom, first, ih others]
      rfl

theorem list_restored (each : ∀ a ∈ items, Restored read write a) :
    list read (.list (items.map write)) = .accepted items :=
  itemsFrom_restored each 0

theorem nonEmptyList_restored (filled : items ≠ []) (each : ∀ a ∈ items, Restored read write a) :
    nonEmptyList read (.list (items.map write)) = .accepted items := by
  rw [nonEmptyList, list_restored each]
  simp [Decoded.check, filled]

@[simp] theorem list_texts (items : List String) : list text (.texts items) = .accepted items :=
  list_restored fun s _ => text_text s

end Lists

/-- Entries are restored, and `texts_of_entries` says that nothing else is accepted. -/
theorem entries_of_texts (r : Record) :
    entries (r.map fun (name, v) => (.text name, v)) = .accepted r := by
  induction r with
  | nil => rfl
  | cons entry rest ih =>
      rw [List.map_cons, entries, ih]
      rfl

theorem texts_of_entries {fields : List (Key × Value)} :
    (entries fields).Always fun r => fields = r.map fun (name, v) => (.text name, v) := by
  induction fields with
  | nil => exact Decoded.always_accepted.mpr rfl
  | cons entry rest ih =>
      obtain ⟨k, v⟩ := entry
      unfold entries
      rw [Decoded.always_seq, Decoded.always_map]
      intro s named others read
      rw [List.map_cons, ← ih others read]
      cases k with
      | text t =>
          cases named
          rfl
      | _ => cases named

/-- A mapping is an object with text keys. -/
theorem mapping_eq_accepted_iff {v : Value} {r : Record} :
    mapping v = .accepted r ↔ v = .record r := by
  constructor
  · intro accepted
    cases v with
    | object fields => exact congrArg Value.object (texts_of_entries r accepted)
    | _ => cases accepted
  · rintro rfl
    exact entries_of_texts r

/-! ### Free data -/

namespace Value

/-- Data without numbers that are not finite is written as it is. -/
theorem Portable.written_eq {v : Value} (portable : v.Portable) : v.written = v := by
  induction v using part_induction with
  | step v ih =>
      cases v with
      | float x =>
          have finite : x.isFinite = true := portable.finite.held rfl x rfl
          rw [written, if_pos finite]
      | list items =>
          have each : ∀ w ∈ items, w.written = w := fun w member =>
            ih w (.item member) (portable.part (.item member))
          rw [written, writtenItems_eq, List.map_congr_left each, List.map_id']
      | object fields =>
          have each : ∀ entry ∈ fields, (entry.1, entry.2.written) = entry := fun entry member =>
            Prod.ext rfl (ih entry.2 (.entry member) (portable.part (.entry member)))
          rw [written_object portable.keyed, List.map_congr_left each, List.map_id']
      | _ => rfl

end Value

/-- Free data reads back. -/
theorem always_mapping {v : Value} (portable : v.Portable) :
    (mapping v).Always (Restored mapping .writtenRecord) := by
  intro r accepted
  obtain rfl := mapping_eq_accepted_iff.mp accepted
  show mapping (Value.record r).written = _
  rw [portable.written_eq, accepted]

/-! ### Entities and operands -/

-- A record of known names is read entry by entry.
attribute [local simp] record Value.record required defaulted entry? Fields.get? tag

theorem FieldDecl.always_restored (v : Value) :
    (FieldDecl.read v).Always (Restored FieldDecl.read FieldDecl.toValue) := by
  refine always_record fun fields _ => ?_
  simp only [Decoded.always_seq, Decoded.always_map]
  intro name named type _ units _ description _
  have filled := always_required (fun v _ => always_nonEmptyText v) name named
  simp [Restored, FieldDecl.read, FieldDecl.toValue, nonEmptyText_text filled,
    member_spelling ScalarType.read?_spelling]

theorem Entity.always_restored (v : Value) :
    (Entity.read v).Always (Restored Entity.read Entity.toValue) := by
  refine always_record fun fields _ => ?_
  simp only [Decoded.always_seq, Decoded.always_map]
  intro name named declared accepted description _
  have filled := always_required (fun v _ => always_nonEmptyText v) name named
  have each := always_required (fun _ _ => always_list fun w _ => FieldDecl.always_restored w)
    declared accepted
  simp [Restored, Entity.read, Entity.toValue, nonEmptyText_text filled, list_restored each]

/-- The path of a fact that is read is not empty. -/
theorem FactRef.always_named (fields : List (Key × Value)) :
    (FactRef.readFields fields).Always (·.path ≠ "") := by
  simp only [FactRef.readFields, Decoded.always_seq, Decoded.always_map]
  intro path named units _
  exact always_required (fun v _ => always_nonEmptyText v) path named

theorem FactRef.readFields_written {ref : FactRef} (named : ref.path ≠ "") :
    FactRef.readFields [(.text "kind", .text "fact"), (.text "path", .text ref.path),
      (.text "units", .ofText? ref.units)] = .accepted ref := by
  simp [FactRef.readFields, nonEmptyText_text named]

theorem FactRef.restored {ref : FactRef} (named : ref.path ≠ "") :
    Restored FactRef.read FactRef.toValue ref := by
  simp [Restored, FactRef.read, FactRef.toValue, FactRef.readFields_written named]

theorem FactRef.always_restored (v : Value) :
    (FactRef.read v).Always (Restored FactRef.read FactRef.toValue) := by
  refine always_record fun fields _ => ?_
  simp only [Decoded.always_seq, Decoded.always_map]
  intro _ _ ref accepted
  exact FactRef.restored (FactRef.always_named fields ref accepted)

/-- What holds of facts and of literals holds of what is read as an operand. -/
theorem Operand.always_read {holds : Operand → Prop}
    (fact : ∀ ref : FactRef, ref.path ≠ "" → holds (.fact ref))
    (literal : ∀ value units, holds (.literal value units)) (v : Value) :
    (Operand.read v).Always holds := by
  cases v with
  | object fields =>
      rw [Operand.read]
      split
      · exact Decoded.always_refused
      · rw [Decoded.always_within, Decoded.always_map]
        intro ref accepted
        exact fact ref (FactRef.always_named fields ref accepted)
      · simp only [Operand.readLiteral, Decoded.always_within, Decoded.always_seq,
          Decoded.always_map]
        intro value _ units _
        exact literal value units
      · exact Decoded.always_refused
  | _ => exact Decoded.always_refused

/-- Operands are restored, a literal with its units. -/
theorem Operand.always_restored :
    ∀ v : Value, (Operand.read v).Always (Restored Operand.read Operand.toValue) := by
  refine Operand.always_read ?_ ?_
  · intro ref named
    simp [Restored, Operand.read, Operand.toValue, FactRef.toValue,
      FactRef.readFields_written named]
  · intro value units
    simp [Restored, Operand.read, Operand.readLiteral, Operand.toValue]

/-! ### Conditions -/

namespace Condition

theorem toValues_eq (conditions : List Condition) :
    toValues conditions = conditions.map toValue := by
  induction conditions with
  | nil => rfl
  | cons c rest ih => rw [toValues, ih, List.map_cons]

theorem parts_restored {parts : List Condition} (filled : parts ≠ [])
    (each : ∀ c ∈ parts, Restored read toValue c) :
    nonEmptyList read (.list (toValues parts)) = .accepted parts := by
  rw [toValues_eq, nonEmptyList_restored filled each]

/-- Conditions of all kinds read back. -/
theorem carried_restored : Carried (Restored read toValue) where
  compare fields := by
    rw [readCompare, Decoded.always_seq, Decoded.always_seq, Decoded.always_map]
    intro lhs left operator _ rhs right
    have left := always_required (fun v _ => Operand.always_restored v) lhs left
    have right := always_required (fun v _ => Operand.always_restored v) rhs right
    unfold Restored at left right
    simp [Restored, read, toValue, ConditionKind.read?, readCompare, left, right,
      member_spelling Operator.read?_spelling]
  present fields := by
    rw [readPresent, Decoded.always_map]
    intro fact accepted
    have back := always_required (fun v _ => FactRef.always_restored v) fact accepted
    unfold Restored at back
    simp [Restored, read, toValue, ConditionKind.read?, readPresent, back]
  oneOf fields := by
    rw [readOneOf, Decoded.always_seq, Decoded.always_map]
    intro value read? options accepted
    have back := always_required (fun v _ => Operand.always_restored v) value read?
    unfold Restored at back
    have each := always_required (fun v _ => always_nonEmptyList fun w _ =>
      Operand.always_restored w) options accepted
    simp [Restored, read, toValue, ConditionKind.read?, readOneOf, back,
      nonEmptyList_restored each.1 each.2]
  matching fields := by
    rw [readMatching, Decoded.always_seq, Decoded.always_seq, Decoded.always_map]
    intro value accepted pattern _ ignoreCase _
    have back := always_required (fun v _ => Operand.always_restored v) value accepted
    unfold Restored at back
    simp [Restored, read, toValue, ConditionKind.read?, readMatching, Reader.bool, back]
  all parts filled each := by
    simp [Restored, read, toValue, ConditionKind.read?, readParts_eq, parts_restored filled each]
  any parts filled each := by
    simp [Restored, read, toValue, ConditionKind.read?, readParts_eq, parts_restored filled each]
  not part back := by
    unfold Restored at back
    simp [Restored, read, toValue, ConditionKind.read?, readPart_eq, back]

theorem always_restored (v : Value) : (read v).Always (Restored read toValue) :=
  carried_restored.always v

end Condition

/-! ### Actions -/

namespace Action

variable {v : Value}

/-- What each kind's reader guarantees holds of every action that is read. -/
theorem always_read {holds : Action → Prop}
    (set : ∀ fields, (readSet fields).Always holds)
    (increment : ∀ fields, (readIncrement fields).Always holds)
    (append : ∀ fields, (readAppend fields).Always holds)
    (emit : ∀ fields, v = .object fields → (readEmit fields).Always holds)
    (route : ∀ fields, (readRoute fields).Always holds) : (read v).Always holds := by
  cases v with
  | object fields =>
      rw [read]
      split
      · exact Decoded.always_refused
      · exact Decoded.always_within.mpr (set fields)
      · exact Decoded.always_within.mpr (increment fields)
      · exact Decoded.always_within.mpr (append fields)
      · exact Decoded.always_within.mpr (emit fields rfl)
      · exact Decoded.always_within.mpr (route fields)
      · exact Decoded.always_refused
  | _ => exact Decoded.always_refused

/-- An action reads back; the payload of an event has to be data that a document can hold. -/
theorem always_restored (portable : v.Portable) : (read v).Always (Restored read toValue) := by
  refine always_read ?_ ?_ ?_ ?_ ?_
  · intro fields
    simp only [readSet, Decoded.always_seq, Decoded.always_map]
    intro target named value accepted
    have filled := always_required (fun v _ => always_nonEmptyText v) target named
    have back := always_required (fun v _ => Operand.always_restored v) value accepted
    unfold Restored at back
    simp [Restored, read, toValue, readSet, nonEmptyText_text filled, back]
  · intro fields
    simp only [readIncrement, Decoded.always_seq, Decoded.always_map]
    intro target named delta _
    have filled := always_required (fun v _ => always_nonEmptyText v) target named
    simp [Restored, read, toValue, readIncrement, nonEmptyText_text filled]
  · intro fields
    simp only [readAppend, Decoded.always_seq, Decoded.always_map]
    intro target named value accepted
    have filled := always_required (fun v _ => always_nonEmptyText v) target named
    have back := always_required (fun v _ => Operand.always_restored v) value accepted
    unfold Restored at back
    simp [Restored, read, toValue, readAppend, nonEmptyText_text filled, back]
  · -- The payload of an event is a document itself, so it has to be portable.
    rintro fields rfl
    simp only [readEmit, Decoded.always_seq, Decoded.always_map]
    intro event named payload accepted
    have filled := always_required (fun v _ => always_nonEmptyText v) event named
    have none : Restored mapping .writtenRecord [] := rfl
    have back := always_defaulted none (fun w part => always_mapping (portable.part part))
      payload accepted
    unfold Restored at back
    simp [Restored, read, toValue, readEmit, nonEmptyText_text filled, back]
  · intro fields
    simp only [readRoute, Decoded.always_seq, Decoded.always_map]
    intro queue named reason _
    have filled := always_required (fun v _ => always_nonEmptyText v) queue named
    simp [Restored, read, toValue, readRoute, nonEmptyText_text filled]

/-- A list of actions, which may be left out. -/
theorem always_defaulted_restored {names : List String} {fields : List (Key × Value)}
    (portable : ∀ v : Value, v.Part (.object fields) → v.Portable) :
    (defaulted names [] (list read) fields).Always fun actions =>
      ∀ action ∈ actions, Restored read toValue action :=
  always_defaulted (by simp) fun v part =>
    always_list fun _ inner => always_restored ((portable v part).part inner)

end Action

/-! ### Rules, constraints, examples -/

/-- The entries of a lifted rule are entries of the rule. -/
theorem Rule.part_of_lifted {fields : List (Key × Value)} {v : Value}
    (part : v.Part (.object (liftActions fields))) : v.Part (.object fields) := by
  unfold liftActions at part
  split at part
  · exact part
  · split at part
    · rename_i actions found
      cases part with
      | entry member =>
          rcases List.mem_append.mp member with kept | lifted
          · exact .entry (List.mem_of_mem_filter kept)
          · cases List.mem_singleton.mp lifted
            exact .of_get? found
    · exact part

theorem Rule.always_restored {v : Value} (portable : v.Portable) :
    (Rule.read v).Always (Restored Rule.read Rule.toValue) := by
  refine always_record fun fields same => ?_
  have lifted : ∀ w : Value, w.Part (.object (liftActions fields)) → w.Portable := fun w part =>
    portable.part (same ▸ part_of_lifted part)
  simp only [Rule.readFields, Decoded.always_seq, Decoded.always_map]
  intro id named name _ description _ tags _ priority _ mode _ condition accepted thenActions done
    elseActions other stopProcessing _
  have filled := always_required (fun v _ => always_nonEmptyText v) id named
  have back := always_required (fun v _ => Condition.always_restored v) condition accepted
  unfold Restored at back
  have thenBack := Action.always_defaulted_restored lifted thenActions done
  have elseBack := Action.always_defaulted_restored lifted elseActions other
  simp [Restored, Rule.read, Rule.toValue, Rule.readFields, liftActions, Fields.has, Reader.int,
    Reader.bool, nonEmptyText_text filled, optional_member_spelling EvaluationMode.read?_spelling,
    back,
    list_restored thenBack, list_restored elseBack]

theorem Constraint.always_restored (v : Value) :
    (Constraint.read v).Always (Restored Constraint.read Constraint.toValue) := by
  refine always_record fun fields _ => ?_
  simp only [Decoded.always_seq, Decoded.always_map]
  intro id named description _ assertion accepted severity _
  have filled := always_required (fun v _ => always_nonEmptyText v) id named
  have back := always_required (fun v _ => Condition.always_restored v) assertion accepted
  unfold Restored at back
  simp [Restored, Constraint.read, Constraint.toValue, nonEmptyText_text filled, back,
    member_spelling Severity.read?_spelling]

theorem Example.always_restored {v : Value} (portable : v.Portable) :
    (Example.read v).Always (Restored Example.read Example.toValue) := by
  refine always_record fun fields same => ?_
  subst same
  have none : Restored mapping .writtenRecord [] := rfl
  have data := fun (v : Value) part => always_mapping (portable.part (v := v) part)
  simp only [Decoded.always_seq, Decoded.always_map]
  intro id named description _ input given expected wanted
  have filled := always_required (fun v _ => always_nonEmptyText v) id named
  have inputBack := always_defaulted none data input given
  have expectedBack := always_defaulted none data expected wanted
  unfold Restored at inputBack expectedBack
  simp [Restored, Example.read, Example.toValue, nonEmptyText_text filled, inputBack, expectedBack]

theorem ProgramConfig.restored (config : ProgramConfig) :
    Restored ProgramConfig.read ProgramConfig.toValue config := by
  simp [Restored, ProgramConfig.read, ProgramConfig.toValue,
    member_spelling EvaluationMode.read?_spelling]

theorem optional_config (config : Option ProgramConfig) :
    optional ProgramConfig.read ((config.map ProgramConfig.toValue).getD .null) =
      .accepted config := by
  cases config with
  | none => rfl
  | some config =>
      show some <$> ProgramConfig.read config.toValue = _
      rw [config.restored, Decoded.map_accepted]

/-- Every program that is read from a portable document is restored. -/
theorem Program.always_restored {v : Value} (portable : v.Portable) :
    (Program.read v).Always (Restored Program.read Program.toValue) := by
  refine always_record fun fields same => ?_
  subst same
  simp only [Decoded.always_seq, Decoded.always_map]
  intro domain _ description _ entities declared rules ruled constraints constrained examples shown
    config _
  have entitiesBack := always_defaulted (by simp)
    (fun _ _ => always_list fun w _ => Entity.always_restored w) entities declared
  have rulesBack := always_defaulted (by simp)
    (fun _ part => always_list fun _ inner =>
      Rule.always_restored ((portable.part part).part inner))
    rules ruled
  have constraintsBack := always_defaulted (by simp)
    (fun _ _ => always_list fun w _ => Constraint.always_restored w) constraints constrained
  have examplesBack := always_defaulted (by simp)
    (fun _ part => always_list fun _ inner =>
      Example.always_restored ((portable.part part).part inner))
    examples shown
  simp [Restored, Program.read, Program.toValue, member_spelling ProgramDomain.read?_spelling,
    list_restored entitiesBack, list_restored rulesBack, list_restored constraintsBack,
    list_restored examplesBack, optional_config]

/-! ### Reading and writing -/

/-- A document as it is written after it was read. -/
def Program.rewritten (document : Value) : Decoded Value :=
  Program.toValue <$> Program.read document

/-- The program that a document is read as reads back from what is written for it, so a rewritten
document is rewritten as it is. -/
theorem program_reads_back (document : Value) (portable : document.Portable) :
    (∀ program, Program.read document = .accepted program →
      Program.read program.toValue = .accepted program) ∧
    ∀ written, Program.rewritten document = .accepted written →
      Program.rewritten written = .accepted written := by
  have back := Program.always_restored portable
  refine ⟨back, fun written rewritten => ?_⟩
  unfold Program.rewritten at rewritten ⊢
  cases read : Program.read document with
  | refused ps =>
      rw [read] at rewritten
      cases rewritten
  | accepted program =>
      rw [read, Decoded.map_accepted] at rewritten
      cases rewritten
      rw [show Program.read program.toValue = _ from back program read, Decoded.map_accepted]

/-- A thermostat in the older spellings, with data of all kinds. -/
def thermostatDocument : Value :=
  .record
    [("description", .null),
     ("rules", .list [.record
       [("id", .text "cool"), ("name", .text ""), ("mode", .text "first"),
        ("when", .record
          [("kind", .text "and"),
           ("conditions", .list
             [.record
               [("kind", .text "comparison"), ("operator", .text ">"),
                ("lhs", .record [("kind", .text "fact"), ("path", .text "room.heat")]),
                ("rhs", .record
                  [("kind", .text "value"), ("value", .float (.ofDecimal false 215 (-1)))])],
              .record
               [("kind", .text "not"),
                ("condition", .record
                  [("kind", .text "exists"),
                   ("fact", .record [("path", .text "room.vacant"), ("units", .null)])])]])]),
        ("actions", .list
          [.record
            [("kind", .text "increment"), ("target", .text "fan.speed"), ("numericDelta", .int 2)],
           .record
            [("kind", .text "emit"), ("eventName", .text "cooling"),
             ("payload", .record [("zones", .list [.int 1, .bool true, .null])])]])]]),
     ("config", .record [("rule_evaluation", .text "all")])]

/-- The sample document holds no value that is not portable. -/
theorem thermostatDocument_portable : thermostatDocument.Portable := by
  have finite : (Binary64.ofDecimal false 215 (-1)).isFinite = true := by decide +kernel
  constructor
  · simp [-Value.record, thermostatDocument]
    and_intros <;> exact .scalar rfl
  · simp [-Value.record, thermostatDocument, Value.Finite]
    and_intros <;> exact .scalar rfl (by simp [finite])

/-- The rule of the thermostat, every part of it in its present spelling. -/
def thermostat : Program where
  domain := .businessRules
  description := none
  entities := []
  rules :=
    [{ id := "cool", name := "", description := none, tags := [], priority := 0,
       mode := some .firstMatch,
       condition := .all
         [.compare (.fact ⟨"room.heat", none⟩) .greater
            (.literal (.float (.ofDecimal false 215 (-1))) none),
          .not (.present ⟨"room.vacant", none⟩)],
       thenActions :=
         [.increment "fan.speed" (.int 2),
          .emit "cooling" [("zones", .list [.int 1, .bool true, .null])]],
       elseActions := [], stopProcessing := false }]
  constraints := []
  examples := []
  config := some ⟨.allMatches⟩

theorem thermostat_reads_back :
    Program.read thermostatDocument = .accepted thermostat ∧
      Program.read thermostat.toValue = .accepted thermostat ∧
      Program.rewritten thermostat.toValue = .accepted thermostat.toValue := by
  have read : Program.read thermostatDocument = .accepted thermostat := by rfl
  obtain ⟨back, rewritten⟩ := program_reads_back _ thermostatDocument_portable
  refine ⟨read, back _ read, rewritten _ ?_⟩
  rw [Program.rewritten, read, Decoded.map_accepted]

end Rulebook
