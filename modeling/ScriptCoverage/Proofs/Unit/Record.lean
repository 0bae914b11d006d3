import Mathlib.Data.List.Forall2
import ScriptCoverage.Report.Basic
import ScriptCoverage.Unit.Record

/-!
# Histories of a record

Whoever holds a record may give its fields values and count executions, in any order. `UnitRecord.Act` is one such
act and `UnitRecord.after` a whole history; what an act can do to a record is said once, in `UnitRecord.act_cases`.

No history reaches the identity of a unit: its description names the id and the range that the unit was made with
(`UnitRecord.described_identity`), and it equals no unit of another identity (`UnitRecord.same_identity`). A history
that gives values to no field of the unit's own leaves a record that answers for the plain unit, counted as often as
the history counts (`UnitRecord.after_answers`), and the plain unit's description is its record in a JSON report
(`CoverableUnit.toJson_eq_description`). A run gives no field anything, so plain units stand for its records.
-/

namespace ScriptCoverage

/-- How a value stands in a JSON document. -/
inductive Json.Writes : Value → Json → Prop where
  | bool (b : Bool) : Writes (.bool b) (.bool b)
  | int (i : Int) : Writes (.int i) (.int i)
  | text (s : String) : Writes (.text s) (.text s)
  | list {items : List Value} {documents : List Json} : List.Forall₂ Writes items documents →
      Writes (.list items) (.list documents)

namespace CoverableUnit

/-- The entries that describe a unit. -/
def description (u : CoverableUnit) : List (String × Value) :=
  [("id", .int u.id), ("kind", .text u.kind.name), ("syntax", .text u.shape.name),
    ("range", .list [.int u.start, .int u.stop]), ("expression", .bool u.isExpression),
    ("execution_count", .int u.executionCount), ("code", .text (String.ofList u.code))]

/-- The record of a unit in a JSON report is its description, entry by entry. -/
theorem toJson_eq_description (u : CoverableUnit) : ∃ members, u.toJson = .record members ∧
    List.Forall₂ (fun entry member => entry.1 = member.1 ∧ Json.Writes entry.2 member.2) u.description members := by
  refine ⟨_, rfl, ?_⟩
  have hrange : Json.Writes (.list [.int u.start, .int u.stop]) (.list [.int u.start, .int u.stop]) :=
    .list (.cons (.int _) (.cons (.int _) .nil))
  exact .cons ⟨rfl, .int _⟩ <| .cons ⟨rfl, .text _⟩ <| .cons ⟨rfl, .text _⟩ <| .cons ⟨rfl, hrange⟩ <|
    .cons ⟨rfl, .bool _⟩ <| .cons ⟨rfl, .int _⟩ <| .cons ⟨rfl, .text _⟩ .nil

theorem same_iff {u v : CoverableUnit} :
    u.same v = true ↔ u.id = v.id ∧ u.start = v.start ∧ u.stop = v.stop ∧ u.kind = v.kind ∧ u.shape = v.shape ∧
      u.isExpression = v.isExpression ∧ u.code = v.code := by
  simp [same]

end CoverableUnit

namespace UnitRecord

/-- What the holder of a record does with it. -/
inductive Act where
  | assign (field : String) (value : Value)
  | count

/-- An act that fails leaves the record as it is. -/
def act (r : UnitRecord) : Act → UnitRecord
  | .assign field value => (r.assign field value).toOption.getD r
  | .count => r.countExecution.toOption.getD r

def after (r : UnitRecord) (acts : List Act) : UnitRecord := acts.foldl act r

@[simp] theorem after_nil (r : UnitRecord) : r.after [] = r := rfl

@[simp] theorem after_cons (r : UnitRecord) (a : Act) (acts : List Act) : r.after (a :: acts) = (r.act a).after acts :=
  rfl

/-! ## Identity -/

/-- All that an act can do: it fails, gives a field that is neither fixed nor derived a value, or counts. -/
theorem act_cases (r : UnitRecord) (a : Act) :
    r.act a = r ∨
    (∃ field value, a = .assign field value ∧ field ∉ fixedFields ∧ field ∉ derivedFields ∧
      r.act a = { r with given := r.given.insert (.text field) value }) ∨
    (∃ value, a = .count ∧ r.executionCount.successor = .ok value ∧
      r.act a = { r with given := r.given.insert (.text "execution_count") value }) := by
  cases a with
  | assign field value =>
    by_cases hfixed : field ∈ fixedFields
    · exact .inl (by simp [act, assign, hfixed, Except.toOption])
    · by_cases hderived : field ∈ derivedFields
      · exact .inl (by simp [act, assign, hfixed, hderived, Except.toOption])
      · refine .inr (.inl ⟨field, value, rfl, hfixed, hderived, ?_⟩)
        simp [act, assign, hfixed, hderived, Except.toOption]
  | count =>
    by_cases htaken : (r.given.get? "count_execution").isSome = true
    · exact .inl (by simp [act, countExecution, htaken, Except.toOption])
    · cases hnext : r.executionCount.successor with
      | error fault =>
        exact .inl (by simp [act, countExecution, htaken, hnext, bind, Except.bind, Except.toOption])
      | ok value =>
        refine .inr (.inr ⟨value, rfl, rfl, ?_⟩)
        simp [act, countExecution, htaken, hnext, bind, Except.bind, pure, Except.pure, Except.toOption]

@[simp] theorem unit_act (r : UnitRecord) (a : Act) : (r.act a).unit = r.unit := by
  obtain h | ⟨_, _, _, _, _, h⟩ | ⟨_, _, _, h⟩ := r.act_cases a <;> rw [h]

/-- Nothing that is done with a record changes its unit. -/
@[simp] theorem unit_after (r : UnitRecord) (acts : List Act) : (r.after acts).unit = r.unit := by
  induction acts generalizing r with
  | nil => rfl
  | cons a acts ih => rw [after_cons, ih, unit_act]

theorem describe_ok {r : UnitRecord} {entries : List (String × Value)} (h : r.describe = .ok entries) :
    ∃ kind shape, entries =
      [("id", .int r.unit.id), ("kind", kind), ("syntax", shape),
        ("range", .list [.int r.unit.start, .int r.unit.stop]), ("expression", r.isExpression),
        ("execution_count", r.executionCount), ("code", r.code)] := by
  unfold describe at h
  split at h
  · cases h
  · cases hkind : r.nameOf "kind" r.kind with
    | error fault => simp [hkind, bind, Except.bind] at h
    | ok kind =>
      cases hshape : r.nameOf "syntax" r.shape with
      | error fault => simp [hkind, hshape, bind, Except.bind] at h
      | ok shape =>
        simp only [hkind, hshape, bind, Except.bind, pure, Except.pure, Except.ok.injEq] at h
        exact ⟨kind, shape, h.symm⟩

/-- Whatever is done with a record, its description has the id and the range of the unit as it was made. -/
theorem described_identity {r : UnitRecord} {acts : List Act} {entries : List (String × Value)}
    (h : (r.after acts).describe = .ok entries) :
    entries.lookup "id" = some (.int r.unit.id) ∧
      entries.lookup "range" = some (.list [.int r.unit.start, .int r.unit.stop]) := by
  obtain ⟨kind, shape, rfl⟩ := describe_ok h
  rw [unit_after]
  exact ⟨rfl, rfl⟩

/-- Whatever is done with a record, it equals only units of the identity that its own was made with. -/
theorem same_identity {r : UnitRecord} {acts : List Act} {v : CoverableUnit} (h : (r.after acts).same v = true) :
    r.unit.id = v.id ∧ r.unit.start = v.start ∧ r.unit.stop = v.stop := by
  simp only [same, unit_after, Bool.and_eq_true, beq_iff_eq] at h
  obtain ⟨⟨⟨⟨⟨⟨hid, hstart⟩, hstop⟩, -⟩, -⟩, -⟩, -⟩ := h
  exact ⟨hid, hstart, hstop⟩

/-! ## Plain units -/

/-- The fields of a unit that can be given, and its steps. -/
def ownNames : List String :=
  ["kind", "syntax", "is_expression", "source_slice", "execution_count", "count_execution", "to_dict"]

/-- The record is that of the unit, and of the unit's own fields only the count was given. -/
structure StandsFor (r : UnitRecord) (u : CoverableUnit) : Prop where
  unit : u = { r.unit with executionCount := u.executionCount }
  count : r.executionCount = .int u.executionCount
  given : ∀ name ∈ ownNames, name ≠ "execution_count" → r.given.get? name = none

/-- A record answers as the unit does. -/
structure AnswersAs (r : UnitRecord) (u : CoverableUnit) : Prop where
  executed : r.executed = .ok u.executed
  opensWithDelimiter : r.opensWithDelimiter = u.opensWithDelimiter
  same : ∀ v, r.same v = u.same v
  described : r.describe = .ok u.description

theorem get?_insert_of_ne {given : Mapping Value} {field name : String} {value : Value} (h : field ≠ name) :
    Mapping.get? (given.insert (.text field) value) name = given.get? name := by
  have hkey : (Scalar.text field).key ≠ (Scalar.text name).key := by simpa [Scalar.key] using h
  rw [Mapping.get?, Mapping.find?_insert, if_neg hkey, Mapping.get?]

theorem get?_insert_self {given : Mapping Value} {field : String} {value : Value} :
    Mapping.get? (given.insert (.text field) value) field = some value := by
  rw [Mapping.get?, Mapping.find?_insert, if_pos rfl]

theorem standsFor_unit (u : CoverableUnit) : StandsFor { unit := u } u where
  unit := rfl
  count := rfl
  given _ _ _ := rfl

/-- A field that is none of the unit's own can be given without a trace. -/
theorem StandsFor.assign {r : UnitRecord} {u : CoverableUnit} {field : String} (value : Value)
    (h : StandsFor r u) (hfield : field ∉ ownNames) : StandsFor (r.act (.assign field value)) u := by
  obtain hact | ⟨_, _, ha, _, _, hact⟩ | ⟨_, ha, _, _⟩ := r.act_cases (.assign field value)
  · rw [hact]
    exact h
  · cases ha
    have hne {name : String} (hname : name ∈ ownNames) : field ≠ name := fun heq => hfield (heq ▸ hname)
    rw [hact]
    refine ⟨h.unit, ?_, fun name hname hcount => ?_⟩
    · rw [executionCount, UnitRecord.field, get?_insert_of_ne (hne (by decide))]
      exact h.count
    · rw [get?_insert_of_ne (hne hname)]
      exact h.given name hname hcount
  · cases ha

/-- Counting never fails for a record that stands for a unit. -/
theorem StandsFor.count_act {r : UnitRecord} {u : CoverableUnit} (h : StandsFor r u) :
    StandsFor (r.act .count) u.countExecution := by
  have hfree : r.given.get? "count_execution" = none := h.given _ (by decide) (by decide)
  have hact : r.act .count =
      { r with given := r.given.insert (.text "execution_count") (.int (u.executionCount + 1)) } := by
    simp [act, countExecution, hfree, h.count, Value.successor, bind, Except.bind, pure, Except.pure, Except.toOption]
  rw [hact]
  refine ⟨?_, ?_, fun name hname hcount => ?_⟩
  · have hunit := h.unit
    simp only [CoverableUnit.countExecution]
    rw [hunit]
  · rw [executionCount, UnitRecord.field, get?_insert_self]
    rfl
  · rw [get?_insert_of_ne (Ne.symm hcount)]
    exact h.given name hname hcount

def Act.isCount : Act → Bool
  | .count => true
  | .assign _ _ => false

/-- An act gives a value to no field of the unit's own. -/
def Act.Foreign : Act → Prop
  | .count => True
  | .assign field _ => field ∉ ownNames

theorem StandsFor.after {r : UnitRecord} {u : CoverableUnit} {acts : List Act} (h : StandsFor r u)
    (hacts : ∀ a ∈ acts, a.Foreign) :
    StandsFor (r.after acts) { u with executionCount := u.executionCount + acts.countP Act.isCount } := by
  induction acts generalizing r u with
  | nil => simpa using h
  | cons a acts ih =>
    obtain ⟨ha, hrest⟩ := List.forall_mem_cons.1 hacts
    cases a with
    | assign field value =>
      have hstep := ih (h.assign value ha) hrest
      simpa [List.countP_cons, Act.isCount] using hstep
    | count =>
      have hstep := ih h.count_act hrest
      have hcount : u.executionCount + 1 + (acts.countP Act.isCount : Int) =
          u.executionCount + ((acts.countP Act.isCount + 1 : Nat) : Int) := by omega
      simpa [List.countP_cons, Act.isCount, CoverableUnit.countExecution, hcount] using hstep

/-- The value of a field that was not given is the unit's own. -/
theorem StandsFor.field_eq {r : UnitRecord} {u : CoverableUnit} (h : StandsFor r u) {name : String}
    (hname : name ∈ ownNames) (hcount : name ≠ "execution_count") (own : Scalar) :
    r.field name own = .scalar own := by
  rw [field, h.given name hname hcount, Option.getD_none]

theorem StandsFor.fields {r : UnitRecord} {u : CoverableUnit} (h : StandsFor r u) :
    r.kind = .text r.unit.kind.name ∧ r.shape = .text r.unit.shape.name ∧
      r.isExpression = .bool r.unit.isExpression ∧ r.code = .text (String.ofList r.unit.code) :=
  ⟨h.field_eq (by decide) (by decide) _, h.field_eq (by decide) (by decide) _,
    h.field_eq (by decide) (by decide) _, h.field_eq (by decide) (by decide) _⟩

theorem StandsFor.nameOf_eq {r : UnitRecord} {u : CoverableUnit} (h : StandsFor r u) {name : String}
    (hname : name ∈ ownNames) (hcount : name ≠ "execution_count") (own : Value) : r.nameOf name own = .ok own := by
  simp only [nameOf, h.given name hname hcount]

theorem StandsFor.same_eq {r : UnitRecord} {u : CoverableUnit} (h : StandsFor r u) (v : CoverableUnit) :
    r.same v = u.same v := by
  obtain ⟨hkind, hshape, hexpression, hcode⟩ := h.fields
  rw [Bool.eq_iff_iff, h.unit, CoverableUnit.same_iff]
  simp only [same, hkind, hshape, hexpression, hcode, Value.equals, Scalar.key, Bool.and_eq_true, beq_iff_eq,
    Scalar.text.injEq, Scalar.int.injEq, UnitKind.name_inj, NodeKind.name_inj, String.ofList_inj]
  cases r.unit.isExpression <;> cases v.isExpression <;> simp [and_assoc]

theorem StandsFor.describe_eq {r : UnitRecord} {u : CoverableUnit} (h : StandsFor r u) :
    r.describe = .ok u.description := by
  have hown : (r.given.get? "to_dict").isSome = false := by rw [h.given _ (by decide) (by decide)]; rfl
  obtain ⟨hkind, hshape, hexpression, hcode⟩ := h.fields
  have hkindName : r.nameOf "kind" r.kind = .ok r.kind := h.nameOf_eq (by decide) (by decide) _
  have hshapeName : r.nameOf "syntax" r.shape = .ok r.shape := h.nameOf_eq (by decide) (by decide) _
  rw [hkind] at hkindName
  rw [hshape] at hshapeName
  rw [h.unit]
  simp only [describe, hown, hkind, hkindName, hshape, hshapeName, hexpression, hcode, h.count, bind, Except.bind,
    pure, Except.pure, Bool.false_eq_true, if_false, CoverableUnit.description]

theorem StandsFor.answersAs {r : UnitRecord} {u : CoverableUnit} (h : StandsFor r u) : AnswersAs r u where
  executed := by
    simp only [executed, h.count, Value.isPositive?, CoverableUnit.executed]
  opensWithDelimiter := by
    rw [opensWithDelimiter, h.given "syntax" (by decide) (by decide), h.unit]
    rfl
  same := h.same_eq
  described := h.describe_eq

/-- After a history that gives no field of the unit's own a value, a record answers as its unit does, counted once
for each count of the history. -/
theorem after_answers (u : CoverableUnit) {acts : List Act} (h : ∀ a ∈ acts, a.Foreign) :
    AnswersAs (after { unit := u } acts)
      { u with executionCount := u.executionCount + acts.countP Act.isCount } :=
  ((standsFor_unit u).after h).answersAs

end UnitRecord

end ScriptCoverage
