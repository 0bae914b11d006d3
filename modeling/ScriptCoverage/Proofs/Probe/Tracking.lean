import ScriptCoverage.Probe.Tracker

/-!
# What tracking does to a registry

A call of the probe with an argument that names a unit counts that unit; any other call counts nothing and
leaves a violation, if none is pending and the argument can be written (`Registry.violation?`). `Tracker.trackAll`
makes calls one after the other: `trackAll_units` says what every unit has counted after them, `trackAll_violation`
which violation is pending.
-/

namespace ScriptCoverage

/-- Whether a probe argument names the unit at a position: it is that integer, or a number equal to it. -/
def Value.namesUnit (position : Nat) : Value → Bool
  | .int i => decide (i = position)
  | .float x => decide (x.toInt? = some (position : Int))
  | _ => false

namespace Registry

/-- Whether a probe argument names a unit of the registry. -/
def knows (r : Registry) (argument : Value) : Bool := (r.position? (Tracker.idOf argument)).isSome

/-- The violation that a call leaves, if it leaves one. -/
def violation? (r : Registry) (argument : Value) : Option UnknownUnit :=
  if r.knows argument then none else (r.refusal (Tracker.idOf argument)).unknownUnit?

theorem position?_eq_some {r : Registry} {id : Value} {position : Nat} :
    r.position? id = some position ↔ id = .int position ∧ position < r.size := by
  unfold position?
  split
  · rename_i i
    split
    · rename_i h
      simp only [Option.some.injEq, Value.scalar.injEq, Scalar.int.injEq]
      omega
    · rename_i h
      simp only [Value.scalar.injEq, Scalar.int.injEq, reduceCtorEq, false_iff]
      omega
  · rename_i h
    simp only [reduceCtorEq, false_iff]
    rintro ⟨rfl, -⟩
    exact h _ rfl

theorem position?_of_size {r s : Registry} (h : r.size = s.size) (id : Value) : r.position? id = s.position? id := by
  unfold position?
  rw [h]

theorem knows_of_size {r s : Registry} (h : r.size = s.size) (argument : Value) :
    r.knows argument = s.knows argument := by
  unfold knows
  rw [position?_of_size h]

theorem refusal_of_size {r s : Registry} (h : r.size = s.size) (id : Value) : r.refusal id = s.refusal id := by
  unfold refusal
  rw [h]

theorem violation?_of_size {r s : Registry} (h : r.size = s.size) (argument : Value) :
    r.violation? argument = s.violation? argument := by
  unfold violation?
  rw [knows_of_size h, refusal_of_size h]

/-- A refusal is worded exactly if the id can be written. -/
theorem unknownUnit?_refusal (r : Registry) (id : Value) :
    (r.refusal id).unknownUnit? = if id.isWritable then some ⟨id.literal, r.size⟩ else none := by
  unfold refusal Value.checkedLiteral
  cases id.isWritable <;> rfl

@[simp] theorem size_count (r : Registry) (position : Nat) : (r.count position).size = r.size := by
  simp [count, size]

end Registry

namespace Tracker

theorem idOf_eq_int {argument : Value} {position : Nat} :
    idOf argument = .int position ↔ argument.namesUnit position = true := by
  unfold idOf Value.namesUnit
  split
  · rename_i x
    cases hx : x.toInt? with
    | none => simp [hx]
    | some i => simp [hx]
  · rename_i v hv
    split
    · simp
    · rename_i x
      exact absurd rfl (hv x)
    · rename_i hi _
      simp only [Bool.false_eq_true, iff_false]
      rintro rfl
      exact hi _ rfl

/-- What is known of a registry depends on its size alone. -/
theorem knows_iff {r : Registry} {argument : Value} :
    r.knows argument = true ↔ ∃ position < r.size, argument.namesUnit position = true := by
  simp only [Registry.knows, Option.isSome_iff_exists, Registry.position?_eq_some, idOf_eq_int]
  constructor
  · rintro ⟨position, hn, hlt⟩; exact ⟨position, hlt, hn⟩
  · rintro ⟨position, hlt, hn⟩; exact ⟨position, hn, hlt⟩

/-! ## One call -/

theorem track_known {t : Tracker} {argument : Value} (h : t.registry.knows argument = true) :
    ∃ position < t.registry.size, argument.namesUnit position = true ∧
      t.track argument = (.ok (), { t with registry := t.registry.count position }) := by
  obtain ⟨position, hp⟩ := Option.isSome_iff_exists.1 h
  obtain ⟨hid, hlt⟩ := Registry.position?_eq_some.1 hp
  exact ⟨position, hlt, idOf_eq_int.1 hid, by simp only [track, hp]⟩

theorem track_unknown {t : Tracker} {argument : Value} (h : t.registry.knows argument = false) :
    t.track argument = (.error (t.registry.refusal (idOf argument)),
      { t with violation := t.violation.or (t.registry.refusal (idOf argument)).unknownUnit? }) := by
  have hp : t.registry.position? (idOf argument) = none := by simpa [Registry.knows] using h
  simp only [track, hp]

/-- A call leaves a violation if its argument names no unit and can be written, and none otherwise. -/
theorem violation?_eq_some {r : Registry} {argument : Value} {e : UnknownUnit} :
    r.violation? argument = some e ↔ (∀ position < r.size, argument.namesUnit position = false) ∧
      (idOf argument).isWritable = true ∧ e = ⟨(idOf argument).literal, r.size⟩ := by
  have hknows : r.knows argument = false ↔ ∀ position < r.size, argument.namesUnit position = false := by
    rw [← Bool.not_eq_true, knows_iff]
    simp
  rw [Registry.violation?, Registry.unknownUnit?_refusal, ← hknows]
  cases r.knows argument
  · cases (idOf argument).isWritable <;> simp [eq_comm]
  · simp

/-- The pending violation after a call is the one before it, or else what the call leaves. -/
theorem violation_track (t : Tracker) (argument : Value) :
    (t.track argument).2.violation = t.violation.or (t.registry.violation? argument) := by
  unfold Registry.violation?
  cases h : t.registry.knows argument
  · rw [track_unknown h]
    rfl
  · obtain ⟨position, -, -, ht⟩ := track_known h
    simp [ht]

@[simp] theorem size_track (t : Tracker) (argument : Value) :
    (t.track argument).2.registry.size = t.registry.size := by
  cases h : t.registry.knows argument
  · rw [track_unknown h]
  · obtain ⟨position, -, -, ht⟩ := track_known h
    simp [ht]

/-- A call counts one execution of the unit that its argument names, and nothing else. -/
theorem units_track (t : Tracker) (argument : Value) (position : Nat) :
    (t.track argument).2.registry.units[position]? = (t.registry.units[position]?).map fun u =>
      if argument.namesUnit position then u.countExecution else u := by
  cases h : t.registry.knows argument
  · rw [track_unknown h]
    cases hu : t.registry.units[position]? with
    | none => simp
    | some u =>
      have hn : argument.namesUnit position = false := by
        rw [Bool.eq_false_iff]
        intro hn
        have hlt : position < t.registry.size := (List.getElem?_eq_some_iff.1 hu).1
        rw [knows_iff.2 ⟨position, hlt, hn⟩] at h
        cases h
      simp [hn]
  · obtain ⟨named, -, hn, ht⟩ := track_known h
    rw [ht]
    simp only [Registry.count, List.getElem?_modify]
    have hiff : argument.namesUnit position = true ↔ named = position := by
      rw [← idOf_eq_int] at hn ⊢
      rw [hn]
      simp only [Value.scalar.injEq, Scalar.int.injEq]
      omega
    cases t.registry.units[position]? with
    | none => simp
    | some u => by_cases he : named = position <;> simp [hiff, he]

/-! ## Calls in a row -/

/-- Calls of the probe, one after the other. -/
def trackAll (t : Tracker) (arguments : List Value) : Tracker :=
  arguments.foldl (fun t argument => (t.track argument).2) t

@[simp] theorem trackAll_nil (t : Tracker) : t.trackAll [] = t := rfl

@[simp] theorem trackAll_cons (t : Tracker) (argument : Value) (rest : List Value) :
    t.trackAll (argument :: rest) = (t.track argument).2.trackAll rest := rfl

theorem trackAll_append (t : Tracker) (arguments rest : List Value) :
    t.trackAll (arguments ++ rest) = (t.trackAll arguments).trackAll rest := by
  simp [trackAll]

@[simp] theorem size_trackAll (t : Tracker) (arguments : List Value) :
    (t.trackAll arguments).registry.size = t.registry.size := by
  induction arguments generalizing t with
  | nil => rfl
  | cons argument rest ih => rw [trackAll_cons, ih, size_track]

/-- What is counted does not depend on the violation that is pending. -/
theorem registry_trackAll_eq {t u : Tracker} (h : t.registry = u.registry) (arguments : List Value) :
    (t.trackAll arguments).registry = (u.trackAll arguments).registry := by
  induction arguments generalizing t u with
  | nil => exact h
  | cons argument rest ih =>
    refine ih ?_
    simp only [track, h]
    cases u.registry.position? (idOf argument) <;> rfl

/-- **Counts.** After some calls every unit has counted those that named it, and is otherwise as it was. -/
theorem trackAll_units (t : Tracker) (arguments : List Value) (position : Nat) :
    (t.trackAll arguments).registry.units[position]? = (t.registry.units[position]?).map fun u =>
      { u with executionCount := u.executionCount + arguments.countP (Value.namesUnit position) } := by
  induction arguments generalizing t with
  | nil => simp
  | cons argument rest ih =>
    rw [trackAll_cons, ih, units_track, Option.map_map]
    congr 1
    funext u
    by_cases h : argument.namesUnit position = true
    · simp only [Function.comp, h, if_true, CoverableUnit.countExecution, List.countP_cons_of_pos]
      congr 1
      omega
    · simp [Function.comp, h]

/-- **Violations.** The pending violation is the one that was pending, or else the first one that a call left. -/
theorem trackAll_violation (t : Tracker) (arguments : List Value) :
    (t.trackAll arguments).violation = t.violation.or (arguments.findSome? t.registry.violation?) := by
  induction arguments generalizing t with
  | nil => simp
  | cons argument rest ih =>
    have hlater : (t.track argument).2.registry.violation? = t.registry.violation? := by
      funext v
      exact Registry.violation?_of_size (size_track t argument) v
    rw [trackAll_cons, ih, hlater, violation_track, Option.or_assoc, List.findSome?_cons]
    cases t.registry.violation? argument <;> rfl

end Tracker

end ScriptCoverage
