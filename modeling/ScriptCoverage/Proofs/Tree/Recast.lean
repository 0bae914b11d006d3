import ScriptCoverage.Proofs.Value.Mapping
import ScriptCoverage.Tree.Convert

/-!
# Values with the same tree

A parser may hand over mappings or objects with attributes, and lists or tuples. Which of them it uses, on any level of
a value, makes no difference to the tree (`Value.Recast.ofValue_eq`). What stands under a reserved key stays as it is.
-/

namespace ScriptCoverage.Value

/-- The items of a list or a tuple. -/
def items? : Value → Option (List Value)
  | .list items => some items
  | .tuple items => some items
  | _ => none

/-- The entries of a mapping, or the attributes of an object. -/
def fields? : Value → Option (Mapping Value)
  | .mapping entries => some entries
  | .object attributes => some attributes
  | _ => none

mutual

/-- Two values that differ only in which of their parts are mappings and which objects, and which are lists and which
tuples, but not under reserved keys. -/
inductive Recast : Value → Value → Prop where
  | same (v : Value) : Recast v v
  | items {v w : Value} {xs ys : List Value} (hv : v.items? = some xs) (hw : w.items? = some ys)
      (h : RecastItems xs ys) : Recast v w
  | fields {v w : Value} {es fs : Mapping Value} (hv : v.fields? = some es) (hw : w.fields? = some fs)
      (h : RecastFields es fs) : Recast v w

inductive RecastItems : List Value → List Value → Prop where
  | nil : RecastItems [] []
  | cons {v w : Value} {xs ys : List Value} (h : Recast v w) (hrest : RecastItems xs ys) :
      RecastItems (v :: xs) (w :: ys)

inductive RecastFields : Mapping Value → Mapping Value → Prop where
  | nil : RecastFields [] []
  | reserved {key : Scalar} (hkey : isReserved key = true) (v : Value) {es fs : Mapping Value}
      (hrest : RecastFields es fs) : RecastFields ((key, v) :: es) ((key, v) :: fs)
  | free {key : Scalar} (hkey : isReserved key = false) {v w : Value} {es fs : Mapping Value} (h : Recast v w)
      (hrest : RecastFields es fs) : RecastFields ((key, v) :: es) ((key, w) :: fs)

end

variable {v w : Value} {xs ys : List Value} {es fs : Mapping Value}

theorem ofValue_of_items? (h : v.items? = some xs) : Tree.ofValue v = Tree.list <$> Tree.ofValues xs := by
  cases v <;> cases h <;> rfl

theorem ofValue_of_fields? (h : v.fields? = some es) : Tree.ofValue v = (do
    let span ← Span.ofValue ((es.get? "range").getD .null)
    return .object (.mk (typeNameOf es) span (← Tree.ofEntries es))) := by
  cases v <;> cases h <;> rfl

/-- Only a text names the entry of a text. -/
theorem key_eq_text {key : Scalar} {name : String} : key.key = (Scalar.text name).key ↔ key = .text name := by
  cases key with
  | float x =>
    simp only [Scalar.key]
    cases x.toInt? <;> simp
  | _ => simp [Scalar.key]

/-- Under a reserved key stands the same value. -/
theorem RecastFields.get?_eq {name : String} (hname : isReserved (.text name) = true) (h : RecastFields es fs) :
    es.get? name = fs.get? name := by
  unfold Mapping.get?
  induction es generalizing fs with
  | nil =>
    cases h
    rfl
  | cons entry es ih =>
    cases h with
    | reserved hkey v hrest => rw [Mapping.find?, Mapping.find?, ih hrest]
    | @free key hkey v w _ fs h hrest =>
      have hne : ¬ key.key = (Scalar.text name).key := by
        rw [key_eq_text]
        rintro rfl
        rw [hkey] at hname
        cases hname
      rw [Mapping.find?, Mapping.find?, if_neg hne, if_neg hne, ih hrest]

mutual

theorem Recast.ofValue_eq : ∀ {v w : Value}, Recast v w → Tree.ofValue v = Tree.ofValue w
  | _, _, .same v => rfl
  | _, _, .items hv hw h => by
    rw [ofValue_of_items? hv, ofValue_of_items? hw, h.ofValues_eq]
  | _, _, .fields hv hw h => by
    rw [ofValue_of_fields? hv, ofValue_of_fields? hw, h.ofEntries_eq, typeNameOf, typeNameOf,
      RecastFields.get?_eq rfl h, RecastFields.get?_eq rfl h]

theorem RecastItems.ofValues_eq : ∀ {xs ys : List Value}, RecastItems xs ys → Tree.ofValues xs = Tree.ofValues ys
  | _, _, .nil => rfl
  | _, _, .cons h hrest => by rw [Tree.ofValues, Tree.ofValues, h.ofValue_eq, hrest.ofValues_eq]

theorem RecastFields.ofEntries_eq :
    ∀ {es fs : Mapping Value}, RecastFields es fs → Tree.ofEntries es = Tree.ofEntries fs
  | _, _, .nil => rfl
  | _, _, .reserved hkey v hrest => by
    rw [Tree.ofEntries, Tree.ofEntries, if_pos hkey, if_pos hkey, hrest.ofEntries_eq]
  | _, _, .free hkey h hrest => by rw [Tree.ofEntries, Tree.ofEntries, h.ofValue_eq, hrest.ofEntries_eq]

end

end ScriptCoverage.Value
