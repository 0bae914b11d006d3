import ScriptCoverage.Number.Binary64
import ScriptCoverage.Value.Time

/-!
# Dynamic values

Settings, parser output, probe arguments and completion values are data whose form is known only when
it arrives. A mapping keeps its entries in order of first insertion, and its keys are scalars; two
keys name one entry when they are equal as values, so `1`, `1.0` and `true` are one key, and so are the
readings of two clocks at one instant.
-/

namespace ScriptCoverage

/-- A value without parts. -/
inductive Scalar where
  | null
  | bool (b : Bool)
  | int (i : Int)
  | float (x : Binary64)
  | text (s : String)
  | bytes (bs : List UInt8)
  | date (d : Date)
  | dateTime (t : DateTime)
  deriving DecidableEq, Repr, Inhabited

/-- The representative of all scalars that name the same entry: numbers are one key when they are equal,
date-times when they are one instant. -/
def Scalar.key : Scalar → Scalar
  | .bool b => .int (if b then 1 else 0)
  | .float x => match x.toInt? with
    | some i => .int i
    | none => .float x
  | .dateTime t => .dateTime t.key
  | s => s

/-- Entries under scalar keys, in order. -/
abbrev Mapping (α : Type) := List (Scalar × α)

namespace Mapping

variable {α β : Type}

/-- The value of the entry that `key` names. -/
def find? (key : Scalar) : Mapping α → Option α
  | [] => none
  | (k, v) :: rest => if k.key = key.key then some v else find? key rest

/-- The value under a textual key. -/
def get? (m : Mapping α) (name : String) : Option α := m.find? (.text name)

/-- Gives the entry that `key` names a new value; a new entry goes to the end. An entry keeps its place
and the key it was first written with. -/
def insert (key : Scalar) (value : α) : Mapping α → Mapping α
  | [] => [(key, value)]
  | (k, v) :: rest => if k.key = key.key then (k, value) :: rest else (k, v) :: insert key value rest

/-- The mapping that entries describe: of several entries for one key the last value counts. -/
def ofEntries (entries : List (Scalar × α)) : Mapping α :=
  entries.foldl (fun m (k, v) => m.insert k v) []

/-- The entries whose key is not the text `name`. -/
def without (name : String) (m : Mapping α) : Mapping α :=
  m.filter fun (k, _) => k.key ≠ .text name

@[simp] theorem find?_nil (key : Scalar) : find? key ([] : Mapping α) = none := rfl

theorem find?_insert (key other : Scalar) (value : α) (m : Mapping α) :
    (m.insert key value).find? other = if key.key = other.key then some value else m.find? other := by
  induction m with
  | nil => rfl
  | cons entry rest ih =>
    obtain ⟨k, v⟩ := entry
    by_cases hk : k.key = key.key
    · by_cases ho : key.key = other.key <;> simp_all [insert, find?]
    · by_cases ho : key.key = other.key
      · have : k.key ≠ other.key := fun h => hk (h.trans ho.symm)
        simp_all [insert, find?]
      · simp [insert, find?, hk, ih, ho]

end Mapping

/-- A value. A `tuple` is an immutable list, a `set` has its members in the order in which messages show
them, an `object` carries named attributes instead of entries, and an `atom` is anything that has neither
parts nor attributes. -/
inductive Value where
  | scalar (s : Scalar)
  | list (items : List Value)
  | tuple (items : List Value)
  | set (members : List Scalar)
  | mapping (entries : List (Scalar × Value))
  | object (attributes : List (Scalar × Value))
  | atom
  deriving Repr, Inhabited

namespace Value

@[match_pattern] abbrev null : Value := .scalar .null
@[match_pattern] abbrev bool (b : Bool) : Value := .scalar (.bool b)
@[match_pattern] abbrev int (i : Int) : Value := .scalar (.int i)
@[match_pattern] abbrev float (x : Binary64) : Value := .scalar (.float x)
@[match_pattern] abbrev text (s : String) : Value := .scalar (.text s)
@[match_pattern] abbrev bytes (bs : List UInt8) : Value := .scalar (.bytes bs)

/-- A mapping with textual keys. -/
def record (entries : List (String × Value)) : Value :=
  .mapping (entries.map fun (name, value) => (.text name, value))

/-- The entries of a mapping; other values have none. -/
def entries? : Value → Option (Mapping Value)
  | .mapping entries => some entries
  | _ => none

mutual

/-- Whether a value can name an entry or a plugin: neither it nor a part of it can change. -/
def isName : Value → Bool
  | .list _ => false
  | .set _ => false
  | .mapping _ => false
  | .tuple items => areNames items
  | _ => true

def areNames : List Value → Bool
  | [] => true
  | item :: rest => item.isName && areNames rest

end

/-- Whether a value can be looked for among the members of a set. A set can, though it is no name. -/
def canBelong : Value → Bool
  | .set _ => true
  | v => v.isName

/-- Whether a value counts as true: it is not null, not false, not zero and not empty. -/
def isTrue : Value → Bool
  | .null => false
  | .bool b => b
  | .int i => i != 0
  | .float (.finite _ units) => units != 0
  | .text s => !s.isEmpty
  | .bytes bs => !bs.isEmpty
  | .list items => !items.isEmpty
  | .tuple items => !items.isEmpty
  | .set members => !members.isEmpty
  | .mapping entries => !entries.isEmpty
  | _ => true

end Value

end ScriptCoverage
