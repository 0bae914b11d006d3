import ScriptCoverage.Session.Log
import ScriptCoverage.Session.Path
import ScriptCoverage.Value.Basic

/-!
# Environment variables in settings

A text may refer to environment variables as `${NAME}` or `${NAME:-DEFAULT}`. Expansion is one pass from
the left: the value of a variable is put in as it is and never looked at again.

Specification: section 9, environment expansion.
-/

namespace ScriptCoverage

/-- The environment of a process. -/
structure Environment where
  bindings : List (String × String) := []
  /-- The home directory of the account, for when `HOME` is not set. -/
  accountHome : String := "/"

namespace Environment

def get? (env : Environment) (name : String) : Option String := env.bindings.lookup name

/-- The name of the variable that names the program's home directory. -/
def homeVariable : String := "TAILWINDCOV_HOME"

/-- The home directory of the user, without separators at its end. A home that starts with `~` stands for
nothing. -/
def userHome? (env : Environment) : Option Path :=
  let home := ((env.get? "HOME").getD env.accountHome).toList
  let bare := (home.reverse.dropWhile (· = '/')).reverse
  if bare.head? = some '~' then none
  else some (Path.ofString (if bare.isEmpty then "/" else String.ofList bare))

/-- The program's home directory: the one that is named, or a directory in the user's home. -/
def programHome? (env : Environment) : Option Path :=
  match env.get? homeVariable with
  | some named =>
    if named.isEmpty then env.userHome?.map (·.child ".tailwindcov") else some (Path.ofString named)
  | none => env.userHome?.map (·.child ".tailwindcov")

end Environment

/-- A reference to an environment variable. -/
structure Reference where
  name : List Char
  fallback : Option (List Char)
  deriving DecidableEq, Repr

namespace Reference

/-- Characters that the name of a variable may have. -/
def isNameChar (c : Char) : Bool := c ≠ '\x7d' && c ≠ ':'

/-- The reference whose opening `${` stands before the text, and what follows it. -/
def parse? (cs : List Char) : Option (Reference × List Char) :=
  let name := cs.takeWhile isNameChar
  if name.isEmpty then none
  else match cs.dropWhile isNameChar with
    | '\x7d' :: rest => some (⟨name, none⟩, rest)
    | ':' :: '-' :: more =>
      match more.dropWhile (· ≠ '\x7d') with
      | _ :: rest => some (⟨name, some (more.takeWhile (· ≠ '\x7d'))⟩, rest)
      | [] => none
    | _ => none

theorem length_dropWhile_le (p : Char → Bool) (cs : List Char) : (cs.dropWhile p).length ≤ cs.length :=
  (List.dropWhile_sublist p).length_le

theorem length_lt_of_parse? {cs rest : List Char} {r : Reference} (h : parse? cs = some (r, rest)) :
    rest.length < cs.length := by
  have bound := length_dropWhile_le isNameChar cs
  revert h
  fun_cases parse? cs
  · simp
  · rename_i eq
    intro h
    simp only [Option.some.injEq, Prod.mk.injEq] at h
    rw [← h.2]
    rw [eq] at bound
    simp only [List.length_cons] at bound
    omega
  · rename_i more eq _ _ eq'
    intro h
    simp only [Option.some.injEq, Prod.mk.injEq] at h
    have inner := length_dropWhile_le (· ≠ '\x7d') more
    rw [← h.2]
    rw [eq] at bound
    rw [eq'] at inner
    simp only [List.length_cons] at bound inner
    omega
  · simp
  · simp

/-- What a reference stands for. A variable that is not set and has no default stands for nothing, and
that is reported. -/
def value (env : Environment) (r : Reference) : Logged (List Char) :=
  match env.get? (String.ofList r.name), r.fallback with
  | some value, _ => pure value.toList
  | none, some fallback => pure fallback
  | none, none => do
    Logged.tell .warning
      s!"Environment variable ${String.ofList r.name} is not set and has no default"
    return []

end Reference

/-- The text with its references replaced. -/
def expandChars (env : Environment) : List Char → Logged (List Char)
  | [] => pure []
  | '$' :: '\x7b' :: rest =>
    match _h : Reference.parse? rest with
    | some (r, after) => do
      let value ← r.value env
      let more ← expandChars env after
      return value ++ more
    | none => do
      let more ← expandChars env ('\x7b' :: rest)
      return '$' :: more
  | c :: rest => do
    let more ← expandChars env rest
    return c :: more
termination_by cs => cs.length
decreasing_by
  · have := Reference.length_lt_of_parse? _h
    simp only [List.length_cons]
    omega
  · simp only [List.length_cons]
    omega
  · simp only [List.length_cons]
    omega

def expandText (env : Environment) (s : String) : Logged String := do
  return String.ofList (← expandChars env s.toList)

mutual

/-- A value with the references in all its texts replaced. Keys, tuples and sets stay as they are. -/
def expandValue (env : Environment) : Value → Logged Value
  | .text s => do return .text (← expandText env s)
  | .list items => do return .list (← expandValues env items)
  | .mapping entries => do return .mapping (← expandEntries env entries)
  | v => pure v

def expandValues (env : Environment) : List Value → Logged (List Value)
  | [] => pure []
  | item :: rest => do
    let first ← expandValue env item
    let more ← expandValues env rest
    return first :: more

def expandEntries (env : Environment) : List (Scalar × Value) → Logged (List (Scalar × Value))
  | [] => pure []
  | (key, value) :: rest => do
    let first ← expandValue env value
    let more ← expandEntries env rest
    return (key, first) :: more

end

end ScriptCoverage
