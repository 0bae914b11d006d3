import ScriptCoverage.Text.DecimalDigit
import ScriptCoverage.Text.Quoted

/-!
# Command lines

A command line is a list of words. A word is an option if it starts with `-`, unless it is a negative
number, holds a blank, or stands behind the mark `--`; long options may be shortened as long as they stay
unique, and short options without a value may be written together, also behind a `=`. All words are
classified before the first of them is acted on, so an ambiguous option is reported before anything else.

Specification: section 11, how the options are read.
-/

namespace ScriptCoverage

/-- Why a command line ends without an invocation: help was asked for, or the usage is wrong. -/
inductive UsageStop where
  | help (text : String)
  | misuse (program message : String)
  deriving DecidableEq, Repr

/-- What an option does to the settings read so far. -/
inductive OptionEffect (σ : Type) where
  | help
  | flag (apply : σ → σ)
  /-- Takes a value, which may be refused with a message. A mark in the word of the option itself stands
  for no value: the option is given all the same. -/
  | value (apply : Option String → σ → Except String σ)

/-- An option and its names. -/
structure OptionSpec (σ : Type) where
  names : List String
  effect : OptionEffect σ

/-- What a command line consists of: options and at most one operand. `takesRest` says that the operand
takes all words behind it along, and that the mark may not stand before it. -/
structure Grammar (σ : Type) where
  program : String
  help : String
  options : List (OptionSpec σ)
  operand : Option String := none
  takesRest : Bool := false
  apply : String → List String → σ → Except UsageStop σ := fun _ _ s => .ok s

/-- The word behind which all words are operands. -/
def markText : String := "--"

/-- A word by its role. An option may have text attached to it in the same word, behind `=` or right
behind a short option. An option that is not known has no specification. -/
inductive Word (σ : Type) where
  | mark
  | operand (text : String)
  | known (option : OptionSpec σ) (name : String) (attached : Option (List Char)) (text : String)
  | unknown (text : String)

namespace Word

variable {σ : Type}

/-- The word as it was written. -/
def text : Word σ → String
  | mark => markText
  | operand text => text
  | known _ _ _ text => text
  | unknown text => text

end Word

private def isDigit (c : Char) : Bool := (digitValue? c).isSome

/-- Whether a word spells a negative number, of which the part before a point may be missing. -/
def isNegativeNumber (word : List Char) : Bool :=
  let body := if word.getLast? = some '\n' then word.dropLast else word
  match body with
  | '-' :: digits =>
    let whole := digits.takeWhile isDigit
    match digits.drop whole.length with
    | [] => !whole.isEmpty
    | '.' :: fraction => !fraction.isEmpty && fraction.all isDigit
    | _ => false
  | _ => false

/-- A word up to its first `=`, and what stands behind that. -/
def splitSign (word : List Char) : List Char × Option (List Char) :=
  let name := word.takeWhile (· ≠ '=')
  match word.drop name.length with
  | _ :: value => (name, some value)
  | [] => (name, none)

namespace Grammar

variable {σ : Type} (g : Grammar σ)

/-- The names of all options, in order. -/
def names : List (String × OptionSpec σ) := g.options.flatMap fun o => o.names.map fun name => (name, o)

def find? (name : String) : Option (OptionSpec σ) := g.names.lookup name

def misuse {α : Type} (message : String) : Except UsageStop α := .error (.misuse g.program message)

/-- A misuse of an option, which is named with all its names. -/
def misuseOf {α : Type} (o : OptionSpec σ) (message : String) : Except UsageStop α :=
  g.misuse ("argument " ++ "/".intercalate o.names ++ ": " ++ message)

/-- What the names that a word may abbreviate make of it. -/
def candidates (word : List Char) : List (String × OptionSpec σ × Option (List Char)) :=
  if word.take 2 = ['-', '-'] then
    let (start, attached) := splitSign word
    g.names.filterMap fun (name, o) =>
      if start.isPrefixOf name.toList then some (name, o, attached) else none
  else
    g.names.filterMap fun (name, o) =>
      if name.toList = word.take 2 then some (name, o, some (word.drop 2))
      else if word.isPrefixOf name.toList then some (name, o, none)
      else none

/-- The role of a word that stands before the mark. -/
def classify (word : String) : Except UsageStop (Word σ) :=
  let cs := word.toList
  if cs.head? ≠ some '-' then .ok (.operand word)
  else match g.find? word with
    | some o => .ok (.known o word none word)
    | none =>
      if cs.length = 1 then .ok (.operand word)
      else
        let (name, attached) := splitSign cs
        match attached.bind fun _ => g.find? (String.ofList name) with
        | some o => .ok (.known o (String.ofList name) attached word)
        | none => match g.candidates cs with
          | [(name, o, attached)] => .ok (.known o name attached word)
          | [] => .ok (if isNegativeNumber cs || cs.contains ' ' then .operand word else .unknown word)
          | several =>
            let matching := ", ".intercalate (several.map (·.1))
            g.misuse s!"ambiguous option: {word} could match {matching}"

/-- The roles of all words. Behind the mark every word is an operand. -/
def classifyAll : List String → Except UsageStop (List (Word σ))
  | [] => .ok []
  | word :: rest =>
    if word = markText then .ok (.mark :: rest.map .operand)
    else return (← g.classify word) :: (← classifyAll rest)

/-- An option with its value, if it has one, ready to be applied. -/
abbrev Use (σ : Type) := OptionSpec σ × Option String

/-- The options that one word holds, of which the last one may still need the next word for its value. -/
structure Cluster (σ : Type) where
  uses : List (Use σ) := []
  /-- The option that needs a value. -/
  open? : Option (OptionSpec σ) := none

/-- Whether an option takes a value. -/
def takesValue (o : OptionSpec σ) : Bool :=
  match o.effect with
  | .value _ => true
  | _ => false

/-- The value that a text attached to an option gives it. -/
def attachedValue (text : List Char) : Option String :=
  if text = markText.toList then none else some (String.ofList text)

/-- The options of a word without attached text. -/
def alone (o : OptionSpec σ) : Cluster σ :=
  if takesValue o then { open? := some o } else { uses := [(o, none)] }

/-- The refusal of text attached to an option that has no use for it. -/
def ignored {α : Type} (o : OptionSpec σ) (text : List Char) : Except UsageStop α :=
  g.misuseOf o s!"ignored explicit argument {Quoted.text (String.ofList text)}"

/-- The short options written together with `o`: each of them up to the last is without a value, and the
last one that takes a value has the rest of the word. -/
def clusterFrom (o : OptionSpec σ) : List Char → Except UsageStop (Cluster σ)
  | [] => .ok (alone o)
  | c :: rest =>
    if takesValue o then .ok { uses := [(o, attachedValue (c :: rest))] }
    else match g.find? (String.ofList ['-', c]) with
      | none => g.ignored o (c :: rest)
      | some next => do
        let cluster ← clusterFrom next rest
        return { cluster with uses := (o, none) :: cluster.uses }

/-- The options in the word that names `o`. An empty text behind `=` is a value, and no cluster. -/
def cluster (o : OptionSpec σ) (name : String) : Option (List Char) → Except UsageStop (Cluster σ)
  | none => .ok (alone o)
  | some text =>
    if takesValue o then .ok { uses := [(o, attachedValue text)] }
    else if name.toList.take 2 ≠ markText.toList ∧ !text.isEmpty then g.clusterFrom o text
    else g.ignored o text

/-- Applies an option. -/
def use (state : σ) : Use σ → Except UsageStop σ
  | (o, value) => match o.effect with
    | .help => .error (.help g.help)
    | .flag apply => .ok (apply state)
    | .value apply => match apply value state with
      | .ok state => .ok state
      | .error message => g.misuseOf o message

/-- What reading a command line has come to. -/
structure Progress (σ : Type) where
  state : σ
  /-- Whether the operand is still to come. -/
  pending : Bool
  /-- Words that nothing was made of. -/
  extras : List String := []

namespace Progress

def leave (p : Progress σ) (words : List String) : Progress σ := { p with extras := p.extras ++ words }

end Progress

/-- Takes the operand, with the words that it takes along. -/
def takeOperand (p : Progress σ) (text : String) (along : List (Word σ)) :
    Except UsageStop (Progress σ) :=
  return { p with pending := false, state := ← g.apply text (along.map Word.text) p.state }

/-- Applies options in order. -/
def useAll (p : Progress σ) (uses : List (Use σ)) : Except UsageStop (Progress σ) :=
  return { p with state := ← uses.foldlM g.use p.state }

/-- The words without a mark at their front. -/
def dropMark : List (Word σ) → List (Word σ)
  | .mark :: rest => rest
  | words => words

theorem length_dropMark_le (words : List (Word σ)) : (dropMark words).length ≤ words.length := by
  fun_cases dropMark words <;> simp

/-- Acts on the words from left to right. A mark beside the operand is dropped with it. -/
def act (p : Progress σ) : List (Word σ) → Except UsageStop (Progress σ)
  | [] => .ok p
  | .unknown text :: rest => act (p.leave [text]) rest
  | .known o name attached _ :: rest => do
    let cluster ← g.cluster o name attached
    match cluster.open? with
    | none => act (← g.useAll p cluster.uses) rest
    | some o => match rest with
      | .operand value :: more => act (← g.useAll p (cluster.uses ++ [(o, some value)])) more
      | _ => g.misuseOf o "expected one argument"
  | .operand text :: rest =>
    if !p.pending then act (p.leave [text]) rest
    else if g.takesRest then g.takeOperand p text rest
    else do act (← g.takeOperand p text []) (dropMark rest)
  | .mark :: .operand text :: rest =>
    if !p.pending then act (p.leave [markText, text]) rest
    else if g.takesRest then g.takeOperand p markText (.operand text :: rest)
    else do act (← g.takeOperand p text []) rest
  | .mark :: rest => act (p.leave [markText]) rest
termination_by words => words.length
decreasing_by
  all_goals simp only [List.length_cons]
  all_goals try omega
  exact Nat.lt_succ_of_le (length_dropMark_le _)

/-- Reads a command line. The result holds the words that nothing was made of. -/
def read (initial : σ) (words : List String) : Except UsageStop (σ × List String) := do
  let roles ← g.classifyAll words
  let p ← g.act { state := initial, pending := g.operand.isSome } roles
  match g.operand, p.pending, g.takesRest with
  | some operand, true, false => g.misuse s!"the following arguments are required: {operand}"
  | _, _, _ => return (p.state, p.extras)

end Grammar

end ScriptCoverage
