import ScriptCoverage.Config.Environment

/-!
# What expansion makes of a text

A text with references is literals with references in between (`Template`). Expansion finds just these references,
however much their names, their defaults and the literals around them look like parts of others, and puts in the place
of each what it stands for (`expandText_text`). The induction is on the references from the left: a literal is passed
over whole, because no reference begins in it (`expandChars_literal`), and a reference is taken whole, because its name
and its default end where they are meant to (`Reference.parse?_spelling`). What was put in is behind the scan by then
and is not looked at again.

In other values it is the texts in lists and mappings that are expanded, in order, and nothing else changes
(`expandValue_reworded`).
-/

namespace ScriptCoverage

/-! ## One reference -/

namespace Reference

variable {r : Reference} {env : Environment}

/-- How a reference is written. -/
def spelling (r : Reference) : List Char :=
  '$' :: '\x7b' :: r.name ++ r.fallback.elim [] (fun chars => ':' :: '-' :: chars) ++ ['\x7d']

/-- A reference that can be written: it has a name, and what ends the name or the default does not occur in it. -/
structure Spellable (r : Reference) : Prop where
  named : r.name ≠ []
  name : ∀ c ∈ r.name, c ≠ '\x7d' ∧ c ≠ ':'
  fallback : ∀ chars, r.fallback = some chars → '\x7d' ∉ chars

/-- What a reference stands for: the value of the variable, even an empty one, or else the default, or else nothing. -/
def filling (env : Environment) (r : Reference) : List Char :=
  match env.get? (String.ofList r.name) with
  | some value => value.toList
  | none => r.fallback.getD []

/-- What is reported of a reference: that there is neither a variable nor a default. -/
def warnings (env : Environment) (r : Reference) : List LogEntry :=
  if env.get? (String.ofList r.name) = none ∧ r.fallback = none then
    [⟨.warning, s!"Environment variable ${String.ofList r.name} is not set and has no default"⟩]
  else []

theorem value_eq (env : Environment) (r : Reference) : r.value env = ⟨r.filling env, r.warnings env⟩ := by
  unfold value filling warnings
  cases env.get? (String.ofList r.name) with
  | some value => rfl
  | none => cases r.fallback <;> rfl

theorem takeWhile_exact {p : Char → Bool} {body : List Char} {c : Char} (hbody : ∀ b ∈ body, p b = true)
    (hc : p c = false) (rest : List Char) :
    (body ++ c :: rest).takeWhile p = body ∧ (body ++ c :: rest).dropWhile p = c :: rest := by
  rw [List.takeWhile_append_of_pos hbody, List.dropWhile_append_of_pos hbody]
  simp [hc]

/-- **Reading a reference.** What follows the opening is read back as the reference that was written. -/
theorem parse?_spelling (h : r.Spellable) (rest : List Char) :
    parse? (r.name ++ r.fallback.elim [] (fun chars => ':' :: '-' :: chars) ++ '\x7d' :: rest) = some (r, rest) := by
  obtain ⟨name, fallback⟩ := r
  have hname : ∀ c ∈ name, isNameChar c = true := by
    intro c hc
    simpa [isNameChar] using h.name c hc
  have hnamed : name.isEmpty = false := by
    simpa using h.named
  cases fallback with
  | none =>
    obtain ⟨htake, hdrop⟩ := takeWhile_exact hname (show isNameChar '\x7d' = false by decide) rest
    simp [parse?, htake, hdrop, hnamed]
  | some chars =>
    have hchars : ∀ c ∈ chars, decide (c ≠ '\x7d') = true := by
      intro c hc
      simpa using ne_of_mem_of_not_mem hc (h.fallback chars rfl)
    have hwritten : name ++ (':' :: '-' :: chars) ++ '\x7d' :: rest =
        name ++ ':' :: '-' :: (chars ++ '\x7d' :: rest) := by simp
    obtain ⟨htake, hdrop⟩ := takeWhile_exact hname (show isNameChar ':' = false by decide)
      ('-' :: (chars ++ '\x7d' :: rest))
    obtain ⟨htake', hdrop'⟩ := takeWhile_exact hchars (show decide ('\x7d' ≠ '\x7d') = false by decide) rest
    rw [Option.elim_some, hwritten, parse?]
    simp only [htake, hdrop, hnamed, htake', hdrop', Bool.false_eq_true, if_false]

end Reference

/-! ## Literals and references in a row -/

/-- A text in which no reference begins. -/
def IsLiteral (cs : List Char) : Prop := ¬ ['$', '\x7b'] <:+: cs

instance (cs : List Char) : Decidable (IsLiteral cs) := inferInstanceAs (Decidable (¬ _))

/-- A text with references: a literal, then references with a literal after each. -/
structure Template where
  front : List Char
  parts : List (Reference × List Char)

namespace Template

/-- The text as it is written. -/
def text (t : Template) : List Char := t.front ++ t.parts.flatMap fun part => part.1.spelling ++ part.2

/-- The text with the references filled in. -/
def filled (env : Environment) (t : Template) : List Char :=
  t.front ++ t.parts.flatMap fun part => part.1.filling env ++ part.2

/-- What is reported of the references, in order. -/
def warnings (env : Environment) (t : Template) : List LogEntry := t.parts.flatMap fun part => part.1.warnings env

/-- No literal has a reference in it, and every reference can be written. -/
structure WellFormed (t : Template) : Prop where
  front : IsLiteral t.front
  parts : ∀ part ∈ t.parts, part.1.Spellable ∧ IsLiteral part.2

end Template

section

variable {env : Environment} {r : Reference} {cs rest : List Char}

theorem expandChars_plain {c : Char} (h : c = '$' → rest.head? ≠ some '\x7b') :
    expandChars env (c :: rest) = ⟨c :: (expandChars env rest).result, (expandChars env rest).log⟩ := by
  rw [expandChars]
  · simp [bind, pure]
  · rintro more rfl rfl
    exact h rfl rfl

theorem expandChars_spelling (h : r.Spellable) (rest : List Char) :
    expandChars env (r.spelling ++ rest) =
      ⟨r.filling env ++ (expandChars env rest).result, r.warnings env ++ (expandChars env rest).log⟩ := by
  have hparse := Reference.parse?_spelling h rest
  simp only [Reference.spelling, List.cons_append, List.append_assoc, List.nil_append] at hparse ⊢
  rw [expandChars]
  split
  · rename_i found after hfound
    rw [hparse] at hfound
    cases hfound
    simp [Reference.value_eq, bind, pure]
  · rename_i hfound
    rw [hparse] at hfound
    cases hfound

/-- A literal is passed over, unless its last character and the next one make the opening of a reference. -/
theorem expandChars_literal (h : IsLiteral cs) (hrest : rest.head? ≠ some '\x7b') :
    expandChars env (cs ++ rest) = ⟨cs ++ (expandChars env rest).result, (expandChars env rest).log⟩ := by
  induction cs with
  | nil => rfl
  | cons c more ih =>
    have hmore : IsLiteral more := fun hbegins => h (hbegins.trans (List.suffix_cons c more).isInfix)
    rw [List.cons_append, expandChars_plain, ih hmore]
    · rfl
    · rintro rfl
      cases more with
      | nil => exact hrest
      | cons next others =>
        rintro hhead
        cases hhead
        exact h ⟨[], others, rfl⟩

theorem head?_parts (parts : List (Reference × List Char)) :
    (parts.flatMap fun part => part.1.spelling ++ part.2).head? ≠ some '\x7b' := by
  cases parts with
  | nil => simp
  | cons part rest => simp [Reference.spelling]

theorem expandChars_parts {parts : List (Reference × List Char)}
    (h : ∀ part ∈ parts, part.1.Spellable ∧ IsLiteral part.2) :
    expandChars env (parts.flatMap fun part => part.1.spelling ++ part.2) =
      ⟨parts.flatMap fun part => part.1.filling env ++ part.2, parts.flatMap fun part => part.1.warnings env⟩ := by
  induction parts with
  | nil => rw [List.flatMap_nil, expandChars]; rfl
  | cons part rest ih =>
    obtain ⟨⟨hspellable, hliteral⟩, hrest⟩ := List.forall_mem_cons.1 h
    simp only [List.flatMap_cons, List.append_assoc]
    rw [expandChars_spelling hspellable, expandChars_literal hliteral (head?_parts rest), ih hrest]

/-- **Expanding a text with references.** -/
theorem expandText_text {t : Template} (h : t.WellFormed) :
    expandText env (String.ofList t.text) = ⟨String.ofList (t.filled env), t.warnings env⟩ := by
  have hchars : expandChars env t.text = ⟨t.filled env, t.warnings env⟩ := by
    rw [Template.text, expandChars_literal h.front (head?_parts t.parts), expandChars_parts h.parts]
    rfl
  simp [expandText, hchars, bind, pure]

end

/-! ## Values -/

namespace Value

mutual

/-- The texts in a value, in order. Keys do not count, and what is in a tuple does not either. -/
def texts : Value → List String
  | .text s => [s]
  | .list items => textsOfList items
  | .mapping entries => textsOfEntries entries
  | _ => []

def textsOfList : List Value → List String
  | [] => []
  | item :: rest => item.texts ++ textsOfList rest

def textsOfEntries : List (Scalar × Value) → List String
  | [] => []
  | (_, value) :: rest => value.texts ++ textsOfEntries rest

end

mutual

/-- The value with nothing in the place of its texts: its lists, its keys, and all other values. -/
def blanked : Value → Value
  | .text _ => .text ""
  | .list items => .list (blankedItems items)
  | .mapping entries => .mapping (blankedEntries entries)
  | v => v

def blankedItems : List Value → List Value
  | [] => []
  | item :: rest => item.blanked :: blankedItems rest

def blankedEntries : List (Scalar × Value) → List (Scalar × Value)
  | [] => []
  | (key, value) :: rest => (key, value.blanked) :: blankedEntries rest

end

/-- `m` is `v` with `f` applied to its texts from the first to the last one, and nothing else changed. -/
structure Reworded (f : String → Logged String) (v : Value) (m : Logged Value) : Prop where
  form : m.result.blanked = v.blanked
  texts : m.result.texts = v.texts.map fun s => (f s).result
  log : m.log = v.texts.flatMap fun s => (f s).log

end Value

/-- What has no texts stays as it is. -/
theorem Value.reworded_pure {f : String → Logged String} {v : Value} (h : v.texts = []) : v.Reworded f (pure v) where
  form := rfl
  texts := by simp [h]
  log := by simp [h]

/-- A text is what its expansion comes to. -/
theorem Value.reworded_text (f : String → Logged String) (s : String) :
    (Value.text s).Reworded f (do return .text (← f s)) := by
  constructor <;> simp [blanked, Value.texts]

mutual

theorem expandValue_reworded (env : Environment) : ∀ v : Value, v.Reworded (expandText env) (expandValue env v)
  | .text s => by
    rw [expandValue]
    exact Value.reworded_text (expandText env) s
  | .list items => by
    rw [expandValue]
    exact expandValues_reworded env items
  | .mapping entries => by
    rw [expandValue]
    exact expandEntries_reworded env entries
  | .null | .bool _ | .int _ | .float _ | .bytes _ | .scalar (.date _) | .scalar (.dateTime _) | .tuple _ | .set _
  | .object _ | .atom => by
    simpa [expandValue] using Value.reworded_pure rfl

theorem expandValues_reworded (env : Environment) : ∀ items : List Value,
    (Value.list items).Reworded (expandText env) (do return .list (← expandValues env items))
  | [] => by
    rw [expandValues]
    exact Value.reworded_pure rfl
  | item :: rest => by
    obtain ⟨hform, htexts, hlog⟩ := expandValue_reworded env item
    obtain ⟨hrestForm, hrestTexts, hrestLog⟩ := expandValues_reworded env rest
    rw [expandValues]
    constructor
    case form => simp_all [Value.blanked, Value.blankedItems]
    case texts => simp_all [Value.texts, Value.textsOfList]
    case log => simp_all [Value.texts, Value.textsOfList]

theorem expandEntries_reworded (env : Environment) : ∀ entries : List (Scalar × Value),
    (Value.mapping entries).Reworded (expandText env) (do return .mapping (← expandEntries env entries))
  | [] => by
    rw [expandEntries]
    exact Value.reworded_pure rfl
  | (key, value) :: rest => by
    obtain ⟨hform, htexts, hlog⟩ := expandValue_reworded env value
    obtain ⟨hrestForm, hrestTexts, hrestLog⟩ := expandEntries_reworded env rest
    rw [expandEntries]
    constructor
    case form => simp_all [Value.blanked, Value.blankedEntries]
    case texts => simp_all [Value.texts, Value.textsOfEntries]
    case log => simp_all [Value.texts, Value.textsOfEntries]

end

/-! ## Expansion -/

/-- **Expansion is one exact pass.** A text with references becomes the same text with each reference filled in, and
what is reported are the references that stand for nothing, in order. In other values the texts in lists and mappings
are expanded, in order, and all else stays: the keys and their order, the lengths of lists, and the values that are no
texts. -/
theorem expansion_exact (env : Environment) :
    (∀ t : Template, t.WellFormed →
      expandText env (String.ofList t.text) = ⟨String.ofList (t.filled env), t.warnings env⟩) ∧
    ∀ v : Value, v.Reworded (expandText env) (expandValue env v) := by
  constructor
  · intro t ht
    exact expandText_text ht
  · intro v
    exact expandValue_reworded env v

/-- An environment whose values look like references. -/
def misleading : Environment where
  bindings := [("A", "$\x7bB\x7d"), ("B", "b"), ("EMPTY", "")]

/-- References next to characters that could be parts of references: a dollar sign in front of one, an opening in a name
and in a default, and a closing brace behind. -/
def lookAlikes : Template where
  front := ['$']
  parts := [(⟨['A'], none⟩, ['\x7d', ':', '-']), (⟨['E', 'M', 'P', 'T', 'Y'], some ['x']⟩, ['\x7b', '$']),
    (⟨['$', '\x7b', '\n'], some [':', '-', '$', '\x7b']⟩, ['$', '$']), (⟨['N', 'O', 'N', 'E'], none⟩, [])]

theorem expansion_exact_lookAlikes :
    lookAlikes.WellFormed ∧
    String.ofList lookAlikes.text =
      "$$\x7bA\x7d\x7d:-$\x7bEMPTY:-x\x7d\x7b$$\x7b$\x7b\n:-:-$\x7b\x7d$$$\x7bNONE\x7d" ∧
    expandText misleading (String.ofList lookAlikes.text) =
      ⟨"$$\x7bB\x7d\x7d:-\x7b$:-$\x7b$$",
        [⟨.warning, "Environment variable $NONE is not set and has no default"⟩]⟩ := by
  have hwell : lookAlikes.WellFormed := by
    refine ⟨by decide, ?_⟩
    simp only [lookAlikes, List.forall_mem_cons]
    refine ⟨⟨⟨by simp, by simp, ?_⟩, by decide⟩, ⟨⟨by simp, by simp, ?_⟩, by decide⟩,
      ⟨⟨by simp, by simp, ?_⟩, by decide⟩, ⟨⟨by simp, by simp, ?_⟩, by decide⟩, by simp⟩
    all_goals
      intro chars hchars
      cases hchars
    · decide
    · decide
  refine ⟨hwell, by decide, ?_⟩
  rw [(expansion_exact misleading).1 lookAlikes hwell]
  rfl

end ScriptCoverage
