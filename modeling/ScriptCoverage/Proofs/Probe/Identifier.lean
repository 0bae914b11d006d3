import ScriptCoverage.Proofs.Config.Setting
import ScriptCoverage.Proofs.Probe.Acceptance
import ScriptCoverage.Text.Blank
import Mathlib.Data.List.Basic

/-!
# Which names probes can have

The check of probe names is meant to let through the identifiers of plain ASCII. `isName_iff` says that it lets through
these and, because it reads a name as a line, the same with one line feed behind them. Nothing looks at the name again:
what a probe in a script calls is the name as it was given (`callee_probe`), so that line feed gets into the script.
`accepted_iff` says this of the names that settings and instrumentation accept.
-/

namespace ScriptCoverage

namespace Probe

/-- A letter of ASCII, an underscore or a dollar sign. -/
def Leads (c : Char) : Prop := ('A' ≤ c ∧ c ≤ 'Z') ∨ ('a' ≤ c ∧ c ≤ 'z') ∨ c = '_' ∨ c = '$'

/-- A character that an identifier may go on with. -/
def Continues (c : Char) : Prop := Leads c ∨ ('0' ≤ c ∧ c ≤ '9')

/-- An identifier of plain ASCII. -/
def Identifier (cs : List Char) : Prop := ∃ lead rest, cs = lead :: rest ∧ Leads lead ∧ ∀ c ∈ rest, Continues c

/-- An identifier, or one with a line feed behind it. -/
def IdentifierLine (cs : List Char) : Prop :=
  Identifier cs ∨ ∃ identifier, Identifier identifier ∧ cs = identifier ++ ['\n']

/-! ## The check -/

theorem isUpper_iff (c : Char) : c.isUpper = true ↔ 'A' ≤ c ∧ c ≤ 'Z' := decide_eq_true_iff

theorem isLower_iff (c : Char) : c.isLower = true ↔ 'a' ≤ c ∧ c ≤ 'z' :=
  Bool.and_eq_true_iff.trans (and_congr decide_eq_true_iff decide_eq_true_iff)

theorem isDigit_iff (c : Char) : c.isDigit = true ↔ '0' ≤ c ∧ c ≤ '9' :=
  Bool.and_eq_true_iff.trans (and_congr decide_eq_true_iff decide_eq_true_iff)

theorem isAlpha_iff (c : Char) : c.isAlpha = true ↔ ('A' ≤ c ∧ c ≤ 'Z') ∨ ('a' ≤ c ∧ c ≤ 'z') :=
  Bool.or_eq_true_iff.trans (or_congr (isUpper_iff c) (isLower_iff c))

theorem startsIdentifier_iff (c : Char) : startsIdentifier c = true ↔ Leads c := by
  simp only [startsIdentifier, isAlpha_iff, Leads, Bool.or_eq_true, beq_iff_eq, or_assoc]

theorem continuesIdentifier_iff (c : Char) : continuesIdentifier c = true ↔ Continues c := by
  rw [Continues, ← startsIdentifier_iff, ← isDigit_iff]
  simp only [continuesIdentifier, startsIdentifier, Char.isAlphanum, Bool.or_eq_true, or_assoc, or_comm, or_left_comm]

theorem isIdentifier_iff {cs : List Char} : isIdentifier cs = true ↔ Identifier cs := by
  cases cs with
  | nil => simp [isIdentifier, Identifier]
  | cons lead rest => simp [isIdentifier, Identifier, startsIdentifier_iff, continuesIdentifier_iff]

/-- **The check** lets through the identifiers, with or without a line feed behind them. -/
theorem isName_iff (name : String) : isName name = true ↔ IdentifierLine name.toList := by
  simp only [isName, Bool.or_eq_true, Bool.and_eq_true, beq_iff_eq, isIdentifier_iff, IdentifierLine]
  refine or_congr_right ⟨?_, ?_⟩
  · rintro ⟨hlast, hidentifier⟩
    exact ⟨_, hidentifier, (List.dropLast_append_getLast? _ hlast).symm⟩
  · rintro ⟨identifier, hidentifier, hcs⟩
    rw [hcs]
    exact ⟨List.getLast?_concat, by rwa [List.dropLast_concat]⟩

/-! ## Blanks and parentheses in names -/

theorem Continues.code {c : Char} (h : Continues c) : c.toNat = 36 ∨ (48 ≤ c.toNat ∧ c.toNat ≤ 122) := by
  simp only [Continues, Leads, Char.le_def, UInt32.le_iff_toNat_le] at h
  rcases h with (h | h | rfl | rfl) | h
  · change 65 ≤ c.toNat ∧ c.toNat ≤ 90 at h
    omega
  · change 97 ≤ c.toNat ∧ c.toNat ≤ 122 at h
    omega
  · exact Or.inr (by decide)
  · exact Or.inl (by decide)
  · change 48 ≤ c.toNat ∧ c.toNat ≤ 57 at h
    omega

theorem Continues.not_blank {c : Char} (h : Continues c) : isBlank c = false := by
  have hcode := h.code
  have hspace : (c == ' ') = false := by
    refine beq_eq_false_iff_ne.2 ?_
    rintro rfl
    exact absurd hcode (by decide)
  simp only [isBlank, isSeparator, hspace, Bool.or_eq_false_iff, Bool.and_eq_false_iff, beq_eq_false_iff_ne,
    decide_eq_false_iff_not, true_and]
  omega

theorem Identifier.continues {cs : List Char} (h : Identifier cs) : ∀ c ∈ cs, Continues c := by
  obtain ⟨lead, rest, rfl, hlead, hrest⟩ := h
  exact List.forall_mem_cons.2 ⟨Or.inl hlead, hrest⟩

/-- The line feed is the only blank that a name can hold. -/
theorem IdentifierLine.not_blank_iff {cs : List Char} (h : IdentifierLine cs) :
    (∀ c ∈ cs, isBlank c = false) ↔ Identifier cs := by
  refine ⟨fun hblank => ?_, fun hidentifier c hc => (hidentifier.continues c hc).not_blank⟩
  rcases h with hidentifier | ⟨identifier, -, rfl⟩
  · exact hidentifier
  · have hfeed := hblank '\n' (by simp)
    exact absurd hfeed (by decide)

theorem IdentifierLine.ne_parenthesis {cs : List Char} (h : IdentifierLine cs) : ∀ c ∈ cs, c ≠ '(' := by
  have hidentifier : ∀ identifier, Identifier identifier → ∀ c ∈ identifier, c ≠ '(' := by
    rintro identifier hidentifier c hc rfl
    exact absurd (hidentifier.continues _ hc).code (by decide)
  rcases h with h | ⟨identifier, h, rfl⟩
  · exact hidentifier cs h
  · intro c hc
    rcases List.mem_append.1 hc with hc | hc
    · exact hidentifier identifier h c hc
    · rw [List.mem_singleton.1 hc]
      decide

/-! ## Names in scripts -/

/-- What a probe calls: its text up to the first parenthesis. -/
def callee (probe : Text) : Text := probe.takeWhile fun c => decide (c ≠ '(')

theorem callee_probe {name : String} (h : IdentifierLine name.toList) (u : CoverableUnit) :
    callee (u.probe name) = name.toList := by
  have hprobe : ∃ rest, u.probe name = name.toList ++ '(' :: rest := by
    refine ⟨(toString u.id).toList ++ ')' :: (if u.isExpression then " || " else ";").toList, ?_⟩
    simp only [CoverableUnit.probe, String.toList_append]
    simp [toString]
  obtain ⟨rest, hrest⟩ := hprobe
  rw [callee, hrest, List.takeWhile_append_of_pos (by simpa using h.ne_parenthesis)]
  simp

/-- Nothing but its name makes a script be refused for the name of its probes. -/
theorem instrument_eq_invalidName (source : Text) (units : List CoverableUnit) (name : String) :
    instrument source units name = .error (.invalidName name) ↔ isName name = false := by
  cases hname : isName name with
  | false => simp [instrument, hname]
  | true =>
    refine iff_of_false (fun h => ?_) (by simp)
    by_cases horder : InOrder source.length 0 (-1) units
    · rw [instrument_of_inOrder hname horder] at h
      cases h
    · obtain ⟨before, u, after, -, -, -, hsplice⟩ := splice_of_not_inOrder name 0 horder
      have hrefusal : instrument source units name = .error (u.refusal (startBefore (-1) before)) := by
        simp only [instrument, hname, if_true, hsplice]
        rfl
      rw [hrefusal, CoverableUnit.refusal] at h
      split at h <;> cases h

theorem isName_of_instrument {source : Text} {units : List CoverableUnit} {name : String} {script : Instrumented}
    (h : instrument source units name = .ok script) : isName name = true := by
  rw [← Bool.not_eq_false, ← instrument_eq_invalidName source units, h]
  simp

/-- A name is a setting of its own. -/
theorem exists_config {name : String} (h : isName name = true) :
    ∃ data config, Config.ofMapping data = .ok config ∧ config.probeName = name := by
  refine ⟨[(.text "instrumentation", .record [("probe_name", .text name)])], { probeName := name }, ?_, rfl⟩
  refine Config.ofMapping_eq_ok.2 ⟨Config.probeName?_eq_some.2 ⟨?_, h⟩, ?_, ?_, ?_, ?_, ?_, rfl⟩
  all_goals simp [sectionOf, Mapping.get?, Mapping.find?, Scalar.key, Value.record, Value.toFloat, Mapping.without]

/-- **Accepted names.** The check lets through the identifiers of plain ASCII, with or without one line feed behind them.
These are the names that settings can have and that instrumentation does not refuse. Every probe in an instrumented
script calls the name as it is, so there are blanks in what it calls exactly if that line feed is there. -/
theorem accepted_iff (name : String) :
    (isName name = true ↔ IdentifierLine name.toList) ∧
    ((∃ data config, Config.ofMapping data = .ok config ∧ config.probeName = name) ↔ IdentifierLine name.toList) ∧
    (∀ source units, instrument source units name = .error (.invalidName name) ↔ ¬ IdentifierLine name.toList) ∧
    ∀ source units script, instrument source units name = .ok script → ∀ i ∈ script.insertions,
      callee i.probe = name.toList ∧ ((∀ c ∈ callee i.probe, isBlank c = false) ↔ Identifier name.toList) := by
  have hname := isName_iff name
  refine ⟨hname, ⟨?_, fun h => exists_config (hname.2 h)⟩, fun source units => ?_, fun source units script h i hi => ?_⟩
  · rintro ⟨data, config, hconfig, rfl⟩
    exact (isName_iff _).1 (Config.probeName?_eq_some.1 (Config.ofMapping_eq_ok.1 hconfig).probeName).2
  · rw [instrument_eq_invalidName, ← hname, Bool.not_eq_true]
  · have hline := hname.1 (isName_of_instrument h)
    obtain ⟨-, rfl⟩ := of_instrument_ok h
    obtain ⟨u, -, -, -, hprobe⟩ := mem_ledger hi
    rw [hprobe, callee_probe hline]
    exact ⟨rfl, hline.not_blank_iff⟩

/-- A script of one character, as a unit. -/
def soleUnit : CoverableUnit := ⟨0, 0, 1, .block, .program, false, [], 0, by decide⟩

theorem accepted_iff_feed : ∃ script, instrument "a".toList [soleUnit] "track\n" = .ok script ∧
    ∀ i ∈ script.insertions, callee i.probe = "track\n".toList ∧ ¬ ∀ c ∈ callee i.probe, isBlank c = false := by
  obtain ⟨-, -, -, hscript⟩ := accepted_iff "track\n"
  have hok : (instrument "a".toList [soleUnit] "track\n").toOption.isSome = true := by decide +kernel
  cases h : instrument "a".toList [soleUnit] "track\n" with
  | error e => rw [h] at hok; cases hok
  | ok script =>
    refine ⟨script, rfl, fun i hi => ?_⟩
    obtain ⟨hcallee, hblank⟩ := hscript _ _ script h i hi
    refine ⟨hcallee, fun hall => ?_⟩
    have hidentifier := isIdentifier_iff.2 (hblank.1 hall)
    revert hidentifier
    decide +kernel

/-- A name with a line feed is no identifier, and yet it is accepted and gets into the script. -/
theorem not_identifier_feed : isName "track\n" = true ∧ ¬ Identifier "track\n".toList ∧
    (instrument "a".toList [soleUnit] "track\n").map (·.text) = .ok "track\n(0);a".toList := by
  refine ⟨by decide +kernel, fun h => ?_, by decide +kernel⟩
  have hidentifier := isIdentifier_iff.2 h
  revert hidentifier
  decide +kernel

end Probe

end ScriptCoverage
