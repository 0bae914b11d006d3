import ScriptCoverage.Text.Lines

/-!
# The lines of a text

How the lines of a text change when something is put in front of it: a line end makes a line of its own, and a text
without line ends goes to the first line (`lines_append`). Writing all line ends as line feeds changes a text exactly
if a carriage return occurs in it (`unifyLineEnds_eq_self_iff`).
-/

namespace ScriptCoverage.Text

/-- A text in which no line ends. -/
def OneLine (text : Text) : Prop := '\r' ∉ text ∧ '\n' ∉ text

instance (text : Text) : Decidable text.OneLine := inferInstanceAs (Decidable (_ ∧ _))

theorem OneLine.nil : OneLine [] := ⟨List.not_mem_nil, List.not_mem_nil⟩

theorem OneLine.append {first rest : Text} (h : first.OneLine) (h' : rest.OneLine) : (first ++ rest).OneLine :=
  ⟨by simp [h.1, h'.1], by simp [h.2, h'.2]⟩

theorem oneLine_cons {c : Char} {rest : Text} : OneLine (c :: rest) ↔ (c ≠ '\r' ∧ c ≠ '\n') ∧ OneLine rest := by
  simp only [OneLine, List.mem_cons, not_or, ne_comm (a := c)]
  exact and_and_and_comm

/-- What does not end a line does not start with a line feed, unless it is empty. -/
theorem OneLine.head?_append {first : Text} (h : first.OneLine) {rest : Text} (hrest : rest.head? ≠ some '\n') :
    (first ++ rest).head? ≠ some '\n' := by
  cases first with
  | nil => exact hrest
  | cons c first =>
    simp only [List.cons_append, List.head?_cons, ne_eq, Option.some.injEq]
    exact (oneLine_cons.1 h).1.2

/-! ## What is put in front -/

theorem lines_return_feed (rest : Text) : lines ('\r' :: '\n' :: rest) = [] :: lines rest := by
  rw [lines]

theorem lines_return {rest : Text} (h : rest.head? ≠ some '\n') : lines ('\r' :: rest) = [] :: lines rest := by
  rw [lines]
  · simp
  · rintro more - rfl
    exact h rfl

theorem lines_feed (rest : Text) : lines ('\n' :: rest) = [] :: lines rest := by
  rw [lines]
  · simp
  · intro _ hc _
    exact absurd hc (by decide)

theorem lines_cons {c : Char} (hr : c ≠ '\r') (hn : c ≠ '\n') (rest : Text) :
    lines (c :: rest) = consLine c (lines rest) := by
  rw [lines]
  · simp [hr, hn]
  · intro _ hc _
    exact absurd hc hr

theorem exists_lines_eq_cons (text : Text) : ∃ first later, lines text = first :: later := by
  fun_induction lines text with
  | case1 => exact ⟨[], [], rfl⟩
  | case2 rest => exact ⟨[], lines rest, rfl⟩
  | case3 c rest => exact ⟨[], lines rest, rfl⟩
  | case4 c rest _ _ ih =>
    obtain ⟨first, later, h⟩ := ih
    exact ⟨c :: first, later, by rw [h, consLine]⟩

/-- A text without line ends goes to the first line of what follows it. -/
theorem lines_append {front text first : Text} {later : List Text} (h : front.OneLine)
    (htext : lines text = first :: later) : lines (front ++ text) = (front ++ first) :: later := by
  induction front with
  | nil => exact htext
  | cons c front ih =>
    obtain ⟨⟨hr, hn⟩, hfront⟩ := oneLine_cons.1 h
    rw [List.cons_append, lines_cons hr hn, ih hfront]
    rfl

/-- No line holds a line end. -/
theorem oneLine_of_mem_lines {text line : Text} (h : line ∈ lines text) : line.OneLine := by
  fun_induction lines text generalizing line with
  | case1 =>
    rw [List.mem_singleton.1 h]
    exact OneLine.nil
  | case2 rest ih | case3 c rest _ _ ih =>
    rcases List.mem_cons.1 h with rfl | h
    · exact OneLine.nil
    · exact ih h
  | case4 c rest _ hc ih =>
    obtain ⟨first, later, hrest⟩ := exists_lines_eq_cons rest
    rw [hrest] at h ih
    rcases List.mem_cons.1 h with rfl | h
    · exact oneLine_cons.2 ⟨not_or.1 hc, ih List.mem_cons_self⟩
    · exact ih (List.mem_cons_of_mem _ h)

/-! ## Writing line ends as line feeds -/

theorem return_not_mem_unifyLineEnds (text : Text) : '\r' ∉ unifyLineEnds text := by
  fun_induction unifyLineEnds text with
  | case1 => exact List.not_mem_nil
  | case2 rest ih => simp [ih]
  | case3 c rest _ ih =>
    rw [List.mem_cons, not_or]
    refine ⟨?_, ih⟩
    split
    · decide
    · rename_i hc
      exact fun h => hc h.symm

theorem unifyLineEnds_eq_self_iff {text : Text} : unifyLineEnds text = text ↔ '\r' ∉ text := by
  constructor
  · intro h
    rw [← h]
    exact return_not_mem_unifyLineEnds text
  · intro h
    fun_induction unifyLineEnds text with
    | case1 => rfl
    | case2 rest => exact absurd List.mem_cons_self h
    | case3 c rest _ ih =>
      rw [List.mem_cons, not_or] at h
      rw [ih h.2, if_neg (Ne.symm h.1)]

end ScriptCoverage.Text
