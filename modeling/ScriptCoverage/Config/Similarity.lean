/-!
# Similar names

A misspelt key is answered with the known key that resembles it most. Two texts are compared by the
longest block they share, then by the blocks shared to the left and to the right of it; their likeness
is the share of characters in such blocks. In a long text the characters that occur very often start no
block, though a block may still grow over them.

Specification: section 9, the suggestions of the validation.
-/

namespace ScriptCoverage.Similarity

/-- A block of characters that two texts share: where it starts in each, and its length. -/
structure Block where
  first : Nat
  second : Nat
  size : Nat
  deriving DecidableEq, Repr

/-- Lengths of the common runs that end in a character `c` of the first text and at each place of the
second, from those that end one character earlier. -/
def nextRow (skip : Char → Bool) (c : Char) (b : List Char) (previous : List Nat) : List Nat :=
  List.zipWith (fun d run => if d = c ∧ !skip d then run + 1 else 0) b (0 :: previous)

/-- The best of a row of runs that end at place `i` of the first text; of equally long ones the earlier. -/
def bestOfRow (i : Nat) (best : Block) (row : List Nat) : Block :=
  row.zipIdx.foldl (fun best (run, j) =>
    if best.size < run then ⟨i + 1 - run, j + 1 - run, run⟩ else best) best

/-- The longest common run that holds no skipped character; of equally long ones the earliest. -/
def longestRun (skip : Char → Bool) (a b : List Char) : Block :=
  (a.zipIdx.foldl (fun (best, row) (c, i) =>
    let row := nextRow skip c b row
    (bestOfRow i best row, row)) (⟨0, 0, 0⟩, List.replicate b.length 0)).1

/-- The length of the common start of two texts. -/
def commonStart : List Char → List Char → Nat
  | c :: a, d :: b => if c = d then commonStart a b + 1 else 0
  | _, _ => 0

/-- The block around the longest run, grown over equal characters on both sides. -/
def longestBlock (skip : Char → Bool) (a b : List Char) : Block :=
  let run := longestRun skip a b
  let before := commonStart (a.take run.first).reverse (b.take run.second).reverse
  let after := commonStart (a.drop (run.first + run.size)) (b.drop (run.second + run.size))
  ⟨run.first - before, run.second - before, before + run.size + after⟩

/-- How many characters the shared blocks hold. Each round takes at least one character of the first
text, so `rounds` may be its length. -/
def sharedFrom (skip : Char → Bool) : (rounds : Nat) → List Char → List Char → Nat
  | 0, _, _ => 0
  | rounds + 1, a, b =>
    let block := longestBlock skip a b
    if block.size = 0 then 0
    else
      sharedFrom skip rounds (a.take block.first) (b.take block.second) + block.size +
        sharedFrom skip rounds (a.drop (block.first + block.size)) (b.drop (block.second + block.size))

/-- Characters that occur too often in a text to start a block: in one of 200 characters or more, those
that make up over a hundredth of it, and one more. -/
def isFrequent (b : List Char) (c : Char) : Bool :=
  decide (200 ≤ b.length) && decide (b.length / 100 + 1 < b.count c)

/-- The characters that a candidate shares with a text. -/
def shared (candidate text : List Char) : Nat :=
  sharedFrom (isFrequent text) candidate.length candidate text

/-- Twice the shared characters and all characters of two texts: their likeness as a fraction. -/
def likeness (candidate text : List Char) : Nat × Nat :=
  let total := candidate.length + text.length
  if total = 0 then (1, 1) else (2 * shared candidate text, total)

/-- Whether one likeness, with its candidate, comes before another: it is greater, or equal with a
candidate that is greater by code points. -/
def precedes (x y : (Nat × Nat) × String) : Bool :=
  let left := x.1.1 * y.1.2
  let right := y.1.1 * x.1.2
  decide (right < left) || (decide (left = right) && decide (y.2 ≤ x.2))

/-- The candidate most like a text, if their likeness is at least three fifths. -/
def closest (text : String) (candidates : List String) : Option String :=
  let rated := candidates.map fun c => (likeness c.toList text.toList, c)
  let close := rated.filter fun ((num, den), _) => 3 * den ≤ 5 * num
  (close.mergeSort precedes).head?.map (·.2)

end ScriptCoverage.Similarity
