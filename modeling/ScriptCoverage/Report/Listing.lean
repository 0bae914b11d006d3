import ScriptCoverage.Number.Decimal
import ScriptCoverage.Report.Marker
import ScriptCoverage.Text.Lines

/-!
# Listings

A listing is the annotated source with a label in front of every line: the line number, padded to the
width of the last one, in the wording of the style.

Specification: section 4.5, the report renderer.
-/

namespace ScriptCoverage

namespace LabelPiece

private def consFixed (c : Char) : List LabelPiece → List LabelPiece
  | .fixed text :: rest => .fixed (c :: text) :: rest
  | pieces => .fixed [c] :: pieces

/-- The pieces of a template in which `\x7bnumber\x7d` stands for the line number and a brace written
twice for itself. -/
def parse (template : Text) : List LabelPiece :=
  go template.length template
where
  go : Nat → Text → List LabelPiece
    | 0, _ => []
    | _, [] => []
    | fuel + 1, c :: rest =>
      if c = '\x7b' ∨ c = '\x7d' then
        match rest with
        | d :: more =>
          if d = c then consFixed c (go fuel more)
          else .number :: go fuel ((rest.dropWhile (· ≠ '\x7d')).drop 1)
        | [] => []
      else consFixed c (go fuel rest)

def fill (number : Text) : LabelPiece → Text
  | .fixed text => text
  | .number => number

end LabelPiece

namespace MarkerStyle

/-- What stands in front of line `number`, its number padded to `width` digits. -/
def linePrefix (style : MarkerStyle) (number width : Nat) : Text :=
  let digits := decimalDigits number
  let padded := (List.replicate (width - digits.length) style.pad).flatten ++ digits
  style.label.flatMap (LabelPiece.fill padded)

end MarkerStyle

/-- Text with a line feed between each two of its lines. -/
def joinLines : List Text → Text
  | [] => []
  | [line] => line
  | line :: rest => line ++ '\n' :: joinLines rest

/-- Labels lines from `number` on, with numbers padded to `width` digits. -/
def labelLines (style : MarkerStyle) (width number : Nat) : List Text → List Text
  | [] => []
  | line :: rest => (style.linePrefix number width ++ line) :: labelLines style width (number + 1) rest

/-- The text with a label in front of every line. -/
def numberLines (text : Text) (style : MarkerStyle) : Text :=
  let lines := text.lines
  joinLines (labelLines style (decimalDigits lines.length).length 1 lines)

/-- The annotated source of a run. -/
def listing (source : Text) (units : List CoverableUnit) (style : MarkerStyle) : Text :=
  numberLines (applyMarkers source units style) style

/-- Plain text: `[+ … +]` around text that ran, `[- … -]` around text that did not. The same brackets can
occur in the script, so coverage is judged from the units and not by searching the listing. -/
def textStyle : MarkerStyle where
  hitOpen := ['[', '+']
  missOpen := ['[', '-']
  hitClose := ['+', ']']
  missClose := ['-', ']']

/-- One character of HTML text. Quotes stand for themselves: no source text goes into an attribute. -/
def htmlEscapeChar (c : Char) : Text :=
  if c = '&' then "&amp;".toList
  else if c = '<' then "&lt;".toList
  else if c = '>' then "&gt;".toList
  else [c]

/-- An HTML fragment with one `span` per unit and per line number. -/
def htmlStyle : MarkerStyle where
  hitOpen := "<span class=\"tailwind-covered\">".toList
  missOpen := "<span class=\"tailwind-missed\">".toList
  hitClose := "</span>".toList
  missClose := "</span>".toList
  label :=
    [.fixed "<span class=\"tailwind-lineno\">".toList, .number, .fixed "</span>".toList]
  pad := "&nbsp;".toList
  escape := fun text => text.flatMap htmlEscapeChar

end ScriptCoverage
