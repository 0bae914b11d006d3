/-!
# Base64

A byte string in a text format is written with 64 digits of ASCII: four digits of six bits each stand for
three bytes, and a rest of one or two bytes is filled up with `=`. A reader passes over every character
that is no digit, so that line ends between the digits do not count.
-/

namespace ScriptCoverage.Base64

/-- The digits, in the order of their values. -/
def alphabet : List Char := "ABCDEFGHIJKLMNOPQRSTUVWXYZabcdefghijklmnopqrstuvwxyz0123456789+/".toList

/-- The digit of a value below 64. -/
def digit (value : Nat) : Char := alphabet.getD value '='

def value? (c : Char) : Option Nat := alphabet.idxOf? c

/-- The digits of a byte string, four for three bytes. -/
def encode : List UInt8 → List Char
  | a :: b :: c :: rest =>
    [digit (a.toNat / 4), digit (a.toNat % 4 * 16 + b.toNat / 16), digit (b.toNat % 16 * 4 + c.toNat / 64),
      digit (c.toNat % 64)] ++ encode rest
  | [a, b] => [digit (a.toNat / 4), digit (a.toNat % 4 * 16 + b.toNat / 16), digit (b.toNat % 16 * 4), '=']
  | [a] => [digit (a.toNat / 4), digit (a.toNat % 4 * 16), '=', '=']
  | [] => []

/-- How many digits stand on a line. -/
def lineLength : Nat := 76

/-- The digits of a byte string in lines, of which only the last may be shorter. -/
def lines (bs : List UInt8) : List (List Char) :=
  let digits := encode bs
  (List.range ((digits.length + lineLength - 1) / lineLength)).map fun n =>
    (digits.drop (n * lineLength)).take lineLength

/-- The bytes that the digits of a group complete. -/
def groupBytes : List Nat → List UInt8
  | a :: b :: rest => UInt8.ofNat (a * 4 + b / 16) :: match rest with
    | c :: rest => UInt8.ofNat (b % 16 * 16 + c / 4) :: match rest with
      | d :: _ => [UInt8.ofNat (c % 4 * 64 + d)]
      | [] => []
    | [] => []
  | _ => []

/-- The bytes of a text, behind the digits of a group that is not full yet and the `=` that followed
them. Nothing counts behind a group that is filled up. -/
def decodeFrom (group : List Nat) (fill : Nat) : List Char → Option (List UInt8)
  | [] => if group.isEmpty then some [] else none
  | c :: rest =>
    if c = '=' ∧ 2 ≤ group.length then
      if 3 ≤ group.length + fill then some (groupBytes group) else decodeFrom group (fill + 1) rest
    else match value? c with
      | none => decodeFrom group fill rest
      | some value =>
        if group.length = 3 then (groupBytes (group ++ [value]) ++ ·) <$> decodeFrom [] 0 rest
        else decodeFrom (group ++ [value]) 0 rest

/-- The bytes that a text spells; nothing if its last group is not full. -/
def decode? (text : List Char) : Option (List UInt8) := decodeFrom [] 0 text

example : encode [0x00, 0xff] = ['A', 'P', '8', '='] := by decide
example : decode? ['A', 'P', '8', '='] = some [0x00, 0xff] := by decide

end ScriptCoverage.Base64
