import ScriptCoverage.Text.Quoted

/-!
# Hosts by number

In an address a host stands in brackets if it is given by a number whose parts are separated by colons. Such
a number has eight groups of hexadecimal digits, of which one run of zeros may be left out, and may name a
zone of the network behind a `%`. Numbers with dots name a host without brackets, and numbers of later
versions start with a `v`.

Specification: section 1, remote retrieval, what it takes as a host.
-/

namespace ScriptCoverage

/-- Why a host cannot stand in brackets. -/
inductive HostError where
  /-- A number of a later version has no version or nothing behind it. -/
  | versioned
  /-- A number with dots stands without brackets. -/
  | dotted
  | noNumber (host : String)
  deriving DecidableEq, Repr

def HostError.message : HostError → String
  | versioned => "IPvFuture address is invalid"
  | dotted => "An IPv4 address cannot be in brackets"
  | noNumber host => s!"{Quoted.text host} does not appear to be an IPv4 or IPv6 address"

namespace Host

def isHexDigit (c : Char) : Bool := c.isDigit || ('a' ≤ c && c ≤ 'f') || ('A' ≤ c && c ≤ 'F')

/-- The parts of a text between the places where a mark stands; there is always one. -/
def parts (mark : Char) : List Char → List (List Char)
  | [] => [[]]
  | c :: rest =>
    if c = mark then [] :: parts mark rest
    else match parts mark rest with
      | [] => [[c]]
      | part :: more => (c :: part) :: more

/-- A number below 256 without leading zeros. -/
def isOctet (cs : List Char) : Bool :=
  let value := cs.foldl (fun value c => value * 10 + (c.toNat - '0'.toNat)) 0
  !cs.isEmpty && cs.all Char.isDigit && cs.length ≤ 3 && value ≤ 255 &&
    (cs.length == 1 || cs.head? != some '0')

/-- Four octets between dots. -/
def isDotted (cs : List Char) : Bool :=
  let octets := parts '.' cs
  octets.length == 4 && octets.all isOctet

def isGroup (cs : List Char) : Bool := !cs.isEmpty && cs.length ≤ 4 && cs.all isHexDigit

/-- How many groups the parts of a number are. If `dots`, the last part may have dots and is two groups. -/
def groupCount? (dots : Bool) : List (List Char) → Option Nat
  | [] => some 0
  | [part] => if isGroup part then some 1 else if dots && isDotted part then some 2 else none
  | part :: more => if isGroup part then (· + 1) <$> groupCount? dots more else none

/-- The texts before and after the first `::`. -/
def splitGap : List Char → Option (List Char × List Char)
  | ':' :: ':' :: rest => some ([], rest)
  | c :: rest => (splitGap rest).map fun (before, after) => (c :: before, after)
  | [] => none

/-- The parts of a number between colons, of which there are none in an empty text. -/
def groups (cs : List Char) : List (List Char) := if cs.isEmpty then [] else parts ':' cs

/-- A number with colons: eight groups, or fewer around a `::`. -/
def isColonNumber (cs : List Char) : Bool :=
  match splitGap cs with
  | none => groupCount? true (groups cs) == some 8
  | some (before, after) =>
    match groupCount? false (groups before), groupCount? true (groups after) with
    | some m, some n => m + n ≤ 7
    | _, _ => false

/-- A number with colons, and possibly a zone behind it. -/
def isZonedNumber (cs : List Char) : Bool :=
  let number := cs.takeWhile (· ≠ '%')
  let zone := cs.drop (number.length + 1)
  isColonNumber number && (number.length == cs.length || (!zone.isEmpty && !zone.contains '%'))

/-- A version in hexadecimal digits behind the `v`, then a dot, and then something. -/
def isVersioned (cs : List Char) : Bool :=
  let digits := cs.takeWhile isHexDigit
  match cs.drop digits.length with
  | '.' :: _ :: _ => !digits.isEmpty
  | _ => false

/-- Whether a host may stand in brackets. -/
def checkBracketed : List Char → Except HostError Unit
  | 'v' :: rest => if isVersioned rest then .ok () else .error .versioned
  | cs =>
    if isDotted cs then .error .dotted
    else if isZonedNumber cs then .ok ()
    else .error (.noNumber (String.ofList cs))

end Host

end ScriptCoverage
