import ScriptCoverage.Address.Host
import ScriptCoverage.Text.Blank

/-!
# Addresses

What is opened for an address is the address without its wrapping. An address needs a scheme, and if it has
an authority, the part behind `//`, that has to be sound: brackets enclose the whole host, which is then
given by a number, and no character stands for a mark that would end the authority.

Specification: section 1, remote retrieval, what it takes as an address.
-/

namespace ScriptCoverage

/-- Why an address cannot be opened. -/
inductive AddressError where
  | noScheme (shown : String)
  /-- A bracket without a partner, or something between a bracket and the end of the host. -/
  | misplacedBracket
  | host (cause : HostError)
  /-- A character of the authority stands for a mark that separates the parts of an address. -/
  | disguisedMark (authority : String)
  deriving DecidableEq, Repr

def AddressError.message : AddressError → String
  | noScheme shown => s!"unknown url type: {Quoted.text shown}"
  | misplacedBracket => "Invalid IPv6 URL"
  | host cause => cause.message
  | disguisedMark authority =>
    s!"netloc '{authority}' contains invalid characters under NFKC normalization"

namespace Address

/-- The address without surrounding blanks, angle brackets and the label `URL:`. -/
def bare (address : String) : List Char :=
  let cs := trimEnds isBlank address.toList
  let inner :=
    if cs.head? = some '<' ∧ cs.getLast? = some '>' then trimEnds isBlank (cs.drop 1).dropLast else cs
  if inner.take 4 = ['U', 'R', 'L', ':'] then trimEnds isBlank (inner.drop 4) else inner

/-- The address up to its last `#`, and the fragment after it. -/
def splitFragment (cs : List Char) : List Char × List Char :=
  if '#' ∈ cs then
    let fragment := (cs.reverse.takeWhile (· ≠ '#')).reverse
    (cs.take (cs.length - fragment.length - 1), fragment)
  else (cs, [])

/-- Whether an address starts with a scheme: characters other than `/` and `:`, and then a colon. -/
def hasScheme (cs : List Char) : Bool :=
  let scheme := cs.takeWhile fun c => c ≠ '/' && c ≠ ':'
  !scheme.isEmpty && (cs.drop scheme.length).head? == some ':'

/-! ## The authority -/

/-- Characters of a proper scheme, which starts with a letter. -/
def isSchemeChar (c : Char) : Bool := c.isAlphanum || c == '+' || c == '-' || c == '.'

/-- The address behind its scheme, if that is a proper one. -/
def afterScheme (cs : List Char) : List Char :=
  let scheme := cs.takeWhile (· ≠ ':')
  if scheme.length < cs.length ∧ scheme.head?.any Char.isAlpha ∧ scheme.all isSchemeChar then
    cs.drop (scheme.length + 1)
  else cs

/-- The authority of an address, which is empty if there is none. Control characters and blanks in front
of the address do not count, and neither do tabulators and line ends in it. -/
def authority (cs : List Char) : List Char :=
  let counted := (cs.dropWhile (·.toNat ≤ 0x20)).filter fun c => c ≠ '\t' ∧ c ≠ '\n' ∧ c ≠ '\r'
  match afterScheme counted with
  | '/' :: '/' :: rest => rest.takeWhile fun c => c ≠ '/' ∧ c ≠ '?' ∧ c ≠ '#'
  | _ => []

/-- The host and port of an authority, without the user in front of the last `@`. -/
def hostAndPort (authority : List Char) : List Char := (authority.reverse.takeWhile (· ≠ '@')).reverse

/-- Checks the brackets of an authority. An authority with brackets in front of an `@` only needs a host that
could stand in brackets. -/
def checkBrackets (authority : List Char) : Except AddressError Unit :=
  let named (host : List Char) : Except AddressError Unit := (Host.checkBracketed host).mapError .host
  match authority.contains '[', authority.contains ']' with
  | false, false => .ok ()
  | true, true =>
    match hostAndPort authority with
    | '[' :: bracketed =>
      let host := bracketed.takeWhile (· ≠ ']')
      match bracketed.drop (host.length + 1) with
      | [] | ':' :: _ => named host
      | _ => .error .misplacedBracket
    | shown => if shown.contains '[' then .error .misplacedBracket else named (shown.takeWhile (· ≠ ':'))
  | _, _ => .error .misplacedBracket

/-- The characters whose compatibility decomposition holds one of `/`, `?`, `#`, `@` and `:`. -/
def disguises : List Char :=
  ['\u2047', '\u2048', '\u2049', '\u2100', '\u2101', '\u2105', '\u2106', '\u2a74', '\ufe13', '\ufe16',
   '\ufe55', '\ufe56', '\ufe5f', '\ufe6b', '\uff03', '\uff0f', '\uff1a', '\uff1f', '\uff20']

/-- Checks the authority of an address. -/
def checkAuthority (cs : List Char) : Except AddressError Unit := do
  let authority := authority cs
  checkBrackets authority
  if authority.any disguises.contains then throw (.disguisedMark (String.ofList authority))

/-- The address that is opened. An empty fragment is dropped. -/
def resolve (address : String) : Except AddressError String := do
  let (location, fragment) := splitFragment (bare address)
  let full := if fragment.isEmpty then location else location ++ '#' :: fragment
  if !hasScheme location then throw (.noScheme (String.ofList full))
  checkAuthority full
  return String.ofList full

end Address

end ScriptCoverage
