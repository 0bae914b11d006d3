import ScriptCoverage.Text.Quoted
import ScriptCoverage.Text.Slice

/-!
# Decoding bytes

Scripts and settings are stored as bytes. `decodeUtf8` refuses a byte string at the first byte that no
encoded text has there, and reports the bytes of the character it broke off in. One-byte charsets are
decoded byte by byte.
-/

namespace ScriptCoverage

/-- Why bytes are no text: the reason and the first and last position of the offending bytes. -/
inductive DecodeReason where
  | startByte
  | continuationByte
  | unexpectedEnd
  | notAscii
  deriving DecidableEq, Repr

/-- A failed decoding. `value` is the byte at `first`. -/
structure DecodeError where
  reason : DecodeReason
  first : Nat
  last : Nat
  value : UInt8
  deriving DecidableEq, Repr

namespace DecodeReason

def text : DecodeReason → String
  | startByte => "invalid start byte"
  | continuationByte => "invalid continuation byte"
  | unexpectedEnd => "unexpected end of data"
  | notAscii => "ordinal not in range(128)"

def codec : DecodeReason → String
  | notAscii => "ascii"
  | _ => "utf-8"

end DecodeReason

def DecodeError.message (e : DecodeError) : String :=
  let subject :=
    if e.first = e.last then
      s!"byte 0x{String.ofList (Quoted.hexDigits 2 e.value.toNat)} in position {e.first}"
    else s!"bytes in position {e.first}-{e.last}"
  s!"'{e.reason.codec}' codec can't decode {subject}: {e.reason.text}"

namespace Utf8

/-- A character under way: its first byte and position, the bits read, the bytes still owed, and the
range that the next byte must lie in. -/
structure Pending where
  lead : UInt8
  start : Nat
  bits : Nat
  owed : Nat
  low : Nat := 0x80
  high : Nat := 0xbf

/-- What a byte between characters begins, if a character may begin with it. The ranges of the second
byte exclude overlong forms, surrogates and numbers beyond the last code point. -/
def begin? (lead : UInt8) (position : Nat) : Option Pending :=
  let b := lead.toNat
  if b < 0xc2 then none
  else if b < 0xe0 then some { lead, start := position, bits := b - 0xc0, owed := 1 }
  else if b < 0xf0 then
    let low := if b = 0xe0 then 0xa0 else 0x80
    let high := if b = 0xed then 0x9f else 0xbf
    some { lead, start := position, bits := b - 0xe0, owed := 2, low, high }
  else if b < 0xf5 then
    let low := if b = 0xf0 then 0x90 else 0x80
    let high := if b = 0xf4 then 0x8f else 0xbf
    some { lead, start := position, bits := b - 0xf0, owed := 3, low, high }
  else none

/-- The characters of the bytes from `position` on, with a character possibly under way. -/
def scan (position : Nat) : Option Pending → List UInt8 → Except DecodeError Text
  | none, [] => .ok []
  | some p, [] => .error ⟨.unexpectedEnd, p.start, position - 1, p.lead⟩
  | none, b :: rest =>
    if b.toNat < 0x80 then (Char.ofNat b.toNat :: ·) <$> scan (position + 1) none rest
    else match begin? b position with
      | some p => scan (position + 1) (some p) rest
      | none => .error ⟨.startByte, position, position, b⟩
  | some p, b :: rest =>
    if p.low ≤ b.toNat ∧ b.toNat ≤ p.high then
      let bits := p.bits * 64 + b.toNat % 64
      if p.owed = 1 then (Char.ofNat bits :: ·) <$> scan (position + 1) none rest
      else scan (position + 1)
        (some { lead := p.lead, start := p.start, bits, owed := p.owed - 1 }) rest
    else .error ⟨.continuationByte, p.start, position - 1, p.lead⟩

end Utf8

def decodeUtf8 (bytes : List UInt8) : Except DecodeError Text := Utf8.scan 0 none bytes

/-- The bytes that encode one character. -/
def encodeChar (c : Char) : List UInt8 :=
  let n := c.toNat
  let follow (shift : Nat) : UInt8 := UInt8.ofNat (0x80 + (n >>> shift) % 64)
  if n < 0x80 then [UInt8.ofNat n]
  else if n < 0x800 then [UInt8.ofNat (0xc0 + n >>> 6), follow 0]
  else if n < 0x10000 then [UInt8.ofNat (0xe0 + n >>> 12), follow 6, follow 0]
  else [UInt8.ofNat (0xf0 + n >>> 18), follow 12, follow 6, follow 0]

def encodeUtf8 (text : Text) : List UInt8 := text.flatMap encodeChar

/-- Every byte is the code point of its value. -/
def decodeLatin1 (bytes : List UInt8) : Text := bytes.map fun b => Char.ofNat b.toNat

def decodeAscii (bytes : List UInt8) : Except DecodeError Text :=
  let stop := bytes.findIdx fun b => 0x80 ≤ b.toNat
  match bytes[stop]? with
  | some b => .error ⟨.notAscii, stop, stop, b⟩
  | none => .ok (decodeLatin1 bytes)

/-- A charset that a server may declare. -/
inductive Charset where
  | utf8
  | latin1
  | ascii
  deriving DecidableEq, Repr

namespace Charset

/-- Further names of the charsets. -/
def aliases : List (String × Charset) :=
  ["utf8", "utf", "u8", "utf8_ucs2", "utf8_ucs4", "cp65001"].map (·, utf8) ++
    ["latin1", "latin", "l1", "8859", "iso8859", "iso8859_1", "iso_8859_1", "iso_8859_1_1987", "iso_ir_100",
      "cp819", "ibm819", "csisolatin1"].map (·, latin1) ++
    ["us_ascii", "us", "646", "iso646_us", "iso_646.irv_1991", "iso_ir_6", "ansi_x3.4_1968", "ansi_x3_4_1968",
      "ansi_x3.4_1986", "cp367", "ibm367", "csascii"].map (·, ascii)

/-- A name in small letters, with one underscore for any punctuation between its parts. -/
def plainName (name : String) : String :=
  let cs := name.toList.map fun c => if c.isAlphanum || c == '.' then c.toLower else '_'
  "_".intercalate (((String.ofList cs).splitToList (· == '_')).filter (!·.isEmpty))

/-- The charset of a name, in any case of letters and with any punctuation, as which all characters beyond
ASCII count. -/
def ofName? (name : String) : Option Charset :=
  match plainName name with
  | "utf_8" => some utf8
  | "latin_1" => some latin1
  | "ascii" => some ascii
  | plain => aliases.lookup plain <|> aliases.lookup (plain.replace "." "_")

def decode : Charset → List UInt8 → Except DecodeError Text
  | utf8, bytes => decodeUtf8 bytes
  | latin1, bytes => .ok (decodeLatin1 bytes)
  | ascii, bytes => decodeAscii bytes

end Charset

end ScriptCoverage
