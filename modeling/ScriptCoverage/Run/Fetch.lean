import ScriptCoverage.Run.Engine
import ScriptCoverage.Session.Library
import ScriptCoverage.Text.Charset

/-!
# Retrieving scripts

A script may be fetched from an address. The network is outside: opening an address gives a `Response` or an
`OpeningError`, and the bytes of a response arrive or do not. Only a response with a status below 400 whose body
arrives and can be decoded is a script. Most other outcomes are refused with the address, and with the status that
was known when they were found out; a few are no business of retrieval and pass as they are (`FetchError`).

Specification: sections 1, 6 and 7, remote retrieval.
-/

namespace ScriptCoverage

/-- Why the bytes of a response do not arrive. -/
inductive TransferError where
  /-- The system reports an error, or nothing arrives in time. -/
  | system (text : String)
  | library (cause : LibraryError)

/-- Why opening an address gives no response. -/
inductive OpeningError where
  | http (code : Int) (reason : String)
  | unreachable (reason : String)
  | transfer (cause : TransferError)

/-- What a response says of its status. Some have no place for one; in others the place is empty. -/
inductive ResponseStatus where
  | absent
  | empty
  | code (n : Int)
  deriving DecidableEq

/-- The status that a response counts as having. Without a place for one it is a success. -/
def ResponseStatus.known? : ResponseStatus → Option Int
  | absent => some 200
  | empty => none
  | code n => some n

/-- What opening an address gives. -/
structure Response where
  status : ResponseStatus := .absent
  /-- The charset that is declared for the body. -/
  charset : Option String := none
  body : Except TransferError (List UInt8) := .ok []

/-- Why a response is no script. -/
inductive RetrievalCause where
  | status (code : Int)
  | httpError (code : Int) (reason : String)
  | network (text : String)
  | unknownCharset (status : Int) (charset : String)
  | undecodable (status : Int) (charset : String) (error : DecodeError)
  deriving DecidableEq, Repr

/-- A failed retrieval of an address. -/
structure RetrievalError where
  url : String
  cause : RetrievalCause
  deriving DecidableEq, Repr

namespace RetrievalError

/-- The status that was received, if any. -/
def status (e : RetrievalError) : Option Int :=
  match e.cause with
  | .status code => some code
  | .httpError code _ => some code
  | .network _ => none
  | .unknownCharset code _ => some code
  | .undecodable code _ _ => some code

def message (e : RetrievalError) : String :=
  match e.cause with
  | .status code => s!"Failed to fetch {e.url}: HTTP {code}"
  | .httpError code reason => s!"Failed to fetch {e.url}: HTTP {code} - {reason}"
  | .network text => s!"Failed to fetch {e.url}: {text}"
  | .unknownCharset _ charset =>
    s!"Failed to decode {e.url} as {charset}: unknown encoding: {charset}"
  | .undecodable _ charset error => s!"Failed to decode {e.url} as {charset}: {error.message}"

end RetrievalError

/-- What stops a retrieval: the address is refused, or something else fails on the way. -/
inductive FetchError where
  | retrieval (cause : RetrievalError)
  | fault (cause : Fault)
  /-- The name of the charset holds a null character. -/
  | nullInCharset
  | library (cause : LibraryError)

/-- A failed transfer, of a response or of its bytes. -/
def TransferError.blame (url : String) : TransferError → FetchError
  | .system text => .retrieval ⟨url, .network text⟩
  | .library cause => .library cause

def OpeningError.blame (url : String) : OpeningError → FetchError
  | .http code reason => .retrieval ⟨url, .httpError code reason⟩
  | .unreachable reason => .retrieval ⟨url, .network reason⟩
  | .transfer cause => cause.blame url

namespace Response

/-- The name of the charset of a body: the one that is declared, or else UTF-8. -/
def charsetName : Option String → String
  | some name => if name.isEmpty then "utf-8" else name
  | none => "utf-8"

/-- The text that bytes spell in the charset of a name. A body without bytes is the empty text in every charset,
known or not. -/
def decodeBody (url : String) (status : Int) (name : String) (body : List UInt8) : Except FetchError Text :=
  if name.toList.contains '\x00' then .error .nullInCharset
  else if body.isEmpty then .ok []
  else match Charset.ofName? name with
    | none => .error (.retrieval ⟨url, .unknownCharset status name⟩)
    | some charset => (charset.decode body).mapError fun e => .retrieval ⟨url, .undecodable status name e⟩

/-- The script in a response. Its status is looked at before its bytes are asked for. -/
def script (url : String) (r : Response) : Except FetchError Text :=
  match r.status.known? with
  | none => .error (.fault .wrongType)
  | some status => do
    if 400 ≤ status then throw (.retrieval ⟨url, .status status⟩)
    let body ← r.body.mapError (·.blame url)
    decodeBody url status (charsetName r.charset) body

end Response

/-- What the answer of an address comes to. -/
def retrieve (address : String) (answer : Except OpeningError Response) : Except FetchError Text := do
  (← answer.mapError (·.blame address)).script address

end ScriptCoverage
