import ScriptCoverage.Proofs.Session.Exec
import ScriptCoverage.Run.Coverage

/-!
# Retrieving scripts

Fetching an address leads to the script in the response, or to a refusal that names the address and the status, if one
was received (`Kept`). Not everything that may go wrong comes to that. An address that cannot be opened at all, an empty
place for the status, an exception that the network does not document and a null character in the name of the charset
fail with errors of their own; and when the bytes of a response do not arrive, the refusal does not have the status that
came before them. `Answered` lists what an answer of the network comes to, `Foreseen` which answers are dealt with, and
`fetchSource_kept_iff` says that the promise is kept of these and of no others, and that after a failure of whatever
kind nothing is parsed, exposed or evaluated.
-/

namespace ScriptCoverage

open ScriptCoverage.Action

/-! ## Answers of the network -/

namespace Response

/-- Bytes spell a text in a charset that is known. Without any bytes there is nothing to spell. -/
def Spells (name : String) (body : List UInt8) (text : Text) : Prop :=
  (body = [] ∧ text = []) ∨ body ≠ [] ∧ ∃ charset, Charset.ofName? name = some charset ∧ charset.decode body = .ok text

/-- Bytes that arrive with a status below 400. -/
structure Delivers (r : Response) (status : Int) (body : List UInt8) : Prop where
  known : r.status.known? = some status
  accepted : status < 400
  arrives : r.body = .ok body

/-- A response holds the script that its bytes spell. -/
def Holds (r : Response) (text : Text) : Prop :=
  ∃ status body, r.Delivers status body ∧ Spells (charsetName r.charset) body text

variable {r : Response} {status : Int} {body : List UInt8} {address name : String} {text : Text}

theorem Delivers.holds_iff (h : r.Delivers status body) : r.Holds text ↔ Spells (charsetName r.charset) body text := by
  constructor
  · rintro ⟨_, other, hother, hspells⟩
    obtain rfl : body = other := Except.ok.inj (h.arrives.symm.trans hother.arrives)
    exact hspells
  · exact fun hspells => ⟨status, body, h, hspells⟩

theorem spells_nil : Spells name [] text ↔ text = [] := by simp [Spells]

theorem spells_of_ne_nil (h : body ≠ []) :
    Spells name body text ↔ ∃ charset, Charset.ofName? name = some charset ∧ charset.decode body = .ok text := by
  simp [Spells, h]

/-- The bytes of a body spell a script, or the response is refused with its status. -/
theorem decodeBody_spec (address : String) (status : Int) (body : List UInt8) (hname : '\x00' ∉ name.toList) :
    (∃ text, decodeBody address status name body = .ok text ∧ Spells name body text) ∨
      ∃ e : RetrievalError, decodeBody address status name body = .error (.retrieval e) ∧ e.url = address ∧
        e.status = some status ∧ ∀ text, ¬ Spells name body text := by
  unfold decodeBody
  rw [if_neg (by simpa using hname)]
  by_cases hbody : body = []
  · subst hbody
    exact Or.inl ⟨[], rfl, spells_nil.2 rfl⟩
  rw [if_neg (by simpa using hbody)]
  simp only [spells_of_ne_nil hbody]
  cases hcharset : Charset.ofName? name with
  | none => exact Or.inr ⟨_, rfl, rfl, rfl, by simp⟩
  | some charset =>
    cases hdecode : charset.decode body with
    | ok text => exact Or.inl ⟨text, by simp only [hdecode]; rfl, charset, rfl, hdecode⟩
    | error e => exact Or.inr ⟨_, by simp only [hdecode]; rfl, rfl, rfl, by simp [hdecode]⟩

theorem decodeBody_null (hname : '\x00' ∈ name.toList) : decodeBody address status name body = .error .nullInCharset :=
  if_pos (by simpa using hname)

theorem script_empty (h : r.status.known? = none) : r.script address = .error (.fault .wrongType) := by
  unfold script
  rw [h]

theorem script_refused (h : r.status.known? = some status) (hrefused : 400 ≤ status) :
    r.script address = .error (.retrieval ⟨address, .status status⟩) := by
  unfold script
  rw [h]
  exact if_pos hrefused

theorem script_read (h : r.status.known? = some status) (haccepted : status < 400) :
    r.script address = (r.body.mapError (·.blame address)) >>= decodeBody address status (charsetName r.charset) := by
  unfold script
  rw [h]
  exact if_neg (by omega)

end Response

/-- The status that comes with an answer, if any. -/
def received? : Except OpeningError Response → Option Int
  | .error (.http code _) => some code
  | .error _ => none
  | .ok r => r.status.known?

/-- The answers that retrieval deals with: the address is refused in a way that the network documents, or a response
says that it failed, or its bytes arrive and its charset has a possible name. -/
inductive Foreseen : Except OpeningError Response → Prop where
  | http (code : Int) (reason : String) : Foreseen (.error (.http code reason))
  | unreachable (reason : String) : Foreseen (.error (.unreachable reason))
  | system (text : String) : Foreseen (.error (.transfer (.system text)))
  | refused {r : Response} {status : Int} (known : r.status.known? = some status) (refused : 400 ≤ status) :
      Foreseen (.ok r)
  | delivered {r : Response} {status : Int} {body : List UInt8} (delivers : r.Delivers status body)
      (named : '\x00' ∉ (Response.charsetName r.charset).toList) : Foreseen (.ok r)

/-- What the answer of an address comes to. -/
inductive Answered (address : String) : Except OpeningError Response → Except FetchError Text → Prop where
  | script {r : Response} {text : Text} (foreseen : Foreseen (.ok r)) (holds : r.Holds text) :
      Answered address (.ok r) (.ok text)
  | refused {answer : Except OpeningError Response} {e : RetrievalError} (foreseen : Foreseen answer)
      (noScript : ∀ r text, answer = .ok r → ¬ r.Holds text) (url_eq : e.url = address)
      (status_eq : e.status = received? answer) : Answered address answer (.error (.retrieval e))
  /-- The bytes do not arrive, and the status is lost with them. -/
  | cut {r : Response} {status : Int} {text : String} (known : r.status.known? = some status) (accepted : status < 400)
      (breaks : r.body = .error (.system text)) :
      Answered address (.ok r) (.error (.retrieval ⟨address, .network text⟩))
  | unknown {cause : LibraryError} : Answered address (.error (.transfer (.library cause))) (.error (.library cause))
  | unknownCut {r : Response} {status : Int} {cause : LibraryError} (known : r.status.known? = some status)
      (accepted : status < 400) (breaks : r.body = .error (.library cause)) :
      Answered address (.ok r) (.error (.library cause))
  | empty {r : Response} (empty : r.status.known? = none) : Answered address (.ok r) (.error (.fault .wrongType))
  | unnamed {r : Response} {status : Int} {body : List UInt8} (delivers : r.Delivers status body)
      (unnamed : '\x00' ∈ (Response.charsetName r.charset).toList) : Answered address (.ok r) (.error .nullInCharset)

theorem answered_script (address : String) (r : Response) : Answered address (.ok r) (r.script address) := by
  cases hknown : r.status.known? with
  | none =>
    rw [Response.script_empty hknown]
    exact .empty hknown
  | some status =>
    by_cases hstatus : 400 ≤ status
    · rw [Response.script_refused hknown hstatus]
      refine .refused (.refused hknown hstatus) ?_ rfl hknown.symm
      rintro _ _ ⟨⟩ ⟨other, _, hdelivers, -⟩
      have hother := hdelivers.known
      rw [hknown, Option.some.injEq] at hother
      have := hdelivers.accepted
      omega
    have haccepted : status < 400 := by omega
    rw [Response.script_read hknown haccepted]
    cases hbody : r.body with
    | error cause =>
      cases cause with
      | system text => exact .cut hknown haccepted hbody
      | library cause => exact .unknownCut hknown haccepted hbody
    | ok body =>
      have hdelivers : r.Delivers status body := ⟨hknown, haccepted, hbody⟩
      change Answered address (.ok r) (Response.decodeBody address status (Response.charsetName r.charset) body)
      by_cases hname : '\x00' ∈ (Response.charsetName r.charset).toList
      · rw [Response.decodeBody_null hname]
        exact .unnamed hdelivers hname
      have hforeseen : Foreseen (.ok r) := .delivered hdelivers hname
      rcases Response.decodeBody_spec address status body hname with
        ⟨text, htext, hspells⟩ | ⟨e, he, hurl, hstatus', hnone⟩
      · rw [htext]
        exact .script hforeseen (hdelivers.holds_iff.2 hspells)
      · rw [he]
        refine .refused hforeseen ?_ hurl (hstatus'.trans hknown.symm)
        rintro _ text ⟨⟩ hholds
        exact hnone text (hdelivers.holds_iff.1 hholds)

/-- **Answers.** There is nothing else that an answer comes to. -/
theorem answered_retrieve (address : String) (answer : Except OpeningError Response) :
    Answered address answer (retrieve address answer) := by
  cases answer with
  | ok r => exact answered_script address r
  | error cause =>
    cases cause with
    | http code reason => exact .refused (.http code reason) nofun rfl rfl
    | unreachable reason => exact .refused (.unreachable reason) nofun rfl rfl
    | transfer cause =>
      cases cause with
      | system text => exact .refused (.system text) nofun rfl rfl
      | library cause => exact .unknown

/-- What is promised of an answer: the script that the response holds, or a refusal that says which address it was, and
with which status if one was received. -/
def KeptFor (address : String) (answer : Except OpeningError Response) (outcome : Except FetchError Text) : Prop :=
  (∃ r text, outcome = .ok text ∧ answer = .ok r ∧ r.Holds text) ∨
    ∃ e : RetrievalError, outcome = .error (.retrieval e) ∧ e.url = address ∧ e.status = received? answer

/-- A response whose bytes are asked for is dealt with only if they arrive and its charset has a possible name. -/
theorem Foreseen.delivers {r : Response} {status : Int} (h : Foreseen (.ok r)) (known : r.status.known? = some status)
    (accepted : status < 400) :
    ∃ body, r.Delivers status body ∧ '\x00' ∉ (Response.charsetName r.charset).toList := by
  cases h with
  | refused hknown hrefused =>
    rw [known, Option.some.injEq] at hknown
    omega
  | delivered hdelivers hnamed => exact ⟨_, ⟨known, accepted, hdelivers.arrives⟩, hnamed⟩

theorem Foreseen.known {r : Response} (h : Foreseen (.ok r)) : r.status.known? ≠ none := by
  cases h with
  | refused known refused => rw [known]; nofun
  | delivered delivers named => rw [delivers.known]; nofun

/-- Bytes that do not arrive are not dealt with. -/
theorem not_foreseen_of_breaks {r : Response} {status : Int} {cause : TransferError}
    (known : r.status.known? = some status) (accepted : status < 400) (breaks : r.body = .error cause) :
    ¬ Foreseen (.ok r) := by
  intro h
  obtain ⟨body, hdelivers, -⟩ := h.delivers known accepted
  cases breaks.symm.trans hdelivers.arrives

/-- Only a refusal of retrieval is a failure that was promised. -/
theorem not_keptFor_of_ne {address : String} {answer : Except OpeningError Response} {cause : FetchError}
    (h : ∀ e, cause ≠ .retrieval e) : ¬ KeptFor address answer (.error cause) := by
  rintro (⟨_, _, htext, -⟩ | ⟨e, hrefusal, -⟩)
  · cases htext
  · exact h e (Except.error.inj hrefusal)

/-- The promise is kept of the answers that are dealt with, and of no others. -/
theorem Answered.keptFor_iff {address : String} {answer : Except OpeningError Response}
    {outcome : Except FetchError Text} (h : Answered address answer outcome) :
    KeptFor address answer outcome ↔ Foreseen answer := by
  cases h with
  | script foreseen holds => exact iff_of_true (Or.inl ⟨_, _, rfl, rfl, holds⟩) foreseen
  | refused foreseen noScript url_eq status_eq => exact iff_of_true (Or.inr ⟨_, rfl, url_eq, status_eq⟩) foreseen
  | cut known accepted breaks =>
    refine iff_of_false ?_ (not_foreseen_of_breaks known accepted breaks)
    rintro (⟨_, _, h, -⟩ | ⟨e, h, -, hstatus⟩)
    · cases h
    · cases h
      rw [received?, known] at hstatus
      cases hstatus
  | unknown => exact iff_of_false (not_keptFor_of_ne nofun) nofun
  | unknownCut known accepted breaks =>
    exact iff_of_false (not_keptFor_of_ne nofun) (not_foreseen_of_breaks known accepted breaks)
  | empty empty => exact iff_of_false (not_keptFor_of_ne nofun) fun hforeseen => hforeseen.known empty
  | unnamed delivers unnamed =>
    refine iff_of_false (not_keptFor_of_ne nofun) fun hforeseen => ?_
    obtain ⟨-, -, hnamed⟩ := hforeseen.delivers delivers.known delivers.accepted
    exact hnamed unnamed

/-! ## Fetching -/

variable {s : Session} {address : String} {outcome : Except Failure Text} {e : Failure}

/-- What fetching an address comes to. -/
inductive Fetched (s : Session) (address : String) : Except Failure Text → Prop where
  | opened {url : String} {outcome : Except FetchError Text} (opened : Address.resolve address = .ok url)
      (answered : Answered address (s.network url) outcome) : Fetched s address (outcome.mapError .ofFetch)
  | unopened {cause : AddressError} (unopened : Address.resolve address = .error cause) :
      Fetched s address (.error (.address cause))

/-- The status that is received when an address is opened, if any. -/
def Session.received? (s : Session) (address : String) : Option Int :=
  match Address.resolve address with
  | .ok url => ScriptCoverage.received? (s.network url)
  | .error _ => none

theorem received?_of_resolve {url : String} (h : Address.resolve address = .ok url) :
    s.received? address = ScriptCoverage.received? (s.network url) := by
  unfold Session.received?
  rw [h]

/-- What is promised of fetching: the script that the response holds, or a refusal that says which address it was, and
with which status if one was received. -/
def Kept (s : Session) (address : String) (outcome : Except Failure Text) : Prop :=
  (∃ url r text, outcome = .ok text ∧ Address.resolve address = .ok url ∧ s.network url = .ok r ∧ r.Holds text) ∨
    ∃ e : RetrievalError, outcome = .error (.retrieval e) ∧ e.url = address ∧ e.status = s.received? address

theorem kept_mapError {url : String} {outcome : Except FetchError Text} (h : Address.resolve address = .ok url) :
    Kept s address (outcome.mapError .ofFetch) ↔ KeptFor address (s.network url) outcome := by
  unfold Kept KeptFor
  rw [received?_of_resolve h]
  rcases outcome with cause | text
  · have hcause : (Except.error cause : Except FetchError Text).mapError Failure.ofFetch =
        .error (Failure.ofFetch cause) := rfl
    rw [hcause]
    cases cause <;> simp [Failure.ofFetch]
  · have htext : (Except.ok text : Except FetchError Text).mapError Failure.ofFetch = .ok text := rfl
    rw [htext]
    simp [h]

theorem Fetched.kept_iff (h : Fetched s address outcome) :
    Kept s address outcome ↔ ∃ url, Address.resolve address = .ok url ∧ Foreseen (s.network url) := by
  cases h with
  | opened opened answered =>
    rw [kept_mapError opened, answered.keptFor_iff, opened]
    simp
  | unopened unopened =>
    refine iff_of_false ?_ ?_
    · rintro (⟨_, _, _, h, -⟩ | ⟨_, h, -⟩) <;> cases h
    rintro ⟨url, opened, -⟩
    rw [unopened] at opened
    cases opened

/-- What is logged before an address is opened. -/
def fetchEntry (address : String) : LogEntry := ⟨.info, s!"Fetching script from {address}"⟩

/-- What the outside world sees when an address is opened. -/
def openingEvent (url : String) (timeout : Value) : Event :=
  .opened url s!"tailwindcov/{Session.programVersion}" timeout

theorem exec_fetchSource_unopened {cause : AddressError} (h : Address.resolve address = .error cause)
    (timeout : Value) : (fetchSource address timeout).exec s =
      (.error (.address cause), { s with log := s.log ++ [fetchEntry address] }) := by
  have hcause : (Address.resolve address).mapError Failure.address = .error (.address cause) := by rw [h]; rfl
  unfold fetchSource
  simp only [exec_bind, exec_log, exec_ofExcept, hcause]
  rfl

theorem exec_fetchSource_opened {url : String} (h : Address.resolve address = .ok url) (timeout : Value) :
    (fetchSource address timeout).exec s = ((retrieve address (s.network url)).mapError .ofFetch,
      { s with log := s.log ++ [fetchEntry address], events := s.events ++ [openingEvent url timeout] }) := by
  have hurl : (Address.resolve address).mapError Failure.address = .ok url := by rw [h]; rfl
  unfold fetchSource
  simp only [exec_bind, exec_log, exec_ofExcept, hurl, exec_emit, exec_get]
  rfl

theorem fetched_fetchSource (s : Session) (address : String) (timeout : Value) :
    Fetched s address ((fetchSource address timeout).exec s).1 := by
  cases hresolve : Address.resolve address with
  | error cause =>
    rw [exec_fetchSource_unopened hresolve]
    exact .unopened hresolve
  | ok url =>
    rw [exec_fetchSource_opened hresolve]
    exact .opened hresolve (answered_retrieve address (s.network url))

/-- An event that tells of an address that was opened. -/
inductive Event.IsOpening : Event → Prop where
  | opened (url agent : String) (timeout : Value) : IsOpening (.opened url agent timeout)

/-- An action that fails and has nothing parsed, exposed or evaluated: whatever the parser is and whatever the engine
would do, it fails alike, it leaves the engine all that it would do, and the outside world sees at most that an address
is opened. -/
def FailsIdle {α : Type} (s : Session) (e : Failure) (action : Action α) : Prop :=
  ∀ parser plans, ∃ log events, (∀ event ∈ events, event.IsOpening) ∧ action.exec { s with parser, plans } =
    (.error e, { s with parser, plans, log := s.log ++ log, events := s.events ++ events })

theorem failsIdle_fetchSource {timeout : Value} (h : ((fetchSource address timeout).exec s).1 = .error e) :
    FailsIdle s e (fetchSource address timeout) := by
  intro parser plans
  cases hresolve : Address.resolve address with
  | error cause =>
    rw [exec_fetchSource_unopened hresolve] at h ⊢
    refine ⟨[fetchEntry address], [], by simp, Prod.ext h ?_⟩
    simp only [List.append_nil]
  | ok url =>
    rw [exec_fetchSource_opened hresolve] at h ⊢
    refine ⟨[fetchEntry address], [openingEvent url timeout], ?_, Prod.ext h rfl⟩
    simpa using .opened _ _ _

/-- Nothing that follows fetching is begun when it fails. -/
theorem FailsIdle.bind {α β : Type} {action : Action α} (h : FailsIdle s e action) (next : α → Action β) :
    FailsIdle s e (action >>= next) := by
  intro parser plans
  obtain ⟨log, events, hevents, hexec⟩ := h parser plans
  exact ⟨log, events, hevents, exec_bind_error hexec⟩

/-- **Retrieving a script.** Fetching comes to what is listed. It keeps what is promised of it exactly if the address can
be opened and its answer is one that retrieval deals with. When it fails, whatever the failure is, running what is
fetched fails with it, and nothing is parsed, exposed or evaluated. -/
theorem fetchSource_kept_iff (s : Session) (address : String) (timeout : Value) :
    Fetched s address ((fetchSource address timeout).exec s).1 ∧
    (Kept s address ((fetchSource address timeout).exec s).1 ↔
      ∃ url, Address.resolve address = .ok url ∧ Foreseen (s.network url)) ∧
    ∀ e, ((fetchSource address timeout).exec s).1 = .error e → ∀ sandbox probeName,
      FailsIdle s e (fetchAndRun address timeout sandbox probeName) := by
  have hfetched := fetched_fetchSource s address timeout
  exact ⟨hfetched, hfetched.kept_iff, fun e he sandbox probeName => (failsIdle_fetchSource he).bind _⟩

/-- A network that answers every address with one response. -/
def answering (r : Response) : Session := { network := fun _ => .ok r }

/-- One character, in a charset whose name holds a null character. -/
def nullNamed : Response := { status := .code 200, charset := some "utf\x008", body := .ok [0x61] }

/-- A response whose bytes do not arrive. -/
def cutOff : Response := { status := .code 200, body := .error (.system "timed out") }

/-- An address without a scheme is not refused as it is promised, and neither is that charset; and the refusal of bytes
that do not arrive does not have the status that was received. -/
theorem not_kept_bare :
    ¬ Kept {} "app.js" ((fetchSource "app.js" (.int 5)).exec {}).1 ∧
    ¬ Kept (answering nullNamed) "http://a/app.js" ((fetchSource "http://a/app.js" (.int 5)).exec (answering nullNamed)).1 ∧
    ¬ Kept (answering cutOff) "http://a/app.js" ((fetchSource "http://a/app.js" (.int 5)).exec (answering cutOff)).1 := by
  rw [(fetched_fetchSource _ _ _).kept_iff, (fetched_fetchSource _ _ _).kept_iff, (fetched_fetchSource _ _ _).kept_iff]
  refine ⟨?bare, ?null, ?cut⟩
  case bare =>
    rintro ⟨url, hurl, -⟩
    have hnone : (Address.resolve "app.js").toOption = none := by decide +kernel
    rw [hurl] at hnone
    cases hnone
  case null =>
    rintro ⟨url, -, hforeseen⟩
    obtain ⟨-, -, hnamed⟩ := Foreseen.delivers (r := nullNamed) hforeseen rfl (by decide)
    exact hnamed (by decide +kernel)
  case cut =>
    rintro ⟨url, -, hforeseen⟩
    exact not_foreseen_of_breaks (r := cutOff) rfl (by decide) rfl hforeseen

end ScriptCoverage
