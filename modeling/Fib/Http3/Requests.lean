import Fib.Http3.Responses

/-!
# Requests survive the trip

The client writes a request as a HEADERS frame and at most one DATA frame, and
the server hands the same request to its handler, however the bytes are cut,
unless a name of the header looks like a pseudo-header, or the server cannot
tell where the request is for.
-/

namespace Fib
namespace Http3

open FrameStream (Frame)
open Http (Header canonicalHeaderKey)
open Http2 (Outgoing Request Draft FieldError carried unsent valuesOf toLower
  declaredLength malformedLength)
open Numeral (digits)

/-- The user agent of this client. -/
def userAgent : Bytes := ascii "Go-http-client/3"

/-- The field section of a request. -/
def requestSection (fields : List HeaderField) : Bytes :=
  fieldSection (fields.map fun field => (field, sensitive field.name))

/-- A request as a caller holds it, and its field section as the client writes
it: in memory, where nothing has 2 ^ 48 bytes. -/
structure Call where
  request : Outgoing
  method_fits : request.methodOf.length < 2 ^ 48
  authority_fits : request.authority.length < 2 ^ 48
  target_fits : request.requestURI.length < 2 ^ 48
  header_fits : HeaderFits request.header
  body_fits : request.body.length < 2 ^ 48
  section_fits : ∀ fields, requestFields request = .ok fields ->
    (requestSection fields).length < 2 ^ 48

variable {request : Outgoing} {fields : List HeaderField}

/-- The fields of a request are its pseudo-headers, those of its header and
those the client adds. -/
theorem requestFields_eq_ok (listed : requestFields request = .ok fields) :
    ∃ pairs, request.fields (ascii "https") userAgent = .ok pairs ∧
      fields = pairs.map fun field => ⟨field.1, field.2⟩ := by
  unfold requestFields at listed
  split at listed
  · cases listed
  cases pairing : request.fields (ascii "https") userAgent with
  | error error =>
    rw [← userAgent, pairing] at listed
    cases listed
  | ok pairs =>
    rw [← userAgent, pairing] at listed
    cases listed
    exact ⟨pairs, rfl, rfl⟩

theorem newRequest_eq
    (parseRequestURI : Bytes -> Bool)
    (fields : List HeaderField) :
    newRequest parseRequestURI fields = (fields.foldlM
        (fun draft field => Draft.add draft ⟨field.name, field.value⟩)
        {}).bind (Draft.request parseRequestURI) := rfl

/-- The server builds the request as it was sent exactly when no name of its
header looks like a pseudo-header and the server can tell where it is for. -/
theorem newRequest_requestFields
    (listed : requestFields request = .ok fields)
    (noBlank : request.NoOuterBlank)
    (parseRequestURI : Bytes -> Bool) :
    (∃ built, newRequest parseRequestURI fields = some built ∧
        request.Arrives userAgent built) ↔
      request.NoPseudo ∧ request.Addressed parseRequestURI := by
  obtain ⟨pairs, isOk, rfl⟩ := requestFields_eq_ok listed
  rw [newRequest_eq, List.foldlM_map]
  constructor
  · rintro ⟨built, isBuilt, arrives⟩
    have noPseudo := Outgoing.noPseudo_of_arrives isOk isBuilt arrives
    refine ⟨noPseudo, ?_⟩
    by_contra other
    have refused := (Outgoing.arrives_of_addressed isOk noPseudo noBlank (by decide) (by decide)
      parseRequestURI).2 other
    cases refused.symm.trans isBuilt
  · rintro ⟨noPseudo, addressed⟩
    exact (Outgoing.arrives_of_addressed isOk noPseudo noBlank (by decide) (by decide)
      parseRequestURI).1 addressed

theorem fits_requestFields
    (call : Call)
    (listed : requestFields call.request = .ok fields) :
    ∀ field ∈ fields, field.Fits := by
  have names : (ascii ":method").length < 2 ^ 48 ∧
      (ascii ":authority").length < 2 ^ 48 ∧
      (ascii ":scheme").length < 2 ^ 48 ∧ (ascii ":path").length < 2 ^ 48 ∧
      (ascii "user-agent").length < 2 ^ 48 ∧
      (ascii "content-length").length < 2 ^ 48 ∧
      (ascii "https").length < 2 ^ 48 ∧ userAgent.length < 2 ^ 48 := by
    decide
  obtain ⟨method, authority, scheme, path, agent, length, https, own⟩ := names
  obtain ⟨pairs, isOk, rfl⟩ := requestFields_eq_ok listed
  obtain ⟨rfl, -⟩ := Outgoing.fields_eq_ok isOk
  intro field present
  obtain ⟨pair, among, rfl⟩ := List.mem_map.mp present
  rw [List.mem_append, List.mem_append] at among
  rcases among with pseudo | header | added
  · unfold Outgoing.pseudo at pseudo
    split at pseudo
    · simp only [List.mem_cons, List.not_mem_nil, or_false] at pseudo
      rcases pseudo with rfl | rfl
      · exact ⟨method, call.method_fits⟩
      · exact ⟨authority, call.authority_fits⟩
    simp only [List.mem_cons, List.not_mem_nil, or_false] at pseudo
    rcases pseudo with rfl | rfl | rfl | rfl
    · exact ⟨method, call.method_fits⟩
    · exact ⟨scheme, https⟩
    · exact ⟨authority, call.authority_fits⟩
    · exact ⟨path, call.target_fits⟩
  · obtain ⟨entry, inHeader, -, name, value⟩ := Http2.mem_carried.mp header
    have fits := call.header_fits entry inHeader
    refine ⟨?_, fits.2 pair.2 value⟩
    rw [name]
    exact (length_toLower_le entry.1).trans_lt fits.1
  rcases Outgoing.mem_added added with ⟨name, value⟩ | ⟨name, size, few, value⟩
  · exact ⟨by rwa [name], by rwa [value]⟩
  · have bodyFits := call.body_fits
    refine ⟨by rwa [name], ?_⟩
    rw [value]
    exact length_digits_lt (by omega)

/-! ## Reading the frames of a request -/

/-- The frames of a request. -/
def requestFrames
    (fields : List HeaderField)
    (body : Bytes) : List Frame :=
  ⟨frameHeaders, requestSection fields⟩ ::
    if body = [] then [] else [⟨frameData, body⟩]

theorem send_eq
    (fields : List HeaderField)
    (body : Bytes) :
    send fields body = (requestFrames fields body).flatMap FrameStream.encode := by
  unfold send requestFrames
  rw [List.flatMap_cons]
  split
  · rfl
  · rw [List.flatMap_singleton]
    rfl

/-- The server has room for a request. -/
structure Admitted
    (server : Server)
    (fields : List HeaderField)
    (body : Bytes) : Prop where
  total : Hpack.total fields ≤ server.maxHeaderBytes
  frame : (requestSection fields).length ≤ server.maxHeaderBytes
  body : body.length ≤ server.maxBodyBytes

/-- The request that is built declares the length of the body, or none. -/
theorem declaredLength_of_arrives
    (listed : requestFields request = .ok fields)
    (small : request.body.length < 2 ^ 63)
    {built : Request}
    (arrives : request.Arrives userAgent built) :
    malformedLength built.header = false ∧ (declaredLength built.header = none ∧ request.body = [] ∨
        declaredLength built.header = some (request.body.length : Int)) := by
  obtain ⟨pairs, isOk, rfl⟩ := requestFields_eq_ok listed
  have values := arrives.header (ascii "Content-Length")
  have other : ascii "Content-Length" ≠ ascii "Cookie" := by decide
  rw [Http2.joinCookies, if_neg fun both => other both.1] at values
  unfold malformedLength declaredLength Http2.get
  rw [values]
  rcases Outgoing.values_length isOk with ⟨none, empty⟩ | some
  · rw [none]
    exact ⟨rfl, .inl ⟨rfl, empty⟩⟩
  · rw [some, List.headD_cons, if_neg (Numeral.digits_ne_nil 10 _), Http2.parseInt_digits small]
    exact ⟨by simp, .inr rfl⟩

variable {server : Server}

theorem fits_requestFrames
    {call : Call}
    (listed : requestFields call.request = .ok fields)
    (admitted : Admitted server fields call.request.body) :
    ∀ frame ∈ requestFrames fields call.request.body,
      FrameStream.Fits server.maxHeaderBytes frame := by
  have headersTyp : frameHeaders < 2 ^ 62 := by decide
  have dataTyp : frameData < 2 ^ 62 := by decide
  have sectionFits := call.section_fits fields listed
  have bodyFits := call.body_fits
  intro frame present
  rcases List.mem_cons.mp present with rfl | body
  · exact ⟨headersTyp, by dsimp only; omega, fun _ => admitted.frame⟩
  · split at body
    · cases body
    · rw [List.mem_singleton.mp body]
      exact ⟨dataTyp, by dsimp only; omega, fun other => absurd rfl other⟩

/-- The body of a request, in a DATA frame if there is one. -/
theorem step_requestBody
    (undecided : reading.done = none)
    (expected : (reading.req.isNone || reading.trailers) = false)
    (nothing : reading.body = [])
    (room : body.length ≤ server.maxBodyBytes) :
    (if body = [] then [] else [⟨frameData, body⟩] : List Frame).foldlM
        (requestReader server).step reading =
      .ok { reading with body := body } := by
  split
  · next none =>
    rw [none, ← nothing]
    rfl
  have taken := (accumulates server).takes undecided expected body
  rw [nothing, if_neg (by simpa using room)] at taken
  change (verdicts.judge _ >>= _) = _
  rw [taken]
  rfl

theorem decodeFields_requestSection
    (call : Call)
    (listed : requestFields call.request = .ok fields)
    (room : Hpack.total fields ≤ maxSize) :
    decodeFields (requestSection fields) maxSize = .ok fields := by
  have whole : (fields.map fun field => (field, sensitive field.name)).map Prod.fst = fields := by
    rw [List.map_map]
    exact List.map_id fields
  have decoded := @decodeFields_fieldSection (fields.map fun field => (field, sensitive field.name))
    (by
      intro field present
      obtain ⟨own, among, rfl⟩ := List.mem_map.mp present
      exact fits_requestFields call listed own among)
    maxSize (by rwa [whole])
  rw [whole] at decoded
  exact decoded

/-- What the server makes of a request that it has built, with a body for
which it has room. -/
def answer
    (server : Server)
    (built : Request)
    (body : Bytes) : Outcome :=
  if malformedLength built.header then .reset .messageError
  else if (declaredLength built.header).any ((server.maxBodyBytes : Int) < ·) then .responded 413
  else if ((declaredLength built.header).map Int.toNat).any (· ≠ body.length) then
    .reset .messageError
  else .handled built body

/-- What a stream with a request comes to. -/
theorem outcome_send
    {call : Call}
    (listed : requestFields call.request = .ok fields)
    (admitted : Admitted server fields call.request.body) :
    outcome server (send fields call.request.body) true =
      some ((newRequest server.parseRequestURI fields).elim (.reset .messageError)
        (answer server · call.request.body)) := by
  have onFrame : ({} : Reading).onFrame server frameHeaders (requestSection fields) =
      (({} : Reading).onFields server fields, none) := by
    rw [Reading.onFrame, decodeFields_requestSection call listed admitted.total]
    rfl
  have folded : (requestFrames fields call.request.body).foldlM (requestReader server).step {} =
      verdicts.judge (({} : Reading).onFields server fields, none) >>=
        (if call.request.body = [] then [] else [⟨frameData, call.request.body⟩] :
          List Frame).foldlM (requestReader server).step := by
    rw [← onFrame]
    rfl
  rw [outcome, send_eq, FrameStream.read_flatMap_encode (additive server)
    (fits_requestFrames listed admitted), folded, Reading.onFields]
  cases newRequest server.parseRequestURI fields with
  | none => rfl
  | some built =>
    rw [Option.elim_some, answer]
    dsimp only [Reading.begin]
    by_cases malformed : malformedLength built.header = true
    · rw [if_pos malformed, if_pos malformed]
      rfl
    rw [if_neg malformed, if_neg malformed]
    by_cases large : (declaredLength built.header).any ((server.maxBodyBytes : Int) < ·) = true
    · rw [if_pos large, if_pos large]
      rfl
    rw [if_neg large, if_neg large]
    simp only [Verdicts.judge, verdicts, bind, Except.bind]
    rw [step_requestBody rfl rfl rfl admitted.body]
    rfl

theorem eq_of_answer
    (handled : answer server built body = .handled other last) :
    built = other := by
  unfold answer at handled
  split_ifs at handled
  cases handled
  rfl

/-- The server hands the request to its handler as it was sent, however its
bytes are cut. -/
def HandedOver
    (server : Server)
    (request : Outgoing)
    (bytes : Bytes) : Prop :=
  ∀ pieces last, pieces.flatten ++ last = bytes ->
    ∃ built,
      (serve server (cut pieces last true)).outcomes.head? =
          some (.handled built request.body) ∧
        request.Arrives userAgent built

/-- A request that the client lists and writes, no value of whose header has
an outer blank, is handed to the handler by a server that has room for it
exactly when no name looks like a pseudo-header and the server can tell where
the request is for. -/
theorem requests_are_read_back
    (call : Call)
    {fields : List HeaderField}
    (listed : requestFields call.request = .ok fields)
    (noBlank : call.request.NoOuterBlank) :
    ∃ bound, ∀ server : Server, bound ≤ server.maxHeaderBytes -> bound ≤ server.maxBodyBytes ->
      (HandedOver server call.request (send fields call.request.body) ↔
        call.request.NoPseudo ∧ call.request.Addressed server.parseRequestURI) := by
  refine ⟨Hpack.total fields + (requestSection fields).length + call.request.body.length, ?_⟩
  intro server headerRoom bodyRoom
  have admitted : Admitted server fields call.request.body := by
    constructor <;> omega
  have comesTo := outcome_send listed admitted
  rw [← newRequest_requestFields listed noBlank]
  constructor
  · intro handed
    obtain ⟨built, handled, arrives⟩ := handed [] (send fields call.request.body) rfl
    rw [head?_serve, List.flatten_nil, List.nil_append, comesTo, Option.some.injEq] at handled
    cases isBuilt : newRequest server.parseRequestURI fields with
    | none =>
      rw [isBuilt] at handled
      cases handled
    | some other =>
      rw [isBuilt, Option.elim_some] at handled
      exact ⟨built, by rw [eq_of_answer handled], arrives⟩
  · rintro ⟨built, isBuilt, arrives⟩ pieces last whole
    refine ⟨built, ?_, arrives⟩
    have bodyFits := call.body_fits
    obtain ⟨wellFormed, declared⟩ :=
      declaredLength_of_arrives listed (by omega) arrives
    rw [head?_serve, whole, comesTo, isBuilt, Option.elim_some, answer, wellFormed,
      if_neg Bool.false_ne_true]
    rcases declared with ⟨none, -⟩ | some
    · rw [none]
      rfl
    · rw [some, if_neg (by simp; omega), if_neg (by simp)]

/-- A request with cookies and a body. -/
def sampleRequest : Outgoing where
  method := ascii "POST"
  host := []
  urlHost := ascii "example.com"
  requestURI := ascii "/a?b"
  requestURI_ne := by decide
  header := AList.insert (ascii "X-Name") [ascii "a value"]
    (AList.insert (ascii "Cookie") [ascii "a=1", ascii "b=2"] ∅)
  body := ascii "hello"

theorem sampleRequest_listed :
    (requestFields sampleRequest).toOption.any
      (fun fields => (requestSection fields).length < 2 ^ 48) = true := by
  decide +kernel

def sampleCall : Call where
  request := sampleRequest
  method_fits := by decide
  authority_fits := by decide
  target_fits := by decide
  header_fits := by unfold HeaderFits; decide
  body_fits := by decide
  section_fits := by
    intro fields listed
    have few := sampleRequest_listed
    rw [listed] at few
    exact of_decide_eq_true few

/-- A server that takes every target. -/
def openServer (limit : Nat) : Server where
  maxHeaderBytes := limit + 1
  maxBodyBytes := limit + 1
  header_pos := Nat.succ_pos limit
  body_pos := Nat.succ_pos limit
  parseRequestURI := fun _ => true

theorem requests_are_read_back_sample :
    ∃ fields limit,
      requestFields sampleCall.request = .ok fields ∧
        sampleCall.request.NoOuterBlank ∧
        HandedOver (openServer limit) sampleCall.request (send fields sampleCall.request.body) := by
  have noBlank : sampleCall.request.NoOuterBlank := by
    unfold Outgoing.NoOuterBlank
    decide
  have noPseudo : sampleCall.request.NoPseudo := by
    unfold Outgoing.NoPseudo
    decide
  have addressed : sampleCall.request.Addressed fun _ => true := .inr rfl
  cases listed : requestFields sampleCall.request with
  | error error =>
    have listing := sampleRequest_listed
    rw [show requestFields sampleRequest = .error error from listed] at listing
    cases listing
  | ok fields =>
    obtain ⟨bound, handed⟩ := requests_are_read_back sampleCall listed noBlank
    exact ⟨fields, bound, rfl, noBlank, (handed (openServer bound) (Nat.le_succ bound)
      (Nat.le_succ bound)).mpr ⟨noPseudo, addressed⟩⟩

/-- The code a stream is reset with. -/
def Outcome.resetCode : Outcome -> Option ErrorCode
  | reset code => some code
  | _ => none

/-- The code a stream is reset with when a server reads a request that the
client wrote. -/
def requestReset (request : Outgoing) : Option ErrorCode :=
  (requestFields request).toOption.bind fun fields =>
    (serve plainServer
      [(send fields request.body, true)]).outcomes.head?.bind
        Outcome.resetCode

/-- A name that starts with a colon, and a CONNECT request without a host: the
client writes the request and the server resets its stream. -/
theorem requests_are_refused :
    requestReset
        { method := ascii "GET", host := ascii "example.com", urlHost := []
          requestURI := ascii "/", requestURI_ne := by decide
          header := AList.insert (ascii ":name") [ascii "1"] ∅
          body := [] } = some .messageError ∧
    requestReset
        { method := ascii "CONNECT", host := [], urlHost := []
          requestURI := ascii "/", requestURI_ne := by decide
          header := ∅, body := [] } = some .messageError := by
  decide +kernel

end Http3
end Fib
