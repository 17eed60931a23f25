import Fib.Http.Header
import Mathlib.Data.List.Induction

/-!
# HTTP/1 responses as bytes

`appendResponseHead` writes a status line, the fields that frame the response
and the handler's own fields.  `marshalResponse` chooses the framing of a
response that is given whole and puts its body and trailers behind the head.
-/

namespace Fib
namespace Http

open Lines Numeral Chunks

/-- The parts of a request that its response depends on. -/
structure Request where
  method : Bytes
  protoMajor : Nat
  protoMinor : Nat
  close : Bool
deriving DecidableEq, Repr

namespace Request

/-- `Request.ProtoAtLeast`. -/
def protoAtLeast
    (request : Request)
    (major minor : Nat) : Bool :=
  major < request.protoMajor ||
    (request.protoMajor == major && minor ≤ request.protoMinor)

/-- The request was made in HTTP/1.0. -/
def isHttp10 (request : Request) : Bool :=
  request.protoMajor == 1 && request.protoMinor == 0

def isHead (request : Request) : Bool :=
  request.method == ascii "HEAD"

end Request

/-- A text that may stand as the value of a field. -/
abbrev FieldText := { value : Bytes // validHeaderValue value = true }

/-- What the standard library supplies: the formatted time, and the media
type `http.DetectContentType` finds in the first bytes of a body. -/
structure Platform where
  date : FieldText
  detectContentType : Bytes -> FieldText

/-- `http.StatusText`. -/
def statusText : Nat -> Bytes
  | 100 => ascii "Continue"
  | 101 => ascii "Switching Protocols"
  | 102 => ascii "Processing"
  | 103 => ascii "Early Hints"
  | 200 => ascii "OK"
  | 201 => ascii "Created"
  | 202 => ascii "Accepted"
  | 203 => ascii "Non-Authoritative Information"
  | 204 => ascii "No Content"
  | 205 => ascii "Reset Content"
  | 206 => ascii "Partial Content"
  | 207 => ascii "Multi-Status"
  | 208 => ascii "Already Reported"
  | 226 => ascii "IM Used"
  | 300 => ascii "Multiple Choices"
  | 301 => ascii "Moved Permanently"
  | 302 => ascii "Found"
  | 303 => ascii "See Other"
  | 304 => ascii "Not Modified"
  | 305 => ascii "Use Proxy"
  | 307 => ascii "Temporary Redirect"
  | 308 => ascii "Permanent Redirect"
  | 400 => ascii "Bad Request"
  | 401 => ascii "Unauthorized"
  | 402 => ascii "Payment Required"
  | 403 => ascii "Forbidden"
  | 404 => ascii "Not Found"
  | 405 => ascii "Method Not Allowed"
  | 406 => ascii "Not Acceptable"
  | 407 => ascii "Proxy Authentication Required"
  | 408 => ascii "Request Timeout"
  | 409 => ascii "Conflict"
  | 410 => ascii "Gone"
  | 411 => ascii "Length Required"
  | 412 => ascii "Precondition Failed"
  | 413 => ascii "Request Entity Too Large"
  | 414 => ascii "Request URI Too Long"
  | 415 => ascii "Unsupported Media Type"
  | 416 => ascii "Requested Range Not Satisfiable"
  | 417 => ascii "Expectation Failed"
  | 418 => ascii "I'm a teapot"
  | 421 => ascii "Misdirected Request"
  | 422 => ascii "Unprocessable Entity"
  | 423 => ascii "Locked"
  | 424 => ascii "Failed Dependency"
  | 425 => ascii "Too Early"
  | 426 => ascii "Upgrade Required"
  | 428 => ascii "Precondition Required"
  | 429 => ascii "Too Many Requests"
  | 431 => ascii "Request Header Fields Too Large"
  | 451 => ascii "Unavailable For Legal Reasons"
  | 500 => ascii "Internal Server Error"
  | 501 => ascii "Not Implemented"
  | 502 => ascii "Bad Gateway"
  | 503 => ascii "Service Unavailable"
  | 504 => ascii "Gateway Timeout"
  | 505 => ascii "HTTP Version Not Supported"
  | 506 => ascii "Variant Also Negotiates"
  | 507 => ascii "Insufficient Storage"
  | 508 => ascii "Loop Detected"
  | 510 => ascii "Not Extended"
  | 511 => ascii "Network Authentication Required"
  | _ => []

/-- `statusHasBody`. -/
def statusHasBody (status : Nat) : Bool :=
  200 ≤ status && status != 204 && status != 304

/-- `http.TrailerPrefix`. -/
def trailerPrefix : Bytes := ascii "Trailer:"

/-- The fields a trailer may not carry. -/
def forbiddenNames : List Bytes :=
  [ascii "Content-Length", ascii "Transfer-Encoding", ascii "Trailer",
    ascii "Host", ascii "Content-Type", ascii "Content-Encoding",
    ascii "Content-Range", ascii "Cache-Control", ascii "Expect",
    ascii "Max-Forwards", ascii "Pragma", ascii "Range", ascii "Te",
    ascii "Authorization", ascii "Set-Cookie", ascii "Connection",
    ascii "Keep-Alive", ascii "Upgrade"]

/-- `forbiddenTrailer`. -/
def forbiddenTrailer (name : Bytes) : Bool :=
  canonicalHeaderKey name ∈ forbiddenNames

/-- The names of a header that the server's own framing replaces. -/
def replaced (key : Bytes) : Bool :=
  equalFold key (ascii "Content-Length") ||
    equalFold key (ascii "Transfer-Encoding") ||
    equalFold key (ascii "Trailer") || trailerPrefix.isPrefixOf key

/-- `responseHead`; no content length stands for a negative one. -/
structure ResponseHead where
  status : Nat
  header : Header
  contentLength : Option Nat
  chunked : Bool
  trailers : List Bytes
  close : Bool

namespace ResponseHead

section

variable (head : ResponseHead)

/-- The value of the Connection field the server adds, if it adds one. -/
def connection (request : Request) : Option Bytes :=
  if head.close && !request.isHttp10 then some (ascii "close")
  else if !head.close && request.isHttp10 then some (ascii "keep-alive")
  else none

/-- The names of the header that are left out of the head. -/
def skips
    (request : Request)
    (key : Bytes) : Bool :=
  if replaced key then
    true
  else if equalFold key (ascii "Connection") then
    (head.connection request).isSome
  else
    false

def statusLine (request : Request) : Bytes :=
  (if request.isHttp10 then ascii "HTTP/1.0 " else ascii "HTTP/1.1 ") ++
    digits 10 head.status ++ ascii " " ++
    (if statusText head.status = [] then ascii "Status"
      else statusText head.status)

/-- The Trailer field that announces the trailers of a chunked body. -/
def trailerFields : List (Bytes × Bytes) :=
  if head.chunked && head.trailers != [] then
    [(ascii "Trailer", (ascii ", ").intercalate head.trailers)]
  else
    []

/-- The fields the server adds. -/
def framingFields
    (platform : Platform)
    (request : Request) : List (Bytes × Bytes) :=
  (if head.header.has (ascii "Date") then []
    else [(ascii "Date", platform.date.val)]) ++
  (head.contentLength.map fun length =>
    (ascii "Content-Length", digits 10 length)).toList ++
  (if head.chunked then [(ascii "Transfer-Encoding", ascii "chunked")]
    else []) ++
  head.trailerFields ++
  ((head.connection request).map fun value =>
    (ascii "Connection", value)).toList

/-- The fields of the head, the server's before the handler's. -/
def fields
    (platform : Platform)
    (request : Request) : List (Bytes × Bytes) :=
  head.framingFields platform request ++
    headerFields head.header (head.skips request)

end

end ResponseHead

/-- `appendResponseHead`. -/
def appendResponseHead
    (platform : Platform)
    (request : Request)
    (head : ResponseHead) : Except Failure Bytes :=
  if head.status < 100 ∨ 999 < head.status then
    .error (.invalidStatusCode head.status)
  else do
    let lines <- appendHeaderLines head.header (head.skips request)
    .ok (head.statusLine request ++ crlf ++
      fieldLines (head.framingFields platform request) ++ lines ++ crlf)

/-- `Response`. -/
structure Response where
  statusCode : Nat
  header : Header
  body : Bytes
  trailer : Header
  close : Bool

namespace Response

section

variable (response : Response)

/-- The trailers of a response under their canonical names. -/
def sentTrailer : Header :=
  response.trailer.entries.foldl
    (fun collected entry =>
      if forbiddenTrailer entry.1 then collected
      else collected.insert (canonicalHeaderKey entry.1) entry.2)
    ∅

/-- The names announced for the trailers of a response. -/
def trailerNames : List Bytes :=
  ((response.trailer.keys.filter fun key => !forbiddenTrailer key).map
    canonicalHeaderKey).insertionSort (· ≤ ·)

/-- The body is sent in chunks, which trailers require. -/
def chunked (request : Request) : Bool :=
  statusHasBody response.statusCode && !request.isHead &&
    response.trailer.entries != [] && request.protoAtLeast 1 1

/-- How the response is framed. -/
def head
    (request : Request)
    (closeConnection : Bool) :
    ResponseHead where
  status := response.statusCode
  header := response.header
  contentLength :=
    if response.statusCode = 304 then declaredLength response.header
    else if !statusHasBody response.statusCode then none
    else if request.isHead then
      some ((declaredLength response.header).getD response.body.length)
    else if response.chunked request then none
    else some response.body.length
  chunked := response.chunked request
  trailers := if response.chunked request then response.trailerNames else []
  close := closeConnection

end

end Response

/-- `marshalResponse`. -/
def marshalResponse
    (platform : Platform)
    (request : Request)
    (response : Response)
    (closeConnection : Bool) : Except Failure Bytes := do
  let head := response.head request closeConnection
  let out <- appendResponseHead platform request head
  if request.isHead || !statusHasBody response.statusCode then
    .ok out
  else if !head.chunked then
    .ok (out ++ response.body)
  else
    let lines <- appendHeaderLines response.sentTrailer fun _ => false
    .ok (out ++
      (if response.body ≠ [] then chunk response.body else []) ++
      lastChunk ++ lines ++ crlf)

/-! ## Reading a head back -/

theorem statusText_ne_return (status : Nat) :
    ∀ byte ∈ statusText status, byte ≠ 13 := by
  have absent : (statusText status).contains 13 = false := by
    unfold statusText
    split <;> decide +kernel
  intro byte present same
  rw [List.contains_eq_mem, decide_eq_false_iff_not] at absent
  exact absent (same ▸ present)

example : statusText 404 = ascii "Not Found" := by
  decide +kernel

namespace ResponseHead

section

variable (head : ResponseHead)

theorem hasCrlf_statusLine (request : Request) :
    hasCrlf (head.statusLine request) = false := by
  apply hasCrlf_eq_false_of_forall
  have version : ∀ byte ∈ (if request.isHttp10 then ascii "HTTP/1.0 "
      else ascii "HTTP/1.1 "), byte ≠ 13 := by
    split <;> decide +kernel
  have reason : ∀ byte ∈ (if statusText head.status = [] then ascii "Status"
      else statusText head.status), byte ≠ 13 := by
    split
    · decide +kernel
    · exact statusText_ne_return head.status
  have blank : ∀ byte ∈ ascii " ", byte ≠ 13 := by
    decide +kernel
  intro byte present
  simp only [statusLine, List.mem_append] at present
  rcases present with ((present | present) | present) | present
  · exact version byte present
  · exact (digits_ne (by decide) (by decide) _ byte present).1
  · exact blank byte present
  · exact reason byte present

/-- No name the handler supplies can start a line of its own. -/
def Safe (request : Request) : Prop :=
  SafeLines head.header (head.skips request) ∧
    (head.chunked = true -> ∀ name ∈ head.trailers, hasCrlf name = false)

theorem legible_trailerFields_iff :
    (∀ field ∈ head.trailerFields, Legible field) ↔
      (head.chunked = true -> ∀ name ∈ head.trailers, hasCrlf name = false) := by
  have joined := @hasCrlf_intercalate (ascii ", ") (by decide) (by decide)
    (by decide) (by decide) head.trailers
  have name : colon ∉ ascii "Trailer" ∧
      hasCrlf (ascii "Trailer") = false := by decide
  unfold trailerFields
  by_cases announced : head.chunked && head.trailers != []
  · rw [if_pos announced]
    rw [Bool.and_eq_true] at announced
    simp [Legible, joined, announced.1, name]
  rw [if_neg announced]
  simp only [List.not_mem_nil, false_implies, implies_true, true_iff]
  intro chunked name present
  have nonempty := List.ne_nil_of_mem present
  simp [chunked, nonempty] at announced

theorem legible_framingFields_iff
    (platform : Platform)
    (request : Request) :
    (∀ field ∈ head.framingFields platform request, Legible field) ↔
      (head.chunked = true -> ∀ name ∈ head.trailers, hasCrlf name = false) := by
  have date : ∀ field ∈ (if head.header.has (ascii "Date") then []
      else [(ascii "Date", platform.date.val)]), Legible field := by
    have name : colon ∉ ascii "Date" ∧ hasCrlf (ascii "Date") = false := by
      decide
    split
    · simp
    · simp only [List.mem_singleton, forall_eq]
      exact ⟨name.1, name.2, hasCrlf_of_validHeaderValue platform.date.property⟩
  have length : ∀ field ∈ (head.contentLength.map fun length =>
      (ascii "Content-Length", digits 10 length)).toList, Legible field := by
    have name : colon ∉ ascii "Content-Length" ∧
        hasCrlf (ascii "Content-Length") = false := by decide
    cases head.contentLength with
    | none => simp
    | some length =>
      simp only [Option.map_some, Option.toList_some, List.mem_singleton, forall_eq]
      exact ⟨name.1, name.2, hasCrlf_digits (by decide) (by decide) _⟩
  have coding : ∀ field ∈ (if head.chunked
      then [(ascii "Transfer-Encoding", ascii "chunked")] else []),
      Legible field := by
    split <;> decide
  have connection : ∀ field ∈ ((head.connection request).map fun value =>
      (ascii "Connection", value)).toList, Legible field := by
    unfold ResponseHead.connection
    split
    · decide
    · split <;> decide
  rw [← legible_trailerFields_iff]
  simp only [framingFields, List.mem_append]
  constructor
  · intro legible field present
    exact legible field (.inl (.inr present))
  · rintro legible field ((((present | present) | present) | present) | present)
    exacts [date field present, length field present, coding field present,
      legible field present, connection field present]

end

theorem legible_fields_iff
    {platform : Platform}
    {request : Request}
    {head : ResponseHead}
    {lines : Bytes}
    (written : appendHeaderLines head.header (head.skips request) = .ok lines) :
    (∀ field ∈ head.fields platform request, Legible field) ↔ head.Safe request := by
  rw [Safe, ← legible_headerFields_iff written, ← legible_framingFields_iff head platform request]
  simp only [fields, List.mem_append, or_imp, forall_and]
  exact and_comm

end ResponseHead

variable {platform : Platform} {request : Request}

theorem appendResponseHead_eq_ok {head : ResponseHead} :
    appendResponseHead platform request head = .ok out ↔ (100 ≤ head.status ∧ head.status ≤ 999) ∧
      (∃ lines, appendHeaderLines head.header (head.skips request) = .ok lines) ∧
      head.statusLine request ++ crlf ++
        (fieldLines (head.fields platform request) ++ crlf) = out := by
  unfold appendResponseHead
  by_cases invalid : head.status < 100 ∨ 999 < head.status
  · simp only [invalid, if_true, reduceCtorEq, false_iff, not_and]
    omega
  rw [if_neg invalid]
  cases written : appendHeaderLines head.header (head.skips request) with
  | error failure => simp [bind, Except.bind]
  | ok lines =>
    obtain ⟨-, rfl⟩ := appendHeaderLines_eq_ok.mp written
    simp only [bind, Except.bind, ResponseHead.fields, fieldLines_append,
      List.append_assoc, Except.ok.injEq, exists_eq', true_and]
    refine (and_iff_right ?_).symm
    omega

/-- A head that was accepted reads back, field by field, and leaves what
follows it, exactly when the names the handler supplied are safe. -/
theorem exists_readHead_iff
    {head : ResponseHead}
    (accepted : appendResponseHead platform request head = .ok out)
    (content : Bytes)
    (Proper : Bytes -> Prop) :
    (∃ left, readHead (out ++ content) =
      some ((head.statusLine request, head.fields platform request), left) ∧ Proper left) ↔
      head.Safe request ∧ Proper content := by
  obtain ⟨-, ⟨lines, written⟩, rfl⟩ := appendResponseHead_eq_ok.mp accepted
  rw [← @ResponseHead.legible_fields_iff platform _ _ _ written,
    List.append_assoc, readHead_append (head.hasCrlf_statusLine request)]
  constructor
  · rintro ⟨left, read, proper⟩
    obtain ⟨⟨fields, after⟩, readFields, same⟩ :=
      Option.map_eq_some_iff.mp read
    obtain ⟨rfl, rfl⟩ := same
    have legible := legible_of_readFields readFields
    rw [readFields_fieldLines legible, Option.some.injEq, Prod.mk.injEq] at readFields
    exact ⟨legible, readFields.2 ▸ proper⟩
  · rintro ⟨legible, proper⟩
    refine ⟨content, ?_, proper⟩
    rw [readFields_fieldLines legible]
    rfl

/-! ## Trailers of a whole response -/

namespace Response

section

variable (response : Response)

/-- The announced names and the names of the trailer lines are safe. -/
def SafeTrailers : Prop :=
  ∀ key ∈ response.trailer.keys, forbiddenTrailer key = false ->
    hasCrlf key = false ∧ (response.trailer.values key ≠ [] -> colon ∉ key)

/-- The trailers the handler gave, under the names they are sent with. -/
def givenTrailer : List (Bytes × List Bytes) :=
  response.trailer.entries.filterMap fun entry =>
    if forbiddenTrailer entry.1 then none
    else some (canonicalHeaderKey entry.1, entry.2)

/-- No trailer with values comes before another with its canonical name, in the
order of the map. -/
def ApartTrailers : Prop :=
  response.givenTrailer.Pairwise fun earlier later =>
    earlier.1 = later.1 -> earlier.2 = []

/-- Entries that collide under their canonical name keep the last values. -/
theorem values_sentTrailer (name : Bytes) :
    response.sentTrailer.values name = lastOf name response.givenTrailer := by
  have folded : response.sentTrailer = response.givenTrailer.foldl
      (fun collected part => collected.insert part.1 part.2) ∅ := by
    rw [sentTrailer, givenTrailer, List.foldl_filterMap]
    congr 1
    funext collected entry
    split <;> rfl
  rw [folded, values_foldl_overwrite]
  split
  · next none => simp [lastOf, none, Header.values]
  · rfl

theorem hasCrlf_trailerNames_iff :
    (∀ name ∈ response.trailerNames, hasCrlf name = false) ↔
      ∀ key ∈ response.trailer.keys, forbiddenTrailer key = false -> hasCrlf key = false := by
  simp only [trailerNames, List.mem_insertionSort, List.forall_mem_map,
    List.mem_filter, hasCrlf_canonicalHeaderKey, Bool.not_eq_true', and_imp]

theorem safeTrailers_iff :
    response.SafeTrailers ↔ (∀ name ∈ response.trailerNames, hasCrlf name = false) ∧
        ∀ part ∈ response.givenTrailer, part.2 ≠ [] -> SafeName part.1 := by
  have known : ∀ entry ∈ response.trailer.entries,
      response.trailer.values entry.1 = entry.2 := by
    intro entry present
    rw [Header.values, AList.mem_lookup_iff.mpr present]
    rfl
  have given : (∀ part ∈ response.givenTrailer, part.2 ≠ [] -> SafeName part.1) ↔
      ∀ key ∈ response.trailer.keys, forbiddenTrailer key = false ->
        response.trailer.values key ≠ [] -> SafeName key := by
    constructor
    · intro safe key isKey allowed some
      obtain ⟨entry, present, rfl⟩ := List.mem_map.mp isKey
      rw [← safeName_canonicalHeaderKey]
      refine safe (canonicalHeaderKey entry.1, entry.2)
        (List.mem_filterMap.mpr ⟨entry, present, ?_⟩) ?_
      · simp [allowed]
      · rwa [← known entry present]
    · intro safe part among some
      obtain ⟨entry, present, sent⟩ := List.mem_filterMap.mp among
      obtain ⟨allowed, same⟩ := Option.ite_none_left_eq_some.mp sent
      cases same
      rw [safeName_canonicalHeaderKey]
      exact safe entry.1 (List.mem_map_of_mem present) (by simpa using allowed)
        (by rwa [known entry present])
  rw [hasCrlf_trailerNames_iff, given]
  simp only [SafeTrailers, SafeName]
  grind

/-- The response reads back as its status line, the fields the server adds,
one field for each value of the header, and behind them the body; after a
chunked body stands one field for each value of the trailers. -/
def ReadsBack
    (platform : Platform)
    (request : Request)
    (closeConnection : Bool)
    (out : Bytes) : Prop :=
  ∃ content, readHead out =
      some (((response.head request closeConnection).statusLine request,
        (response.head request closeConnection).fields platform request),
        content) ∧
    if response.chunked request then
      ∃ fields, readTrailed content = some (response.body, fields) ∧
        Lists fields response.givenTrailer
    else
      content =
        if request.isHead || !statusHasBody response.statusCode then []
        else response.body

/-- The names the handler gives can end neither a field nor a line, and no
trailer takes the place of another. -/
def Safe
    (request : Request)
    (closeConnection : Bool) : Prop :=
  SafeLines response.header
      ((response.head request closeConnection).skips request) ∧
    (response.chunked request = true ->
      response.SafeTrailers ∧ response.ApartTrailers)

theorem readTrailed_content_iff
    (written : appendHeaderLines response.sentTrailer (fun _ => false) = .ok lines) :
    (∃ fields, readTrailed ((if response.body ≠ [] then chunk response.body else []) ++
        lastChunk ++ (lines ++ crlf)) = some (response.body, fields) ∧
      Lists fields response.givenTrailer) ↔
        (∀ part ∈ response.givenTrailer, part.2 ≠ [] -> SafeName part.1) ∧
          response.ApartTrailers := by
  have given (name : Bytes) (held : response.sentTrailer.values name ≠ []) :
      valuesOf name response.givenTrailer ≠ [] := by
    intro none
    have bound := length_lastOf_le name response.givenTrailer
    rw [none, List.length_nil, Nat.le_zero, List.length_eq_zero_iff] at bound
    exact held ((response.values_sentTrailer name).trans bound)
  have reads (chunks) (nonempty : ∀ content ∈ chunks, content ≠ []) :=
    @exists_readTrailed_iff _ _ _ chunks written nonempty given
  simp only [values_sentTrailer, lastOf_eq_valuesOf_iff] at reads
  unfold ApartTrailers
  by_cases empty : response.body = []
  · simpa [empty] using reads [] (by simp)
  · simpa [empty] using reads [response.body] (by simp [empty])

end

end Response

/-- A response that `marshalResponse` accepts reads back exactly when its
names are safe. -/
theorem readsBack_iff_of_marshalResponse
    (accepted : marshalResponse platform request response closeConnection = .ok out) :
    response.ReadsBack platform request closeConnection out ↔
      response.Safe request closeConnection := by
  unfold marshalResponse at accepted
  cases head : appendResponseHead platform request (response.head request closeConnection) with
  | error failure => simp [head, bind, Except.bind] at accepted
  | ok start =>
    simp only [head, bind, Except.bind] at accepted
    have safeHead : (response.head request closeConnection).Safe request ↔ SafeLines response.header
          ((response.head request closeConnection).skips request) ∧
        (response.chunked request = true ->
          ∀ name ∈ response.trailerNames, hasCrlf name = false) := by
      simp only [ResponseHead.Safe, Response.head]
      grind
    have sameChunked : (response.head request closeConnection).chunked =
        response.chunked request := rfl
    rw [sameChunked] at accepted
    by_cases chunked : response.chunked request = true
    · have hasBody : (request.isHead || !statusHasBody response.statusCode) = false := by
        unfold Response.chunked at chunked
        grind
      rw [hasBody, chunked] at accepted
      cases written : appendHeaderLines response.sentTrailer (fun _ => false) with
      | error failure => simp [written] at accepted
      | ok lines =>
        simp only [written, Bool.false_eq_true, if_false, Bool.not_true,
          Except.ok.injEq, List.append_assoc] at accepted
        subst accepted
        have content := response.readTrailed_content_iff written
        rw [List.append_assoc] at content
        simp only [Response.ReadsBack, chunked, if_true]
        rw [exists_readHead_iff head, content, safeHead]
        simp only [Response.Safe, response.safeTrailers_iff, chunked, forall_const, and_assoc]
    have whole : out = start ++
        if request.isHead || !statusHasBody response.statusCode then []
        else response.body := by
      grind
    subst whole
    simp only [Response.ReadsBack, chunked, Bool.false_eq_true, if_false]
    rw [exists_readHead_iff head, safeHead]
    simp [Response.Safe, chunked]

end Http
end Fib
