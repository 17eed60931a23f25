import Fib.Http.Response
import Fib.Http3.ClientStream
import Fib.Http3.Reading
import Mathlib.Data.Nat.Digits.Lemmas

/-!
# Responses survive the trip

The server writes a response as a HEADERS frame, at most one DATA frame, and
perhaps a trailer.  The client reads it back, however the bytes are cut, unless
a name looks like a pseudo-header or the value of a trailer has an outer blank:
those the server lets through and the client refuses.
-/

namespace Fib
namespace Http3

open FrameStream (Frame)
open Http (Header Response canonicalHeaderKey)
open Http2 (carried gather valuesOf toLower hasOuterBlank plainName
  declaredLength malformedLength)
open Numeral (digits)

/-! ## The response of the server -/

/-- The names `WriteResponse` leaves out of a header. -/
def leftOut (name : Bytes) : Bool :=
  connectionHeaders.contains name || name == ascii "content-length"

/-- The fields of a response ahead of its body. -/
def headFields (response : Response) : List OutField :=
  (⟨ascii ":status", digits 10 response.statusCode⟩, false) ::
    (if response.statusCode != 204 && response.statusCode != 304 then
        [(⟨ascii "content-length", digits 10 response.body.length⟩, false)]
      else []) ++
    outFields response.header (· == ascii "content-length")

/-- The fields of a trailer that `validTrailer` admits. -/
def trailerFields (trailer : Header) : List OutField :=
  trailer.entries.flatMap fun entry =>
    let name := toLower entry.1
    if !validTrailer name entry.2 then []
    else entry.2.map fun value => (⟨name, value⟩, false)

/-- The body of a response that is sent. -/
def sentBody
    (method : Bytes)
    (response : Response) : Bytes :=
  if bodyAllowed method response.statusCode then response.body else []

/-- A trailer is sent. -/
def sendsTrailer
    (method : Bytes)
    (response : Response) : Bool :=
  bodyAllowed method response.statusCode &&
    !response.trailer.entries.isEmpty &&
    Qpack.sectionStart.length <
      (fieldSection (trailerFields response.trailer)).length

/-- The bytes that `WriteResponse` writes for a request with the given method;
nothing stands for an error. -/
def writeResponse
    (method : Bytes)
    (response : Response) : Option Bytes :=
  if response.statusCode < 200 ∨ 999 < response.statusCode then none
  else if !checkHeader response.header then none
  else
    some
      (appendHeadersFrame (fieldSection (headFields response)) ++
        (if sentBody method response = [] then []
          else
            appendFrameHeader frameData (sentBody method response).length ++
              sentBody method response) ++
        if sendsTrailer method response then
          appendHeadersFrame (fieldSection (trailerFields response.trailer))
        else [])

/-- The frames of a response. -/
def responseFrames
    (method : Bytes)
    (response : Response) : List Frame :=
  [⟨frameHeaders, fieldSection (headFields response)⟩] ++
    (if sentBody method response = [] then []
      else [⟨frameData, sentBody method response⟩]) ++
    if sendsTrailer method response then
      [⟨frameHeaders, fieldSection (trailerFields response.trailer)⟩]
    else []

variable {method : Bytes}

theorem writeResponse_eq_some
    (written : writeResponse method response = some bytes) :
    200 ≤ response.statusCode ∧ response.statusCode ≤ 999 ∧ checkHeader response.header = true ∧
      bytes = (responseFrames method response).flatMap FrameStream.encode := by
  unfold writeResponse at written
  split at written
  · cases written
  next status =>
  split at written
  · cases written
  next checked =>
  refine ⟨by omega, by omega, by simpa using checked, ?_⟩
  cases written
  have body : (if sentBody method response = [] then []
      else [⟨frameData, sentBody method response⟩] :
        List Frame).flatMap FrameStream.encode =
      if sentBody method response = [] then []
      else
        appendFrameHeader frameData (sentBody method response).length ++
          sentBody method response := by
    split
    · rfl
    · exact List.flatMap_singleton _ _
  have tail : (if sendsTrailer method response then
        [⟨frameHeaders, fieldSection (trailerFields response.trailer)⟩]
      else [] : List Frame).flatMap FrameStream.encode =
      if sendsTrailer method response then
        appendHeadersFrame (fieldSection (trailerFields response.trailer))
      else [] := by
    split
    · exact List.flatMap_singleton _ _
    · rfl
  rw [responseFrames, List.flatMap_append, List.flatMap_append, body, tail, List.flatMap_singleton]
  rfl

/-! ## Headers in memory -/

/-- A header whose texts are in memory, where none has 2 ^ 48 bytes. -/
def HeaderFits (header : Header) : Prop :=
  ∀ entry ∈ header.entries, entry.1.length < 2 ^ 48 ∧
    ∀ value ∈ entry.2, value.length < 2 ^ 48

/-- A response as a handler holds it, and its field sections as the server
writes them: in memory, where nothing has 2 ^ 48 bytes. -/
structure Reply where
  response : Response
  header_fits : HeaderFits response.header
  trailer_fits : HeaderFits response.trailer
  body_fits : response.body.length < 2 ^ 48
  head_fits : (fieldSection (headFields response)).length < 2 ^ 48
  tail_fits :
    (fieldSection (trailerFields response.trailer)).length < 2 ^ 48

theorem length_lowerLetters_le
    (fuel : Nat)
    (text : Bytes) :
    (Http2.lowerLetters fuel text).length ≤ text.length := by
  induction fuel generalizing text with
  | zero => exact Nat.le_refl _
  | succ fuel ih =>
    cases text with
    | nil => exact Nat.le_refl _
    | cons first rest =>
      have whole := ih rest
      have shorter := ih (rest.drop 2)
      have short := ih (rest.drop 1)
      rw [List.length_drop] at shorter short
      unfold Http2.lowerLetters
      split
      · rw [List.length_cons, List.length_cons]
        omega
      split
      · rw [List.length_cons, List.length_cons]
        omega
      · split
        · exact Nat.succ_le_succ whole
        · exact Nat.succ_le_succ whole

theorem length_toLower_le
    (text : Bytes) :
    (toLower text).length ≤ text.length :=
  length_lowerLetters_le text.length text

/-- The fields of a header that is in memory are in memory. -/
theorem HeaderFits.fields
    {header : Header}
    (fits : HeaderFits header)
    {leaves : Bytes -> List Bytes -> Bool}
    {hides : Bytes -> Bool} :
    ∀ field ∈ header.entries.flatMap fun entry =>
        if leaves (toLower entry.1) entry.2 then []
        else entry.2.map fun value =>
          ((⟨toLower entry.1, value⟩ : HeaderField), hides (toLower entry.1)),
      field.1.Fits := by
  intro field present
  obtain ⟨entry, among, own⟩ := List.mem_flatMap.mp present
  split at own
  · cases own
  · obtain ⟨value, given, rfl⟩ := List.mem_map.mp own
    exact ⟨(length_toLower_le entry.1).trans_lt (fits entry among).1,
      (fits entry among).2 value given⟩

theorem length_digits_lt
    (small : number < 2 ^ 48) :
    (digits 10 number).length < 2 ^ 48 := by
  unfold digits
  split
  · decide
  next positive =>
  rw [List.length_map, List.length_reverse]
  have bound : (Nat.digits 10 number).length ≤ 48 :=
    (Nat.digits_length_le_iff (by decide) number).mpr
      (small.trans (by decide))
  omega

theorem fits_headFields
    (reply : Reply)
    (status : reply.response.statusCode ≤ 999) :
    ∀ field ∈ headFields reply.response, field.1.Fits := by
  intro field present
  have name : (ascii ":status").length < 2 ^ 48 ∧
      (ascii "content-length").length < 2 ^ 48 := by decide
  unfold headFields at present
  rw [List.cons_append, List.mem_cons, List.mem_append] at present
  rcases present with rfl | length | listed
  · exact ⟨name.1, length_digits_lt (by omega)⟩
  · split at length
    · rw [List.mem_singleton.mp length]
      exact ⟨name.2, length_digits_lt reply.body_fits⟩
    · cases length
  · exact @HeaderFits.fields _ reply.header_fits (fun name _ => connectionHeaders.contains name ||
        name == ascii "content-length") sensitive field listed

theorem fits_trailerFields (reply : Reply) :
    ∀ field ∈ trailerFields reply.response.trailer, field.1.Fits :=
  @HeaderFits.fields _ reply.trailer_fits
    (fun name values => !validTrailer name values) (fun _ => false)

/-! ## The response that the client reads -/

/-- The trailers that `validTrailer` admits. -/
def admittedTrailers (trailer : Header) : List (Bytes × Bytes) :=
  trailer.entries.flatMap fun entry =>
    if !validTrailer (toLower entry.1) entry.2 then []
    else entry.2.map fun value => (toLower entry.1, value)

/-- Nothing that is sent looks like a pseudo-header, and no value of a trailer
has an outer blank. -/
structure Readable
    (method : Bytes)
    (response : Response) : Prop where
  header : ∀ field ∈ carried leftOut response.header,
    isPseudo field.1 = false
  trailer : bodyAllowed method response.statusCode = true ->
    ∀ field ∈ admittedTrailers response.trailer,
      isPseudo field.1 = false ∧ hasOuterBlank field.2 = false

/-- The response that the client hands on is the one that was written. -/
structure Delivered
    (method : Bytes)
    (response : Response)
    (received : IncomingResponse)
    (body : Bytes) : Prop where
  status : received.statusCode = response.statusCode
  header : ∀ key, key ≠ ascii "Content-Length" ->
    received.header.values key =
      valuesOf (carried leftOut response.header) key
  body : body =
    if bodyAllowed method response.statusCode then response.body else []
  trailer : ∀ key, received.trailer.values key =
    if bodyAllowed method response.statusCode then
      valuesOf (admittedTrailers response.trailer) key
    else []

/-- The trailer that the client gathers. -/
def readTrailer
    (method : Bytes)
    (response : Response) : Header :=
  if bodyAllowed method response.statusCode then gather ∅ (admittedTrailers response.trailer)
  else ∅

/-- A field without the flag. -/
def pairOf (field : OutField) : Bytes × Bytes :=
  (field.1.name, field.1.value)

theorem map_pairOf_outFields (header : Header) :
    (outFields header (· == ascii "content-length")).map pairOf =
      carried leftOut header := by
  unfold outFields carried
  rw [List.map_flatMap]
  apply List.flatMap_congr
  intro entry _
  change (if leftOut (toLower entry.1) then [] else _ : List OutField).map pairOf = _
  split
  · rfl
  · rw [List.map_map]
    rfl

theorem map_pairOf_trailerFields (trailer : Header) :
    (trailerFields trailer).map pairOf = admittedTrailers trailer := by
  unfold trailerFields admittedTrailers
  rw [List.map_flatMap]
  apply List.flatMap_congr
  intro entry _
  dsimp only
  split
  · rfl
  · rw [List.map_map]
    rfl

/-- Fields behind the status go to the header. -/
theorem foldlM_addResponseField
    {fields : List HeaderField}
    (valid : ∀ field ∈ fields, isPseudo field.name = false ∧ validName field.name = true ∧
      connectionHeaders.contains field.name = false)
    (status : Bytes)
    (header : Header) :
    fields.foldlM addResponseField (status, header) = .ok (status,
        gather header (fields.map fun field => (field.name, field.value))) := by
  induction fields generalizing header with
  | nil => rfl
  | cons field fields ih =>
    rw [List.forall_mem_cons] at valid
    obtain ⟨regular, name, carriedOn⟩ := valid.1
    have step : addResponseField (status, header) field =
        .ok (status, Http2.addValue header (canonicalHeaderKey field.name) field.value) := by
      unfold addResponseField
      rw [regular, name, carriedOn]
      rfl
    rw [List.foldlM_cons, step]
    exact ih valid.2 _

/-- Behind the status, a field that looks like a pseudo-header is refused. -/
theorem foldlM_addResponseField_of_pseudo
    {fields : List HeaderField}
    (pseudo : ∃ field ∈ fields, isPseudo field.name = true)
    (given : status ≠ [])
    (header : Header) :
    ∃ error, fields.foldlM addResponseField (status, header) = .error error := by
  induction fields generalizing header with
  | nil => simp at pseudo
  | cons field fields ih =>
    rw [List.foldlM_cons]
    cases isFirst : isPseudo field.name with
    | true =>
      rw [addResponseField, if_pos isFirst, if_pos (.inr (.inl given))]
      exact ⟨_, rfl⟩
    | false =>
      have later : ∃ field ∈ fields, isPseudo field.name = true := by
        simpa [isFirst] using pseudo
      rw [addResponseField, isFirst, if_neg Bool.false_ne_true]
      split
      · exact ⟨_, rfl⟩
      · exact ih later _

/-- The trailer is gathered from its fields. -/
theorem trailerFrom_eq_some
    (valid : ∀ field ∈ fields, isPseudo field.name = false ∧
      validName field.name = true ∧ validValue field.value = true ∧
      connectionHeaders.contains field.name = false) :
    trailerFrom fields = some (gather ∅ (fields.map fun field => (field.name, field.value))) := by
  unfold trailerFrom
  generalize (∅ : Header) = header
  induction fields generalizing header with
  | nil => rfl
  | cons field fields ih =>
    rw [List.forall_mem_cons] at valid
    obtain ⟨regular, name, value, carriedOn⟩ := valid.1
    rw [List.foldlM_cons, regular, name, value, carriedOn]
    exact ih valid.2 _

/-- A trailer with a field that looks like a pseudo-header, or with a value
that is refused, is malformed. -/
theorem trailerFrom_eq_none
    (refused : ∃ field ∈ fields,
      isPseudo field.name = true ∨ validValue field.value = false) :
    trailerFrom fields = none := by
  unfold trailerFrom
  generalize (∅ : Header) = header
  induction fields generalizing header with
  | nil => simp at refused
  | cons field fields ih =>
    rw [List.foldlM_cons]
    split
    · rfl
    · next taken =>
      simp only [Bool.or_eq_true, Bool.not_eq_true', not_or, Bool.not_eq_true] at taken
      refine ih ?_ _
      simpa [taken] using refused

theorem canonicalHeaderKey_contentLength :
    canonicalHeaderKey (ascii "content-length") = ascii "Content-Length" := by
  decide

/-- The values of a response's header, and its length. -/
theorem valuesOf_contentLength (checked : checkHeader header = true) :
    valuesOf (carried leftOut header) (ascii "Content-Length") = [] := by
  apply Http2.valuesOf_eq_nil
  intro field present
  obtain ⟨entry, among, kept, name, -⟩ := Http2.mem_carried.mp present
  have valid := List.all_eq_true.mp checked entry among
  simp only [Bool.and_eq_true] at valid
  rw [← canonicalHeaderKey_contentLength, name]
  intro same
  rw [Http2.canonicalHeaderKey_inj valid.1.2 (by decide)] at same
  rw [same] at kept
  revert kept
  decide

theorem length_digits_eq_three
    (large : 100 ≤ number)
    (small : number ≤ 999) :
    (digits 10 number).length = 3 := by
  unfold digits
  rw [if_neg (by omega), List.length_map, List.length_reverse]
  apply Nat.le_antisymm
  · exact (Nat.digits_length_le_iff (by decide) number).mpr (by omega)
  · exact (Nat.lt_digits_length_iff (by decide) number).mpr (by omega)

/-- The fields of a response behind its status. -/
def regularFields (response : Response) : List HeaderField :=
  ((headFields response).tail).map Prod.fst

theorem map_regularFields (response : Response) :
    (regularFields response).map (fun field => (field.name, field.value)) =
      (if response.statusCode != 204 && response.statusCode != 304 then
          [(ascii "content-length", digits 10 response.body.length)]
        else []) ++
        carried leftOut response.header := by
  rw [← map_pairOf_outFields, regularFields, List.map_map, headFields,
    List.cons_append, List.tail_cons]
  split
  · rfl
  · rfl

theorem regularFields_valid
    {response : Response}
    (checked : checkHeader response.header = true)
    (readable : ∀ field ∈ carried leftOut response.header,
      isPseudo field.1 = false) :
    ∀ field ∈ regularFields response, isPseudo field.name = false ∧ validName field.name = true ∧
      connectionHeaders.contains field.name = false := by
  intro field present
  have listed : (field.name, field.value) ∈ (regularFields response).map
        fun field => (field.name, field.value) :=
    List.mem_map_of_mem present
  rw [map_regularFields, List.mem_append] at listed
  rcases listed with length | header
  · split at length
    · have name : field.name = ascii "content-length" :=
        congrArg Prod.fst (List.mem_singleton.mp length)
      rw [name]
      decide
    · cases length
  obtain ⟨entry, among, kept, name, -⟩ := Http2.mem_carried.mp header
  have name : field.name = toLower entry.1 := name
  have valid := List.all_eq_true.mp checked entry among
  simp only [Bool.and_eq_true] at valid
  rw [leftOut, Bool.or_eq_false_iff] at kept
  refine ⟨readable _ header, ?_, ?_⟩
  · rw [name]
    exact valid.1.2
  · rw [name]
    exact kept.1

/-- The response says how long its body is. -/
def declares (response : Response) : Bool :=
  response.statusCode != 204 && response.statusCode != 304

/-- The header that the client gathers. -/
def responseHeader (response : Response) : Header :=
  gather ∅
    ((regularFields response).map fun field => (field.name, field.value))

/-- The response as the client has it before the body. -/
def headResponse (response : Response) : IncomingResponse where
  statusCode := response.statusCode
  header := responseHeader response
  contentLength :=
    if declares response then some response.body.length else none
  trailer := ∅

section Response

variable {response : Response}

theorem values_responseHeader
    (response : Response)
    (key : Bytes) :
    (responseHeader response).values key =
      (if declares response &&
          canonicalHeaderKey (ascii "content-length") = key then
        [digits 10 response.body.length]
      else []) ++ valuesOf (carried leftOut response.header) key := by
  rw [responseHeader, Http2.values_gather, map_regularFields,
    Http2.valuesOf_append, Http2.values_empty, List.nil_append]
  congr 1
  change valuesOf (if declares response then _ else _) key = _
  cases declares response with
  | false => rfl
  | true =>
    rw [if_pos rfl, Http2.valuesOf_cons, Http2.valuesOf_nil, Bool.true_and]
    simp only [decide_eq_true_eq]

section

variable (checked : checkHeader response.header = true)
include checked

theorem values_responseHeader_length :
    (responseHeader response).values (ascii "Content-Length") =
      if declares response then [digits 10 response.body.length] else [] := by
  rw [values_responseHeader, valuesOf_contentLength checked, canonicalHeaderKey_contentLength]
  simp

theorem declaredLength_responseHeader
    (bodyFits : response.body.length < 2 ^ 63) :
    declaredLength (responseHeader response) =
      if declares response then some (response.body.length : Int)
      else none := by
  rw [declaredLength, Http2.get, values_responseHeader_length checked]
  split
  · rw [List.headD_cons, if_neg (Numeral.digits_ne_nil 10 _), Http2.parseInt_digits bodyFits]
  · rfl

theorem malformedLength_responseHeader
    (bodyFits : response.body.length < 2 ^ 63) :
    malformedLength (responseHeader response) = false := by
  rw [malformedLength, declaredLength_responseHeader checked bodyFits,
    Http2.get, values_responseHeader_length checked]
  split
  · simp
  · rfl

end

/-- The status is the first field the client looks at. -/
theorem newResponse_eq (response : Response) :
    newResponse ((headFields response).map Prod.fst) =
      ((regularFields response).foldlM addResponseField
        (digits 10 response.statusCode, ∅)).bind fun read => responseOf read.1 read.2 :=
  rfl

/-- The client builds the response from the fields ahead of its body. -/
theorem newResponse_headFields
    (large : 200 ≤ response.statusCode)
    (small : response.statusCode ≤ 999)
    (checked : checkHeader response.header = true)
    (bodyFits : response.body.length < 2 ^ 63)
    (readable : ∀ field ∈ carried leftOut response.header,
      isPseudo field.1 = false) :
    newResponse ((headFields response).map Prod.fst) = .ok (some (headResponse response)) := by
  have isCode : atoi (digits 10 response.statusCode) =
      some (response.statusCode : Int) := Http2.parseInt_digits (by omega)
  have three := length_digits_eq_three (by omega) small
  rw [newResponse_eq, foldlM_addResponseField (regularFields_valid checked readable)]
  dsimp only [Except.bind]
  rw [responseOf, isCode]
  dsimp only
  rw [if_neg (by omega), if_neg (by omega), ← responseHeader,
    malformedLength_responseHeader checked bodyFits,
    declaredLength_responseHeader checked bodyFits, if_neg Bool.false_ne_true]
  congr 3
  split
  · rfl
  · rfl

end Response

/-! ## Reading the frames of a response -/

/-- The client has room for a reply. -/
structure Room
    (limits : Limits)
    (reply : Reply) : Prop where
  head : Hpack.total ((headFields reply.response).map Prod.fst) ≤
    limits.maxResponseHeaderBytes
  headFrame : (fieldSection (headFields reply.response)).length ≤
    limits.maxResponseHeaderBytes
  tail : Hpack.total
      ((trailerFields reply.response.trailer).map Prod.fst) ≤
    limits.maxResponseHeaderBytes
  tailFrame : (fieldSection (trailerFields reply.response.trailer)).length ≤
    limits.maxResponseHeaderBytes
  body : reply.response.body.length ≤ limits.maxResponseBodyBytes

variable {limits : Limits} {reply : Reply}

theorem fits_responseFrames
    (room : Room limits reply)
    (method : Bytes) :
    ∀ frame ∈ responseFrames method reply.response,
      FrameStream.Fits limits.maxResponseHeaderBytes frame := by
  intro frame present
  unfold responseFrames at present
  rw [List.mem_append, List.mem_append] at present
  have headFits := reply.head_fits
  have tailFits := reply.tail_fits
  have bodyFits := reply.body_fits
  have headersTyp : frameHeaders < 2 ^ 62 := by decide
  have dataTyp : frameData < 2 ^ 62 := by decide
  rcases present with (head | body) | tail
  · rw [List.mem_singleton.mp head]
    exact ⟨headersTyp, by dsimp only; omega, fun _ => room.headFrame⟩
  · split at body
    · cases body
    rw [List.mem_singleton.mp body]
    refine ⟨dataTyp, ?_, fun other => absurd rfl other⟩
    unfold sentBody
    split
    · dsimp only
      omega
    · decide
  · split at tail
    · rw [List.mem_singleton.mp tail]
      exact ⟨headersTyp, by dsimp only; omega, fun _ => room.tailFrame⟩
    · cases tail

/-- A HEADERS frame whose fields are decoded. -/
theorem step_headers
    (fit : ∀ field ∈ fields, field.1.Fits)
    (room : Hpack.total (fields.map Prod.fst) ≤ limits.maxResponseHeaderBytes)
    (undecided : awaiting.done = none)
    (expected : awaiting.trailers = false) :
    (responseReader limits).step awaiting ⟨frameHeaders, fieldSection fields⟩ =
      endings.judge (awaiting.onFields (fields.map Prod.fst), none) := by
  change endings.judge (awaiting.onFrame limits frameHeaders _) = _
  rw [Awaiting.onFrame, if_neg (by simp [undecided]), if_pos rfl,
    if_neg (by simp [expected]), decodeFields_fieldSection fit room]

/-- The body of a response, in a DATA frame if there is one. -/
theorem step_body (room : body.length ≤ limits.maxResponseBodyBytes) :
    (if body = [] then [] else [⟨frameData, body⟩] : List Frame).foldlM
        (responseReader limits).step { resp := some resp } =
      .ok { resp := some resp, body := body } := by
  split
  · next none =>
    rw [none]
    rfl
  have taken := (clientAccumulates limits).takes
    (rfl : endings.verdict { resp := some resp } = none) rfl body
  rw [if_neg (by simpa using room)] at taken
  change (endings.judge _ >>= _) = _
  rw [taken]
  rfl

theorem appendFields_ne_nil
    (fit : ∀ field ∈ fields, field.1.Fits)
    (nonempty : fields ≠ []) :
    Qpack.appendFields fields ≠ [] := by
  cases fields with
  | nil => exact absurd rfl nonempty
  | cons field rest =>
    obtain ⟨head, more, block, -⟩ := Qpack.appendField_spec
      (fit field List.mem_cons_self) field.2 0 (Qpack.appendFields rest)
    have whole : Qpack.appendFields (field :: rest) = head :: more := block
    rw [whole]
    exact List.cons_ne_nil head more

/-- A response that may have a body and sends no trailer has none to send. -/
theorem trailerFields_eq_nil
    (allowed : bodyAllowed method reply.response.statusCode = true)
    (sendsNone : sendsTrailer method reply.response = false) :
    trailerFields reply.response.trailer = [] := by
  by_contra nonempty
  rw [sendsTrailer, allowed, Bool.and_eq_false_iff] at sendsNone
  rcases sendsNone with empty | short
  · apply nonempty
    have empty : reply.response.trailer.entries = [] := by simpa using empty
    rw [trailerFields, empty]
    rfl
  have written := appendFields_ne_nil (fits_trailerFields reply) nonempty
  have longer := List.length_pos_iff.mpr written
  have short := of_decide_eq_false short
  rw [fieldSection, List.length_append] at short
  omega

/-- The client takes every field of a trailer. -/
theorem trailerFields_valid (readable : ∀ field ∈ admittedTrailers trailer,
      isPseudo field.1 = false ∧ hasOuterBlank field.2 = false) :
    ∀ field ∈ (trailerFields trailer).map Prod.fst,
      isPseudo field.name = false ∧ validName field.name = true ∧ validValue field.value = true ∧
        connectionHeaders.contains field.name = false := by
  intro field present
  obtain ⟨out, listed, rfl⟩ := List.mem_map.mp present
  have admitted : pairOf out ∈ admittedTrailers trailer := by
    rw [← map_pairOf_trailerFields]
    exact List.mem_map_of_mem listed
  obtain ⟨regular, inner⟩ := readable _ admitted
  obtain ⟨entry, -, own⟩ := List.mem_flatMap.mp listed
  dsimp only at own
  split at own
  · cases own
  next valid =>
  obtain ⟨value, given, rfl⟩ := List.mem_map.mp own
  have valid : validTrailer (toLower entry.1) entry.2 = true := by
    simpa using valid
  simp only [validTrailer, Bool.and_eq_true, Bool.not_eq_true', List.all_eq_true] at valid
  refine ⟨regular, valid.1.2, ?_, valid.1.1.2⟩
  exact Http2.validFieldValue_of_validHeaderValue (valid.2 value given) inner

/-- The client refuses a trailer with any other field. -/
theorem trailerFrom_trailerFields
    (unreadable : ¬∀ field ∈ admittedTrailers trailer,
      isPseudo field.1 = false ∧ hasOuterBlank field.2 = false) :
    trailerFrom ((trailerFields trailer).map Prod.fst) = none := by
  push Not at unreadable
  obtain ⟨pair, admitted, refused⟩ := unreadable
  rw [← map_pairOf_trailerFields] at admitted
  obtain ⟨out, listed, rfl⟩ := List.mem_map.mp admitted
  refine trailerFrom_eq_none ⟨out.1, List.mem_map_of_mem listed, ?_⟩
  cases isFirst : isPseudo out.1.name with
  | true => exact .inl rfl
  | false =>
    right
    exact Http2.validFieldValue_of_outerBlank (Bool.eq_true_of_not_eq_false (refused isFirst))

/-- The trailer of a response, in a HEADERS frame if it is sent. -/
theorem step_trailer
    (room : Room limits reply)
    (readable : Readable method reply.response)
    (unset : resp.trailer = ∅)
    (body : Bytes) :
    ∃ trailers,
      (if sendsTrailer method reply.response then
          [⟨frameHeaders, fieldSection (trailerFields reply.response.trailer)⟩]
        else [] : List Frame).foldlM
          (responseReader limits).step { resp := some resp, body := body } =
        .ok
          { resp := some { resp with trailer := readTrailer method reply.response }
            body := body
            trailers := trailers } := by
  have pairs : ((trailerFields reply.response.trailer).map Prod.fst).map
      (fun field => (field.name, field.value)) = admittedTrailers reply.response.trailer := by
    rw [List.map_map, ← map_pairOf_trailerFields]
    rfl
  unfold readTrailer
  by_cases sends : sendsTrailer method reply.response = true
  · have allowed : bodyAllowed method reply.response.statusCode = true := by
      simp only [sendsTrailer, Bool.and_eq_true] at sends
      exact sends.1.1
    have gathered := trailerFrom_eq_some (trailerFields_valid (readable.trailer allowed))
    rw [pairs] at gathered
    refine ⟨true, ?_⟩
    rw [if_pos sends, List.foldlM_cons, if_pos allowed,
      step_headers (fits_trailerFields reply) room.tail rfl rfl, Awaiting.onFields, gathered]
    rfl
  refine ⟨false, ?_⟩
  have sendsNone := Bool.eq_false_of_not_eq_true sends
  rw [if_neg sends]
  by_cases allowed : bodyAllowed method reply.response.statusCode = true
  · rw [if_pos allowed, ← pairs, trailerFields_eq_nil allowed sendsNone]
    obtain ⟨statusCode, header, contentLength, trailer⟩ := resp
    cases unset
    rfl
  · rw [if_neg allowed]
    obtain ⟨statusCode, header, contentLength, trailer⟩ := resp
    cases unset
    rfl

section

variable (written : writeResponse method reply.response = some bytes)
variable (room : Room limits reply)
include written room

/-- The client reads a response up to its trailer. -/
theorem read_head
    (readable : ∀ field ∈ carried leftOut reply.response.header, isPseudo field.1 = false) :
    FrameStream.read (responseReader limits) limits.maxResponseHeaderBytes {} 0 bytes =
      ((if sendsTrailer method reply.response then
          [⟨frameHeaders, fieldSection (trailerFields reply.response.trailer)⟩]
        else [] : List Frame).foldlM (responseReader limits).step
          { resp := some (headResponse reply.response)
            body := sentBody method reply.response }).map
        fun state => ⟨state, 0, []⟩ := by
  obtain ⟨large, small, checked, rfl⟩ := writeResponse_eq_some written
  have bodyFits := reply.body_fits
  have bodyRoom := room.body
  have built := newResponse_headFields large small checked (by omega) readable
  have sentRoom : (sentBody method reply.response).length ≤ limits.maxResponseBodyBytes := by
    unfold sentBody
    split
    · exact bodyRoom
    · exact Nat.zero_le _
  rw [FrameStream.read_flatMap_encode (clientAdditive limits)
    (fits_responseFrames room method), responseFrames, List.foldlM_append,
    List.foldlM_append, List.foldlM_cons,
    step_headers (fits_headFields reply small) room.head rfl rfl, Awaiting.onFields, built]
  change Except.map _ (Except.bind (Except.bind (.ok _) _) _) = _
  simp only [Except.bind]
  rw [step_body sentRoom]

/-- What the client has read of a response when its stream ends. -/
theorem read_response
    (readable : Readable method reply.response) :
    ∃ trailers,
      FrameStream.read (responseReader limits) limits.maxResponseHeaderBytes
          {} 0 bytes =
        .ok ⟨{
          resp := some
            { headResponse reply.response with trailer := readTrailer method reply.response }
          body := sentBody method reply.response
          trailers := trailers }, 0, []⟩ := by
  obtain ⟨trailers, tail⟩ := step_trailer room readable
    (rfl : (headResponse reply.response).trailer = ∅) (sentBody method reply.response)
  refine ⟨trailers, ?_⟩
  rw [read_head written room readable.header, tail]
  rfl

/-- Any other response the client takes for malformed. -/
theorem read_unreadable
    (unreadable : ¬Readable method reply.response) :
    ∃ error,
      FrameStream.read (responseReader limits) limits.maxResponseHeaderBytes {} 0 bytes =
        .error (.failed error) := by
  by_cases header : ∀ field ∈ carried leftOut reply.response.header, isPseudo field.1 = false
  · -- The trailer is at fault, so that it is sent.
    have trailer : ¬(bodyAllowed method reply.response.statusCode = true ->
        ∀ field ∈ admittedTrailers reply.response.trailer,
          isPseudo field.1 = false ∧ hasOuterBlank field.2 = false) :=
      fun trailer => unreadable ⟨header, trailer⟩
    rw [Classical.not_imp] at trailer
    obtain ⟨allowed, trailer⟩ := trailer
    have sends : sendsTrailer method reply.response = true := by
      by_contra sendsNone
      refine trailer fun field admitted => ?_
      rw [← map_pairOf_trailerFields,
        trailerFields_eq_nil allowed (Bool.eq_false_of_not_eq_true sendsNone)] at admitted
      cases admitted
    rw [read_head written room header, if_pos sends, List.foldlM_cons,
      step_headers (fits_trailerFields reply) room.tail rfl rfl, Awaiting.onFields,
      trailerFrom_trailerFields trailer]
    exact ⟨_, rfl⟩
  · obtain ⟨-, small, -, rfl⟩ := writeResponse_eq_some written
    push Not at header
    obtain ⟨field, carriedOn, pseudo⟩ := header
    have listed : field ∈ (regularFields reply.response).map
        fun field => (field.name, field.value) := by
      rw [map_regularFields]
      exact List.mem_append_right _ carriedOn
    obtain ⟨regular, present, rfl⟩ := List.mem_map.mp listed
    obtain ⟨error, refused⟩ := foldlM_addResponseField_of_pseudo
      ⟨regular, present, by simpa using pseudo⟩
      (Numeral.digits_ne_nil 10 reply.response.statusCode) ∅
    have built : newResponse ((headFields reply.response).map Prod.fst) = .error error := by
      rw [newResponse_eq, refused]
      rfl
    rw [FrameStream.read_flatMap_encode (clientAdditive limits)
      (fits_responseFrames room method), responseFrames, List.foldlM_append,
      List.foldlM_append, List.foldlM_cons,
      step_headers (fits_headFields reply small) room.head rfl rfl, Awaiting.onFields, built]
    exact ⟨_, rfl⟩

end

/-- The client hands the response on when its stream ends there. -/
theorem conclusion_delivered
    (method : Bytes)
    (response : Response)
    (trailers : Bool) :
    ∃ received,
      Awaiting.conclusion method
          { resp := some { headResponse response with trailer := readTrailer method response }
            body := sentBody method response
            trailers := trailers } =
        .finished received (sentBody method response) ∧
        Delivered method response received (sentBody method response) := by
  have header (key : Bytes) (other : key ≠ ascii "Content-Length") :
      (responseHeader response).values key = valuesOf (carried leftOut response.header) key := by
    rw [values_responseHeader, canonicalHeaderKey_contentLength,
      if_neg (by simp [Ne.symm other]), List.nil_append]
  have trailer (key : Bytes) :
      (readTrailer method response).values key =
        if bodyAllowed method response.statusCode then
          valuesOf (admittedTrailers response.trailer) key
        else [] := by
    unfold readTrailer
    split
    · rw [Http2.values_gather, Http2.values_empty, List.nil_append]
    · rfl
  unfold Awaiting.conclusion
  dsimp only [headResponse]
  by_cases allowed : bodyAllowed method response.statusCode = true
  · have isDeclared : declares response = true := by
      simp only [bodyAllowed, Bool.and_eq_true] at allowed
      rw [declares, allowed.1.1.2, allowed.1.2]
      rfl
    have whole : sentBody method response = response.body := if_pos allowed
    rw [if_pos allowed, if_pos isDeclared, whole, if_neg (by simp)]
    exact ⟨_, rfl, rfl, header, (if_pos allowed).symm, trailer⟩
  · rw [if_neg allowed]
    exact ⟨_, rfl, rfl, header, rfl, trailer⟩

/-- The client reads a response as it was written, however its bytes are cut
and with any limits that have room for it. -/
def ReadBack
    (method : Bytes)
    (response : Response)
    (bytes : Bytes) : Prop :=
  ∃ bound, ∀ limits : Limits, bound ≤ limits.maxResponseHeaderBytes ->
    bound ≤ limits.maxResponseBodyBytes ->
    ∀ pieces last, pieces.flatten ++ last = bytes ->
      ∃ received body,
        (receive limits method (cut pieces last true)).closes = [] ∧
          (receive limits method (cut pieces last true)).stream.awaiting.done =
            some (.finished received body) ∧
          Delivered method response received body

/-- Header bytes that are enough for both field sections of a response. -/
def headerNeed (response : Response) : Nat :=
  Hpack.total ((headFields response).map Prod.fst) +
    (fieldSection (headFields response)).length +
    Hpack.total ((trailerFields response.trailer).map Prod.fst) +
    (fieldSection (trailerFields response.trailer)).length

theorem Room.of_le
    (header : headerNeed reply.response ≤ limits.maxResponseHeaderBytes)
    (body : reply.response.body.length ≤ limits.maxResponseBodyBytes) :
    Room limits reply := by
  unfold headerNeed at header
  constructor <;> omega

theorem readBack_of_readable
    {method bytes : Bytes}
    (written : writeResponse method reply.response = some bytes)
    (readable : Readable method reply.response) :
    ReadBack method reply.response bytes := by
  refine ⟨headerNeed reply.response + reply.response.body.length, ?_⟩
  intro limits headerRoom bodyRoom pieces last whole
  have room : Room limits reply := Room.of_le (by omega) (by omega)
  obtain ⟨trailers, isRead⟩ := read_response written room readable
  rw [← whole] at isRead
  obtain ⟨closes, done⟩ := receive_of_read method isRead
  obtain ⟨received, finished, delivered⟩ :=
    conclusion_delivered method reply.response trailers
  exact ⟨received, _, closes, done.trans (congrArg some finished), delivered⟩

/-- A response that the server accepts is read by the client as it was written
exactly when nothing in it looks like a pseudo-header and no value of a trailer
has an outer blank. -/
theorem responses_are_read_back
    (method : Bytes)
    (reply : Reply)
    {bytes : Bytes}
    (written : writeResponse method reply.response = some bytes) :
    ReadBack method reply.response bytes ↔ Readable method reply.response := by
  refine ⟨?_, readBack_of_readable written⟩
  rintro ⟨bound, reads⟩
  by_contra unreadable
  -- limits with room for the response are also above the bound
  let limits : Limits :=
    { maxResponseHeaderBytes := bound + headerNeed reply.response + 1
      maxResponseBodyBytes := bound + reply.response.body.length + 1
      header_pos := Nat.succ_pos _
      body_pos := Nat.succ_pos _ }
  have room : Room limits reply :=
    Room.of_le (by simp only [limits]; omega) (by simp only [limits]; omega)
  obtain ⟨received, body, -, done, -⟩ := reads limits (by simp only [limits]; omega)
    (by simp only [limits]; omega) [] bytes rfl
  obtain ⟨error, failed⟩ := read_unreadable written room unreadable
  obtain ⟨error, refused⟩ := receive_of_failed method failed
  cases done.symm.trans refused

/-- A response of a header field, a body and a trailer. -/
def sampleResponse : Response where
  statusCode := 200
  header := AList.insert (ascii "X-Name") [ascii "a value "] ∅
  body := ascii "hello"
  trailer := AList.insert (ascii "X-Sum") [ascii "1"] ∅
  close := false

theorem sampleResponse_written :
    (fieldSection (headFields sampleResponse)).length < 2 ^ 48 ∧
      (fieldSection (trailerFields sampleResponse.trailer)).length < 2 ^ 48 ∧
      (writeResponse (ascii "GET") sampleResponse).isSome = true := by
  decide +kernel

def sampleReply : Reply where
  response := sampleResponse
  header_fits := by unfold HeaderFits; decide
  trailer_fits := by unfold HeaderFits; decide
  body_fits := by decide
  head_fits := sampleResponse_written.1
  tail_fits := sampleResponse_written.2.1

theorem responses_are_read_back_sample :
    ∃ bytes,
      writeResponse (ascii "GET") sampleReply.response = some bytes ∧
        Readable (ascii "GET") sampleReply.response ∧
        ReadBack (ascii "GET") sampleReply.response bytes := by
  have readable : Readable (ascii "GET") sampleReply.response :=
    ⟨by decide, fun _ => by decide⟩
  obtain ⟨bytes, written⟩ :=
    Option.isSome_iff_exists.mp sampleResponse_written.2.2
  exact ⟨bytes, written, readable,
    (responses_are_read_back (ascii "GET") sampleReply written).mpr readable⟩

/-- The limits a client has by default. -/
def defaultLimits : Limits where
  maxResponseHeaderBytes := 1 <<< 20
  maxResponseBodyBytes := 64 <<< 20
  header_pos := plainServer.header_pos
  body_pos := by decide

/-- The error that a request is finished with. -/
def Ending.error : Ending -> Option ClientError
  | failed error => some error
  | _ => none

/-- The error that the client finishes a request with when it reads a response
that the server wrote. -/
def readError (response : Response) : Option ClientError :=
  (writeResponse (ascii "GET") response).bind fun bytes =>
    (receive defaultLimits (ascii "GET")
      [(bytes, true)]).stream.awaiting.done.bind Ending.error

/-- A name that starts with a colon in the header, such a name in the trailer,
and a trailer value that ends in a blank: the server writes the response and
the client refuses it. -/
theorem responses_are_refused :
    readError
        { statusCode := 200
          header := AList.insert (ascii ":name") [ascii "1"] ∅
          body := [], trailer := ∅, close := false } =
      some (.malformedResponse .malformedPseudoHeader) ∧
    readError
        { statusCode := 200, header := ∅, body := []
          trailer := AList.insert (ascii ":name") [ascii "1"] ∅
          close := false } = some .malformedTrailers ∧
    readError
        { statusCode := 200, header := ∅, body := []
          trailer := AList.insert (ascii "X-Sum") [ascii "1 "] ∅
          close := false } = some .malformedTrailers := by
  decide +kernel

end Http3
end Fib
