import Fib.Http2.Request
import Fib.Http.Names

/-!
# Fields on their way

A header is sent as fields with names in lower case, without those that
belong to one connection; the receiver gathers fields under canonical names.
A request goes to the server as pseudo-headers and then the fields of its
header, and a response comes back as its status and the fields of its header.
-/

namespace Fib
namespace Http2

open Http (Header canonicalHeaderKey parseInt validHeaderValue)
open Message (lower)
open Numeral (digits)

/-! ## Gathering fields -/

/-- The values that fields give a key, in order. -/
def valuesOf
    (fields : List (Bytes × Bytes))
    (key : Bytes) : List Bytes :=
  (fields.filter fun field => canonicalHeaderKey field.1 = key).map Prod.snd

/-- A header with fields added to it. -/
def gather
    (header : Header)
    (fields : List (Bytes × Bytes)) : Header :=
  fields.foldl
    (fun header field =>
      addValue header (canonicalHeaderKey field.1) field.2)
    header

@[simp] theorem valuesOf_nil (key : Bytes) : valuesOf [] key = [] := rfl

theorem valuesOf_cons
    (field : Bytes × Bytes)
    (fields : List (Bytes × Bytes))
    (key : Bytes) :
    valuesOf (field :: fields) key =
      if canonicalHeaderKey field.1 = key then field.2 :: valuesOf fields key
      else valuesOf fields key := by
  unfold valuesOf
  rw [List.filter_cons]
  split
  · next same => rw [if_pos (of_decide_eq_true same), List.map_cons]
  · next other => rw [if_neg fun same => other (decide_eq_true same)]

theorem valuesOf_append
    (first second : List (Bytes × Bytes))
    (key : Bytes) :
    valuesOf (first ++ second) key = valuesOf first key ++ valuesOf second key := by
  rw [valuesOf, List.filter_append, List.map_append]
  rfl

theorem valuesOf_eq_nil
    (absent : ∀ field ∈ fields, canonicalHeaderKey field.1 ≠ key) :
    valuesOf fields key = [] := by
  rw [valuesOf, List.map_eq_nil_iff, List.filter_eq_nil_iff]
  intro field present
  simpa using absent field present

theorem values_addValue
    (header : Header)
    (key value name : Bytes) :
    Header.values (addValue header key value) name =
      header.values name ++ if key = name then [value] else [] := by
  rw [addValue, Http.values_insert]
  by_cases same : name = key
  · rw [if_pos same, if_pos same.symm, same]
  · rw [if_neg same, if_neg (Ne.symm same), List.append_nil]

/-- A gathered header has the values of the fields behind its own. -/
theorem values_gather
    (header : Header)
    (fields : List (Bytes × Bytes))
    (key : Bytes) :
    (gather header fields).values key = header.values key ++ valuesOf fields key := by
  induction fields generalizing header with
  | nil => simp [gather]
  | cons field fields ih =>
    change (gather (addValue header _ _) fields).values key = _
    rw [ih, values_addValue, valuesOf_cons, List.append_assoc]
    split
    · rfl
    · rfl

@[simp] theorem values_empty (key : Bytes) :
    Header.values ∅ key = [] := rfl

/-! ## Fields of a header -/

/-- The fields of a header that are sent: names are in lower case, and some
are left out. -/
def carried
    (leaves : Bytes -> Bool)
    (header : Header) :
    List (Bytes × Bytes) :=
  header.entries.flatMap fun entry =>
    if leaves (toLower entry.1) then []
    else entry.2.map fun value => (toLower entry.1, value)

theorem mem_carried :
    field ∈ carried leaves header ↔
      ∃ entry ∈ header.entries, leaves (toLower entry.1) = false ∧
        field.1 = toLower entry.1 ∧ field.2 ∈ entry.2 := by
  rw [carried, List.mem_flatMap]
  refine exists_congr fun entry => and_congr_right fun _ => ?_
  by_cases isLeft : leaves (toLower entry.1) = true
  · simp [isLeft]
  rw [if_neg isLeft, List.mem_map]
  constructor
  · rintro ⟨value, present, rfl⟩
    exact ⟨Bool.eq_false_of_not_eq_true isLeft, rfl, present⟩
  · rintro ⟨-, name, present⟩
    exact ⟨field.2, present, Prod.ext name.symm rfl⟩

/-! ## Names in lower case -/

/-- A name that a field other than a pseudo-header may have. -/
def plainName (name : Bytes) : Bool :=
  validHeaderName name && name.head? != some 58

theorem map_lower_of_validHeaderName (valid : validHeaderName name = true) :
    name.map lower = name := by
  have each : ∀ byte : UInt8, (!(65 ≤ byte && byte ≤ 90)) = true ->
      lower byte = byte := forall_byte (by decide +kernel)
  unfold validHeaderName at valid
  simp only [Bool.and_eq_true, List.all_eq_true] at valid
  conv_rhs => rw [← List.map_id name]
  apply List.map_congr_left
  intro byte present
  exact each byte (valid.1.2 byte present).1.1

/-- The canonical form of a name in lower case tells the name. -/
theorem map_lower_canonicalHeaderKey (valid : validHeaderName name = true) :
    (canonicalHeaderKey name).map lower = name := by
  unfold canonicalHeaderKey
  split
  · rw [Http.map_lower_capitalise, map_lower_of_validHeaderName valid]
  · exact map_lower_of_validHeaderName valid

theorem canonicalHeaderKey_inj
    (firstValid : validHeaderName first = true)
    (secondValid : validHeaderName second = true) :
    canonicalHeaderKey first = canonicalHeaderKey second ↔ first = second := by
  constructor
  · intro same
    rw [← map_lower_canonicalHeaderKey firstValid, same, map_lower_canonicalHeaderKey secondValid]
  · rintro rfl
    rfl

/-! ## Numbers -/

/-- A decimal numeral is read as its number. -/
theorem parseInt_digits (small : number < 2 ^ 63) :
    parseInt (digits 10 number) = some (number : Int) := by
  have whole := Numeral.parseDigits_digits (by decide : 1 < 10) (by decide) number
  have isDigit := @Numeral.digit_of_mem_digits number
  generalize digits 10 number = text at whole isDigit
  unfold parseInt
  split
  · next rest =>
    exact absurd (isDigit List.mem_cons_self).1 (by decide)
  · next rest =>
    exact absurd (isDigit List.mem_cons_self).1 (by decide)
  · rw [whole, Option.bind_some, if_pos small]

theorem validFieldValue_digits
    (number : Nat) :
    validFieldValue (digits 10 number) = true := by
  have isDigit := @Numeral.digit_of_mem_digits number
  have each : ∀ byte : UInt8, 48 ≤ byte ∧ byte ≤ 57 ->
      (byte != 0 && byte != 13 && byte != 10) = true ∧
        (byte != 32 && byte != 9) = true := forall_byte (by decide +kernel)
  unfold validFieldValue
  rw [Bool.and_eq_true, Bool.and_eq_true, List.all_eq_true, Option.all_eq_true, Option.all_eq_true]
  refine ⟨⟨?_, ?_⟩, ?_⟩
  · intro byte present
    exact (each byte (isDigit present)).1
  · intro byte first
    exact (each byte (isDigit (List.mem_of_head? first))).2
  · intro byte last
    exact (each byte (isDigit (List.mem_of_getLast? last))).2

/-! ## Requests that are received -/

namespace Draft

/-- `newRequest` once it has seen all fields. -/
def request
    (parseRequestURI : Bytes -> Bool)
    (draft : Draft) :
    Option Request :=
  let method := draft.method.getD []
  let scheme := draft.scheme.getD []
  let authority := draft.authority.getD []
  let path := draft.path.getD []
  let header := draft.joined
  let request : Request :=
    { method := method
      requestURI := path
      host := if authority = [] then get header (ascii "Host") else authority
      header := header.erase (ascii "Host")
      trailer := ∅ }
  if method = [] then none
  else if method = ascii "CONNECT" then
    if scheme ≠ [] ∨ path ≠ [] ∨ authority = [] then none
    else some { request with requestURI := authority }
  else if scheme = [] ∨ path = [] then none
  else if path ≠ ascii "*" ∧ !parseRequestURI path then none
  else some request

/-- A field that a request may have behind its pseudo-headers. -/
def Admits (field : Bytes × Bytes) : Prop :=
  plainName field.1 = true ∧ validFieldValue field.2 = true ∧
    connectionHeaders.contains field.1 = false ∧ field.1 ≠ ascii "te"

theorem add_of_admits
    (admits : Admits field)
    (draft : Draft) :
    draft.add ⟨field.1, field.2⟩ = some
        (if field.1 = ascii "cookie" then
          { draft with
            regular := true, cookies := draft.cookies ++ [field.2] }
        else
          { draft with
            regular := true
            header :=
              addValue draft.header (canonicalHeaderKey field.1) field.2 }) := by
  obtain ⟨isPlain, value, carriedOn, notTe⟩ := admits
  simp only [plainName, Bool.and_eq_true, bne_iff_ne, ne_eq] at isPlain
  rw [add, if_neg isPlain.2, addRegular,
    if_neg (by rw [isPlain.1, value, carriedOn]; decide),
    if_neg fun te => notTe te.1]
  split
  · rfl
  · rfl

/-- The fields behind the pseudo-headers go to the header, and cookies to a
list of their own. -/
theorem foldlM_add
    {fields : List (Bytes × Bytes)}
    (admits : ∀ field ∈ fields, Admits field)
    (draft : Draft) :
    ∃ regular,
      fields.foldlM (fun draft field => draft.add ⟨field.1, field.2⟩) draft =
        some { draft with
          regular := regular
          cookies := draft.cookies ++
            (fields.filter (·.1 = ascii "cookie")).map Prod.snd
          header := gather draft.header
            (fields.filter (·.1 ≠ ascii "cookie")) } := by
  induction fields generalizing draft with
  | nil => exact ⟨draft.regular, by simp [gather]⟩
  | cons field fields ih =>
    rw [List.forall_mem_cons] at admits
    rw [List.foldlM_cons, add_of_admits admits.1]
    by_cases cookie : field.1 = ascii "cookie"
    · rw [if_pos cookie]
      obtain ⟨regular, rest⟩ := ih admits.2
        { draft with
          regular := true, cookies := draft.cookies ++ [field.2] }
      refine ⟨regular, ?_⟩
      refine Eq.trans rest ?_
      simp [cookie]
    rw [if_neg cookie]
    obtain ⟨regular, rest⟩ := ih admits.2
      { draft with
        regular := true
        header :=
          addValue draft.header (canonicalHeaderKey field.1) field.2 }
    refine ⟨regular, ?_⟩
    refine Eq.trans rest ?_
    simp [cookie, gather]

/-- The values of a name once the cookies are in one field. -/
theorem values_joined
    (draft : Draft)
    (key : Bytes) :
    draft.joined.values key =
      if key = ascii "Cookie" ∧ draft.cookies ≠ [] then
        [(ascii "; ").intercalate draft.cookies]
      else draft.header.values key := by
  unfold joined
  by_cases none : draft.cookies = []
  · simp [none]
  · rw [if_neg none, Http.values_insert]
    simp [none]

/-- No field of a request that looks like a pseudo-header goes to the
header. -/
theorem values_foldlM
    {fields : List (Bytes × Bytes)}
    {draft final : Draft}
    (folded : fields.foldlM (fun draft field => draft.add ⟨field.1, field.2⟩) draft = some final)
    (valid : validHeaderName name = true)
    (pseudo : name.head? = some 58)
    (absent : draft.header.values (canonicalHeaderKey name) = []) :
    final.header.values (canonicalHeaderKey name) = [] := by
  induction fields generalizing draft with
  | nil =>
    cases folded
    exact absent
  | cons field fields ih =>
    rw [List.foldlM_cons] at folded
    obtain ⟨next, added, rest⟩ := Option.bind_eq_some_iff.mp folded
    refine ih rest ?_
    unfold add at added
    split at added
    · unfold addPseudo at added
      split_ifs at added <;> cases added <;> exact absent
    · next regular =>
      unfold addRegular at added
      split_ifs at added with refused _ cookie
      · cases added
        exact absent
      · cases added
        rw [values_addValue, absent, List.nil_append, if_neg]
        simp only [Bool.or_eq_true, Bool.not_eq_true', not_or, Bool.not_eq_false] at refused
        rw [canonicalHeaderKey_inj refused.1.1 valid]
        rintro rfl
        exact regular pseudo

theorem header_of_request
    {draft : Draft}
    (isRequest : draft.request parseRequestURI = some built) :
    built.header = draft.joined.erase (ascii "Host") := by
  unfold request at isRequest
  dsimp only at isRequest
  split_ifs at isRequest <;> cases isRequest <;> rfl

end Draft

theorem values_erase
    (header : Header)
    (name key : Bytes) :
    Header.values (header.erase name) key =
      if key = name then [] else header.values key := by
  unfold Header.values
  split
  · next same =>
    rw [same, AList.lookup_erase]
    rfl
  · next other => rw [AList.lookup_erase_ne other]

/-- The values that a receiver finds: cookies are in one field. -/
def joinCookies
    (key : Bytes)
    (values : List Bytes) : List Bytes :=
  if key = ascii "Cookie" ∧ values ≠ [] then
    [(ascii "; ").intercalate values]
  else values

/-- Fields that are named, as the receiver's header has them. -/
theorem values_joined_gather
    {fields : List (Bytes × Bytes)}
    (valid : ∀ field ∈ fields, validHeaderName field.1 = true)
    {draft : Draft}
    (header : draft.header =
      gather ∅ (fields.filter (·.1 ≠ ascii "cookie")))
    (cookies : draft.cookies =
      (fields.filter (·.1 = ascii "cookie")).map Prod.snd)
    (key : Bytes) :
    draft.joined.values key = joinCookies key (valuesOf fields key) := by
  have cookieValid : validHeaderName (ascii "cookie") = true := by decide
  have cookieKey : canonicalHeaderKey (ascii "cookie") = ascii "Cookie" := by
    decide
  have isCookie : ∀ field ∈ fields,
      canonicalHeaderKey field.1 = ascii "Cookie" ↔
        field.1 = ascii "cookie" := by
    intro field present
    exact canonicalHeaderKey_inj (valid field present) cookieValid
  rw [Draft.values_joined, joinCookies, header, cookies, values_gather,
    values_empty, List.nil_append]
  by_cases same : key = ascii "Cookie"
  · subst same
    have theirs : valuesOf fields (ascii "Cookie") =
        (fields.filter (·.1 = ascii "cookie")).map Prod.snd := by
      rw [valuesOf]
      congr 1
      apply List.filter_congr
      intro field present
      exact decide_eq_decide.mpr (isCookie field present)
    have others : valuesOf (fields.filter (·.1 ≠ ascii "cookie"))
        (ascii "Cookie") = [] := by
      apply valuesOf_eq_nil
      intro field present
      rw [List.mem_filter] at present
      intro same
      exact of_decide_eq_true present.2 ((isCookie field present.1).mp same)
    rw [theirs, others]
    split
    · rfl
    · next none =>
      by_contra some
      exact none ⟨rfl, Ne.symm some⟩
  rw [if_neg fun both => same both.1, if_neg fun both => same both.1,
    valuesOf, List.filter_filter]
  congr 1
  apply List.filter_congr
  intro field present
  by_cases named : canonicalHeaderKey field.1 = key
  · have other : field.1 ≠ ascii "cookie" := by
      intro cookie
      rw [cookie] at named
      exact same named.symm
    simp [named, other]
  · simp [named]

/-- The fields behind the pseudo-headers fill the header. -/
theorem Draft.fills
    {fields : List (Bytes × Bytes)}
    (admits : ∀ field ∈ fields, Admits field)
    (method scheme authority path : Option Bytes) :
    ∃ filled : Draft,
      fields.foldlM (fun draft field => draft.add ⟨field.1, field.2⟩)
          { method := method, scheme := scheme, authority := authority,
            path := path } = some filled ∧
        filled.method = method ∧ filled.scheme = scheme ∧
        filled.authority = authority ∧ filled.path = path ∧
        ∀ key, filled.joined.values key = joinCookies key (valuesOf fields key) := by
  obtain ⟨regular, folded⟩ := foldlM_add admits
    { method := method, scheme := scheme, authority := authority,
      path := path }
  refine ⟨_, folded, rfl, rfl, rfl, rfl, ?_⟩
  intro key
  refine values_joined_gather ?_ rfl (List.nil_append _) key
  intro field present
  have isPlain := (admits field present).1
  rw [plainName, Bool.and_eq_true] at isPlain
  exact isPlain.1

/-! ## Requests that are sent -/

/-- A request as the caller of a client gives it, with the body read:
`requestURI` is `req.URL.RequestURI()`, which is never empty. -/
structure Outgoing where
  method : Bytes
  host : Bytes
  urlHost : Bytes
  requestURI : Bytes
  requestURI_ne : requestURI ≠ []
  header : Header
  body : Bytes

/-- Why a request has no fields. -/
inductive FieldError where
  | invalidMethod (method : Bytes)
  | invalidName (key : Bytes)
  | invalidValue (key : Bytes)
deriving DecidableEq, Repr

/-- The names that a client leaves out of a request. -/
def unsent (name : Bytes) : Bool :=
  connectionHeaders.contains name || name == ascii "host" ||
    name == ascii "content-length" || name == ascii "te"

/-- The fields of a header, unless one of them may not be sent. -/
def headerFields :
    List (Sigma fun _ : Bytes => List Bytes) ->
    Except FieldError (List (Bytes × Bytes))
  | [] => .ok []
  | ⟨key, values⟩ :: rest =>
    let name := toLower key
    if unsent name then headerFields rest
    else if !validHeaderName name then .error (.invalidName key)
    else if !values.all validHeaderValue then .error (.invalidValue key)
    else (headerFields rest).map (values.map (fun value => (name, value)) ++ ·)

namespace Outgoing

section

variable (request : Outgoing)

/-- The method, which is GET if there is none. -/
def methodOf : Bytes :=
  if request.method = [] then ascii "GET" else request.method

/-- The host of the request, or of its URL. -/
def authority : Bytes :=
  if request.host = [] then request.urlHost else request.host

/-- The pseudo-headers. -/
def pseudo (scheme : Bytes) : List (Bytes × Bytes) :=
  if request.methodOf = ascii "CONNECT" then
    [(ascii ":method", request.methodOf),
      (ascii ":authority", request.authority)]
  else
    [(ascii ":method", request.methodOf), (ascii ":scheme", scheme),
      (ascii ":authority", request.authority),
      (ascii ":path", request.requestURI)]

/-- The header names a user agent. -/
def namesAgent : Bool :=
  request.header.entries.any fun entry =>
    toLower entry.1 == ascii "user-agent"

/-- The fields the client adds to those of the header. -/
def added (agent : Bytes) : List (Bytes × Bytes) :=
  (if request.namesAgent then [] else [(ascii "user-agent", agent)]) ++
    if 0 < request.body.length then
      [(ascii "content-length", digits 10 request.body.length)]
    else if [ascii "POST", ascii "PUT", ascii "PATCH"].contains
        request.methodOf then
      [(ascii "content-length", ascii "0")]
    else []

/-- The fields of a request, pseudo-headers first. -/
def fields (scheme agent : Bytes) :
    Except FieldError (List (Bytes × Bytes)) :=
  (headerFields request.header.entries).map fun listed =>
    request.pseudo scheme ++ listed ++ request.added agent

end

end Outgoing

/-- The fields of a header are those that are carried, with valid names and
values. -/
theorem headerFields_eq_ok (isOk : headerFields entries = .ok listed) :
    (listed = entries.flatMap fun entry =>
        if unsent (toLower entry.1) then []
        else entry.2.map fun value => (toLower entry.1, value)) ∧
      ∀ field ∈ listed, unsent field.1 = false ∧
        validHeaderName field.1 = true ∧ validHeaderValue field.2 = true := by
  induction entries generalizing listed with
  | nil =>
    cases isOk
    exact ⟨rfl, nofun⟩
  | cons entry entries ih =>
    obtain ⟨key, values⟩ := entry
    rw [headerFields] at isOk
    rw [List.flatMap_cons]
    by_cases left : unsent (toLower key) = true
    · rw [if_pos left] at isOk
      rw [if_pos left]
      exact ih isOk
    rw [if_neg left] at isOk
    rw [if_neg left]
    by_cases name : validHeaderName (toLower key) = true
    · rw [if_neg (by simp [name])] at isOk
      by_cases sendable : values.all validHeaderValue = true
      · rw [if_neg (by simp [sendable])] at isOk
        cases rest : headerFields entries with
        | error error =>
          rw [rest] at isOk
          cases isOk
        | ok others =>
          rw [rest] at isOk
          cases isOk
          obtain ⟨same, valid⟩ := ih rest
          refine ⟨congrArg _ same, ?_⟩
          intro field present
          rcases List.mem_append.mp present with own | later
          · obtain ⟨value, given, rfl⟩ := List.mem_map.mp own
            exact ⟨Bool.eq_false_of_not_eq_true left, name,
              List.all_eq_true.mp sendable value given⟩
          · exact valid field later
      · rw [if_pos (by simpa using sendable)] at isOk
        cases isOk
    · rw [if_pos (by simpa using name)] at isOk
      cases isOk

/-- What the client lists of a request. -/
theorem Outgoing.fields_eq_ok
    {request : Outgoing}
    {scheme agent : Bytes}
    {fields : List (Bytes × Bytes)}
    (isOk : request.fields scheme agent = .ok fields) :
    fields = request.pseudo scheme ++ (carried unsent request.header ++ request.added agent) ∧
      ∀ field ∈ carried unsent request.header, unsent field.1 = false ∧
        validHeaderName field.1 = true ∧ validHeaderValue field.2 = true := by
  unfold Outgoing.fields at isOk
  cases listing : headerFields request.header.entries with
  | error error =>
    rw [listing] at isOk
    cases isOk
  | ok listed =>
    rw [listing] at isOk
    cases isOk
    obtain ⟨same, valid⟩ := headerFields_eq_ok listing
    have same : listed = carried unsent request.header := same
    rw [← same, ← List.append_assoc]
    exact ⟨rfl, valid⟩

/-- A value with a blank at its start or its end. -/
def hasOuterBlank (value : Bytes) : Bool :=
  value.head?.any (fun byte => byte == 32 || byte == 9) ||
    value.getLast?.any (fun byte => byte == 32 || byte == 9)

/-- A value that may be sent is taken unless it has an outer blank. -/
theorem validFieldValue_of_validHeaderValue
    (valid : validHeaderValue value = true)
    (inner : hasOuterBlank value = false) :
    validFieldValue value = true := by
  have each : ∀ byte : UInt8, (!((byte < 32 && byte != 9) || byte == 127)) =
      true -> (byte != 0 && byte != 13 && byte != 10) = true :=
    forall_byte (by decide +kernel)
  have blank : ∀ byte : UInt8, (byte == 32 || byte == 9) = false ->
      (byte != 32 && byte != 9) = true := forall_byte (by decide +kernel)
  unfold hasOuterBlank at inner
  rw [Bool.or_eq_false_iff, Option.any_eq_false, Option.any_eq_false] at inner
  unfold validFieldValue
  rw [Bool.and_eq_true, Bool.and_eq_true, List.all_eq_true, Option.all_eq_true, Option.all_eq_true]
  refine ⟨⟨?_, ?_⟩, ?_⟩
  · intro byte present
    exact each byte (List.all_eq_true.mp valid byte present)
  · intro byte first
    exact blank byte (by simpa using inner.1 byte first)
  · intro byte last
    exact blank byte (by simpa using inner.2 byte last)

theorem validFieldValue_of_outerBlank
    (outer : hasOuterBlank value = true) :
    validFieldValue value = false := by
  have blank (byte : Option UInt8) :
      byte.any (fun byte => byte == 32 || byte == 9) =
        !byte.all (fun byte => byte != 32 && byte != 9) := by
    cases byte <;> simp [bne]
  rw [hasOuterBlank, blank, blank, ← Bool.not_and, Bool.not_eq_true'] at outer
  rw [validFieldValue, Bool.and_assoc, outer, Bool.and_false]

namespace Outgoing

/-- No field of the header looks like a pseudo-header. -/
def NoPseudo (request : Outgoing) : Prop :=
  ∀ field ∈ carried unsent request.header, field.1.head? ≠ some 58

/-- No value of the header starts or ends with a blank. -/
def NoOuterBlank (request : Outgoing) : Prop :=
  ∀ field ∈ carried unsent request.header, hasOuterBlank field.2 = false

/-- The server can tell where the request is for: it has an authority, or a
target that the server's parser takes. -/
def Addressed
    (request : Outgoing)
    (parseRequestURI : Bytes -> Bool) : Prop :=
  if request.methodOf = ascii "CONNECT" then request.authority ≠ []
  else request.requestURI = ascii "*" ∨
    parseRequestURI request.requestURI = true

/-- The request that the server builds is the one that was sent. -/
structure Arrives
    (request : Outgoing)
    (agent : Bytes)
    (built : Request) :
    Prop where
  method : built.method = request.methodOf
  host : built.host = request.authority
  target : built.requestURI =
    if request.methodOf = ascii "CONNECT" then request.authority
    else request.requestURI
  header : ∀ key, built.header.values key =
    joinCookies key
      (valuesOf (carried unsent request.header ++ request.added agent) key)
  trailer : built.trailer = ∅

theorem methodOf_ne (request : Outgoing) : request.methodOf ≠ [] := by
  unfold methodOf
  split
  · decide
  · assumption

theorem mem_added
    {request : Outgoing}
    (present : field ∈ request.added agent) :
    field.1 = ascii "user-agent" ∧ field.2 = agent ∨
      field.1 = ascii "content-length" ∧ ∃ length ≤ request.body.length,
        field.2 = digits 10 length := by
  rcases List.mem_append.mp present with first | second
  · split at first
    · cases first
    · rw [List.mem_singleton.mp first]
      exact .inl ⟨rfl, rfl⟩
  split at second
  · rw [List.mem_singleton.mp second]
    exact .inr ⟨rfl, _, Nat.le_refl _, rfl⟩
  · split at second
    · rw [List.mem_singleton.mp second]
      exact .inr ⟨rfl, 0, Nat.zero_le _, rfl⟩
    · cases second

section

variable {request : Outgoing} {fields : List (Bytes × Bytes)}
variable (isOk : request.fields scheme agent = .ok fields)
include isOk

/-- The server may take every field behind the pseudo-headers. -/
theorem admits
    (noPseudo : request.NoPseudo)
    (noBlank : request.NoOuterBlank)
    (agentValid : validFieldValue agent = true) :
    ∀ field ∈ carried unsent request.header ++ request.added agent,
      Draft.Admits field := by
  intro field present
  rcases List.mem_append.mp present with listed | own
  · obtain ⟨sent, name, value⟩ := (fields_eq_ok isOk).2 field listed
    simp only [unsent, Bool.or_eq_false_iff, beq_eq_false_iff_ne] at sent
    refine ⟨?_, ?_, sent.1.1.1, sent.2⟩
    · rw [plainName, name, Bool.true_and, bne_iff_ne]
      exact noPseudo field listed
    · exact validFieldValue_of_validHeaderValue value (noBlank field listed)
  rcases mem_added own with ⟨name, value⟩ | ⟨name, length, -, value⟩
  · rw [Draft.Admits, name, value]
    exact ⟨by decide, agentValid, by decide, by decide⟩
  · rw [Draft.Admits, name, value]
    exact ⟨by decide, validFieldValue_digits length, by decide, by decide⟩

/-- No field is for the host. -/
theorem values_host :
    valuesOf (carried unsent request.header ++ request.added agent)
      (ascii "Host") = [] := by
  have hostKey : canonicalHeaderKey (ascii "host") = ascii "Host" := by
    decide
  apply valuesOf_eq_nil
  intro field present
  rcases List.mem_append.mp present with listed | own
  · obtain ⟨sent, name, -⟩ := (fields_eq_ok isOk).2 field listed
    simp only [unsent, Bool.or_eq_false_iff, beq_eq_false_iff_ne] at sent
    intro same
    rw [← hostKey, canonicalHeaderKey_inj name (by decide)] at same
    exact sent.1.1.2 same
  rcases mem_added own with ⟨name, -⟩ | ⟨name, -⟩
  · rw [name]
    decide
  · rw [name]
    decide

/-- The only length among the fields is the one the client adds. -/
theorem values_length :
    valuesOf (carried unsent request.header ++ request.added agent)
        (ascii "Content-Length") = [] ∧ request.body = [] ∨
      valuesOf (carried unsent request.header ++ request.added agent)
        (ascii "Content-Length") = [digits 10 request.body.length] := by
  have lengthKey : canonicalHeaderKey (ascii "content-length") =
      ascii "Content-Length" := by decide
  have agentKey : canonicalHeaderKey (ascii "user-agent") ≠
      ascii "Content-Length" := by decide
  have none : valuesOf (carried unsent request.header)
      (ascii "Content-Length") = [] := by
    apply valuesOf_eq_nil
    intro field listed
    obtain ⟨sent, name, -⟩ := (fields_eq_ok isOk).2 field listed
    simp only [unsent, Bool.or_eq_false_iff, beq_eq_false_iff_ne] at sent
    intro same
    rw [← lengthKey, canonicalHeaderKey_inj name (by decide)] at same
    exact sent.1.2 same
  have agentless : valuesOf
      (if request.namesAgent then [] else [(ascii "user-agent", agent)])
        (ascii "Content-Length") = [] := by
    split
    · rfl
    · rw [valuesOf_cons, if_neg agentKey, valuesOf_nil]
  rw [valuesOf_append, none, added, valuesOf_append, agentless]
  split
  · rw [valuesOf_cons]
    exact .inr rfl
  next empty =>
  have empty : request.body = [] :=
    List.eq_nil_of_length_eq_zero (Nat.eq_zero_of_not_pos empty)
  rw [empty]
  split
  · rw [valuesOf_cons]
    exact .inr rfl
  · exact .inl ⟨rfl, rfl⟩

/-- What the server has gathered from the fields that the client lists. -/
theorem exists_filled
    (noPseudo : request.NoPseudo)
    (noBlank : request.NoOuterBlank)
    (agentValid : validFieldValue agent = true) :
    ∃ filled : Draft,
      fields.foldlM (fun draft field => Draft.add draft ⟨field.1, field.2⟩) {} = some filled ∧
        filled.method = some request.methodOf ∧
        filled.scheme = (if request.methodOf = ascii "CONNECT" then none else some scheme) ∧
        filled.authority = some request.authority ∧
        filled.path =
          (if request.methodOf = ascii "CONNECT" then none else some request.requestURI) ∧
        ∀ key, filled.joined.values key =
          joinCookies key
            (valuesOf (carried unsent request.header ++ request.added agent) key) := by
  obtain ⟨rfl, -⟩ := fields_eq_ok isOk
  have admitted := admits isOk noPseudo noBlank agentValid
  rw [List.foldlM_append]
  by_cases connect : request.methodOf = ascii "CONNECT"
  · have started : (request.pseudo scheme).foldlM
        (fun draft field => Draft.add draft ⟨field.1, field.2⟩) {} =
          some { method := some request.methodOf
                 authority := some request.authority } := by
      rw [pseudo, if_pos connect]
      rfl
    rw [started, if_pos connect, if_pos connect]
    exact Draft.fills admitted (some request.methodOf) none (some request.authority) none
  · have started : (request.pseudo scheme).foldlM
        (fun draft field => Draft.add draft ⟨field.1, field.2⟩) {} =
          some { method := some request.methodOf
                 scheme := some scheme
                 authority := some request.authority
                 path := some request.requestURI } := by
      rw [pseudo, if_neg connect]
      rfl
    rw [started, if_neg connect, if_neg connect]
    exact Draft.fills admitted (some request.methodOf) (some scheme)
      (some request.authority) (some request.requestURI)

/-- A request that the client lists is one that the server builds, as long as
it can tell where the request is for. -/
theorem arrives_of_addressed
    (noPseudo : request.NoPseudo)
    (noBlank : request.NoOuterBlank)
    (agentValid : validFieldValue agent = true)
    (schemed : scheme ≠ [])
    (parseRequestURI : Bytes -> Bool) :
    (request.Addressed parseRequestURI ->
      ∃ built,
        (fields.foldlM (fun draft field => Draft.add draft ⟨field.1, field.2⟩)
            {}).bind (Draft.request parseRequestURI) = some built ∧
          request.Arrives agent built) ∧
    (¬request.Addressed parseRequestURI ->
      (fields.foldlM (fun draft field => Draft.add draft ⟨field.1, field.2⟩)
        {}).bind (Draft.request parseRequestURI) = none) := by
  obtain ⟨filled, folded, isMethod, isScheme, isAuthority, isPath, values⟩ :=
    exists_filled isOk noPseudo noBlank agentValid
  have noHost := values_host isOk
  have hostless (key : Bytes) :
      Header.values (filled.joined.erase (ascii "Host")) key =
        joinCookies key (valuesOf (carried unsent request.header ++ request.added agent) key) := by
    rw [values_erase, values]
    split
    · next same =>
      rw [same, noHost]
      rfl
    · rfl
  rw [folded, Option.bind_some]
  simp only [Draft.request, isMethod, isScheme, isAuthority, isPath, Option.getD_some,
    if_neg request.methodOf_ne, Addressed]
  by_cases connect : request.methodOf = ascii "CONNECT"
  · simp only [if_pos connect, Option.getD_none, ne_eq, not_true_eq_false, false_or]
    refine ⟨fun given => ?_, fun none => if_pos (not_not.mp none)⟩
    rw [if_neg given]
    refine ⟨_, rfl, rfl, if_neg given, ?_, hostless, rfl⟩
    rw [if_pos connect]
  · simp only [if_neg connect, Option.getD_some, schemed, request.requestURI_ne, or_self,
      if_false]
    have refused : (request.requestURI ≠ ascii "*" ∧
        (!parseRequestURI request.requestURI) = true) ↔
        ¬(request.requestURI = ascii "*" ∨ parseRequestURI request.requestURI = true) := by
      rw [not_or, Bool.not_eq_true', Bool.not_eq_true]
    refine ⟨fun taken => ?_, fun other => if_pos (refused.mpr other)⟩
    rw [if_neg (mt refused.mp (not_not.mpr taken))]
    refine ⟨_, rfl, rfl, ?_, ?_, hostless, rfl⟩
    · dsimp only
      split
      · next none =>
        rw [none, get, values, noHost]
        rfl
      · rfl
    · rw [if_neg connect]

/-- A request with a field that looks like a pseudo-header does not arrive:
the server has no such field in a header. -/
theorem noPseudo_of_arrives
    (isBuilt : (fields.foldlM (fun draft field => Draft.add draft ⟨field.1, field.2⟩)
      {}).bind (Draft.request parseRequestURI) = some built)
    (arrives : request.Arrives agent built) :
    request.NoPseudo := by
  intro field listed pseudo
  obtain ⟨filled, folded, isRequest⟩ := Option.bind_eq_some_iff.mp isBuilt
  obtain ⟨-, name, -⟩ := (fields_eq_ok isOk).2 field listed
  have other (word : Bytes) (valid : validHeaderName word = true) (plain : word.head? ≠ some 58) :
      canonicalHeaderKey field.1 ≠ canonicalHeaderKey word := by
    rw [Ne, canonicalHeaderKey_inj name valid]
    rintro rfl
    exact plain pseudo
  have notCookie : canonicalHeaderKey field.1 ≠ ascii "Cookie" :=
    other (ascii "cookie") (by decide) (by decide)
  have absent : built.header.values (canonicalHeaderKey field.1) = [] := by
    rw [Draft.header_of_request isRequest, values_erase]
    split
    · rfl
    · rw [Draft.values_joined, if_neg fun both => notCookie both.1]
      exact Draft.values_foldlM folded name pseudo rfl
  rw [arrives.header, joinCookies, if_neg fun both => notCookie both.1] at absent
  have present : field.2 ∈ valuesOf (carried unsent request.header ++ request.added agent)
      (canonicalHeaderKey field.1) :=
    List.mem_map_of_mem (List.mem_filter.mpr ⟨List.mem_append_left _ listed, by simp⟩)
  rw [absent] at present
  cases present

end

end Outgoing

end Http2
end Fib
