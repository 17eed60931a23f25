import Fib.Library.Chunks
import Mathlib.Data.List.AList
import Mathlib.Data.List.Sort

/-!
# Headers and the lines they are written as

A header maps names to lists of values; the order of its entries stands for
the order in which the map happens to be iterated.  The functions of the
standard library that the server applies to names and values are given here
on byte strings.
-/

namespace Fib
namespace Http

open Lines Numeral

/-- `http.Header`. -/
abbrev Header := AList fun _ : Bytes => List Bytes

namespace Header

/-- `header[key]`; a missing key has no values. -/
def values
    (header : Header)
    (key : Bytes) : List Bytes :=
  (header.lookup key).getD []

/-- `_, ok := header[key]`. -/
def has
    (header : Header)
    (key : Bytes) : Bool :=
  (header.lookup key).isSome

theorem mem_keys_of_values_ne_nil
    (header : Header)
    (nonempty : header.values key ≠ []) :
    key ∈ header.keys := by
  rw [← AList.mem_keys, ← AList.lookup_isSome]
  unfold values at nonempty
  cases found : header.lookup key with
  | none => simp [found] at nonempty
  | some _ => rfl

end Header

/-- Why a call on the response fails. -/
inductive Failure where
  | invalidStatusCode (status : Nat)
  | invalidHeaderName
  | invalidHeaderValue
  | responseWritten
  | bodyNotAllowed
  | contentLength
  | invalidInterimStatus (status : Nat)
  | interimAfterFinal
  | notSupported
  | connection
deriving DecidableEq, Repr

/-! ## Names -/

/-- The bytes a field name may consist of. -/
def validHeaderFieldByte (byte : UInt8) : Bool :=
  (48 ≤ byte && byte ≤ 57) || (65 ≤ byte && byte ≤ 90) ||
    (97 ≤ byte && byte ≤ 122) || byte ∈ ascii "!#$%&'*+-.^_`|~"

/-- Change the case of one letter of a name. -/
def shiftCase
    (upper : Bool)
    (byte : UInt8) : UInt8 :=
  if upper && 97 ≤ byte && byte ≤ 122 then byte - 32
  else if !upper && 65 ≤ byte && byte ≤ 90 then byte + 32
  else byte

/-- Write the first letter, and each letter after a hyphen, in upper case. -/
def capitalise (upper : Bool) : Bytes -> Bytes
  | [] => []
  | byte :: rest =>
    shiftCase upper byte :: capitalise (shiftCase upper byte == 45) rest

/-- `http.CanonicalHeaderKey`, which leaves a name that holds a byte no name
may hold as it is. -/
def canonicalHeaderKey (key : Bytes) : Bytes :=
  if key.all validHeaderFieldByte then capitalise true key else key

theorem capitalise_length
    (upper : Bool)
    (key : Bytes) :
    (capitalise upper key).length = key.length := by
  induction key generalizing upper with
  | nil => rfl
  | cons byte rest ih =>
    simp [capitalise, ih]

/-- Only the empty name has an empty canonical form. -/
@[simp] theorem canonicalHeaderKey_eq_nil_iff (key : Bytes) :
    canonicalHeaderKey key = [] ↔ key = [] := by
  unfold canonicalHeaderKey
  split
  · rw [← List.length_eq_zero_iff, capitalise_length, List.length_eq_zero_iff]
  · rfl

theorem shiftCase_ne
    (valid : validHeaderFieldByte byte = true)
    (upper : Bool) :
    shiftCase upper byte ≠ 13 ∧ shiftCase upper byte ≠ colon := by
  have each : ∀ byte : UInt8, validHeaderFieldByte byte = true ->
      ∀ upper, shiftCase upper byte ≠ 13 ∧ shiftCase upper byte ≠ colon :=
    forall_byte (by decide +kernel)
  exact each byte valid upper

theorem capitalise_ne
    {key : Bytes}
    (valid : key.all validHeaderFieldByte = true)
    (upper : Bool) :
    ∀ byte ∈ capitalise upper key, byte ≠ 13 ∧ byte ≠ colon := by
  induction key generalizing upper with
  | nil => simp [capitalise]
  | cons first rest ih =>
    rw [List.all_cons, Bool.and_eq_true] at valid
    intro byte present
    rcases List.mem_cons.mp present with rfl | later
    · exact shiftCase_ne valid.1 upper
    · exact ih valid.2 _ byte later

theorem ne_of_validHeaderFieldByte
    {key : Bytes}
    (valid : key.all validHeaderFieldByte = true) :
    ∀ byte ∈ key, byte ≠ 13 ∧ byte ≠ colon := by
  intro byte present
  have validByte := List.all_eq_true.mp valid byte present
  constructor <;> rintro rfl <;> revert validByte <;> decide

/-- A canonical form holds a CRLF or a colon exactly when the name does. -/
theorem hasCrlf_canonicalHeaderKey (key : Bytes) :
    hasCrlf (canonicalHeaderKey key) = hasCrlf key := by
  unfold canonicalHeaderKey
  split
  · next valid =>
    rw [hasCrlf_eq_false_of_forall fun byte present =>
        (capitalise_ne valid true byte present).1,
      hasCrlf_eq_false_of_forall fun byte present =>
        (ne_of_validHeaderFieldByte valid byte present).1]
  · rfl

example : canonicalHeaderKey (ascii "x-request-id") = ascii "X-Request-Id" := by
  decide

theorem colon_mem_canonicalHeaderKey (key : Bytes) :
    colon ∈ canonicalHeaderKey key ↔ colon ∈ key := by
  unfold canonicalHeaderKey
  split
  · next valid =>
    exact iff_of_false (fun present => (capitalise_ne valid true colon present).2 rfl)
      (fun present => (ne_of_validHeaderFieldByte valid colon present).2 rfl)
  · rfl

/-! ## Texts -/

/-- The next letter of a text in lower case, and what follows it.  Two runes
outside ASCII fold to ASCII letters: the long s and the Kelvin sign. -/
def foldNext (text : Bytes) : Option (UInt8 × Bytes) :=
  match text with
  | [] => none
  | first :: rest =>
    if first = 0xC5 ∧ rest.head? = some 0xBF then
      some (115, rest.tail)
    else if first = 0xE2 ∧ rest.take 2 = [0x84, 0xAA] then
      some (107, rest.drop 2)
    else if 65 ≤ first ∧ first ≤ 90 then
      some (first + 32, rest)
    else
      some (first, rest)

/-- `strings.EqualFold` with an ASCII word. -/
def equalFold (text : Bytes) : Bytes -> Bool
  | [] => text.isEmpty
  | letter :: word =>
    match foldNext text, foldNext [letter] with
    | some (first, rest), some (folded, _) =>
      first == folded && equalFold rest word
    | _, _ => false

/-- The encodings of the runes `unicode.IsSpace` holds of. -/
def spaces : List Bytes :=
  [[9], [10], [11], [12], [13], [32], [0xC2, 0x85], [0xC2, 0xA0],
    [0xE1, 0x9A, 0x80], [0xE2, 0x80, 0xA8], [0xE2, 0x80, 0xA9],
    [0xE2, 0x80, 0xAF], [0xE2, 0x81, 0x9F], [0xE3, 0x80, 0x80]] ++
  (List.range 11).map fun number => [0xE2, 0x80, 0x80 + number.toUInt8]

/-- Drop leading blanks, at most as many as there are bytes. -/
def trimLeft (blanks : List Bytes) : Nat -> Bytes -> Bytes
  | 0, text => text
  | fuel + 1, text =>
    match blanks.find? (·.isPrefixOf text) with
    | some blank => trimLeft blanks fuel (text.drop blank.length)
    | none => text

/-- `strings.TrimSpace`. -/
def trimSpace (text : Bytes) : Bytes :=
  let left := trimLeft spaces text.length text
  (trimLeft (spaces.map List.reverse) left.length left.reverse).reverse

/-- `strings.Split(text, ",")`. -/
def splitComma (text : Bytes) : List Bytes :=
  text.splitOn 44

/-- `strconv.ParseInt(text, 10, 64)`. -/
def parseInt (text : Bytes) : Option Int :=
  match text with
  | 43 :: rest => (parseDigits 10 rest).bind fun number =>
    if number < 2 ^ 63 then some number else none
  | 45 :: rest => (parseDigits 10 rest).bind fun number =>
    if number ≤ 2 ^ 63 then some (-number) else none
  | _ => (parseDigits 10 text).bind fun number =>
    if number < 2 ^ 63 then some number else none

/-- `headerHasToken`. -/
def headerHasToken
    (header : Header)
    (key token : Bytes) : Bool :=
  (header.values key).any fun value =>
    (splitComma value).any fun item => equalFold (trimSpace item) token

/-- `declaredLength`: the length a Content-Length field gives. -/
def declaredLength (header : Header) : Option Nat :=
  match header.values (ascii "Content-Length") with
  | [value] => (parseInt (trimSpace value)).bind fun number =>
    if 0 ≤ number then some number.toNat else none
  | _ => none

/-! ## Lines -/

/-- `validHeaderValue`. -/
def validHeaderValue (value : Bytes) : Bool :=
  value.all fun byte => !((byte < 32 && byte != 9) || byte == 127)

theorem hasCrlf_of_validHeaderValue (valid : validHeaderValue value = true) :
    hasCrlf value = false := by
  apply hasCrlf_eq_false_of_forall
  intro byte present
  have validByte := List.all_eq_true.mp valid byte present
  rintro rfl
  revert validByte
  decide

/-- The lines of one name. -/
def appendValues (key : Bytes) : List Bytes -> Except Failure Bytes
  | [] => .ok []
  | value :: rest =>
    if validHeaderValue value then
      (appendValues key rest).map (fieldLine (key, value) ++ crlf ++ ·)
    else
      .error .invalidHeaderValue

/-- The lines of the names in the given order. -/
def appendKeys (header : Header) : List Bytes -> Except Failure Bytes
  | [] => .ok []
  | key :: rest =>
    if key = [] ∨ canonicalHeaderKey key = [] then
      .error .invalidHeaderName
    else do
      let lines <- appendValues key (header.values key)
      let later <- appendKeys header rest
      .ok (lines ++ later)

/-- The names a header's lines are written for, in order. -/
def lineKeys
    (header : Header)
    (skip : Bytes -> Bool) : List Bytes :=
  (header.keys.filter fun key => !skip key).insertionSort (· ≤ ·)

/-- `appendHeaderLines`, the part it appends. -/
def appendHeaderLines
    (header : Header)
    (skip : Bytes -> Bool) :
    Except Failure Bytes :=
  appendKeys header (lineKeys header skip)

/-- One field for each value of each name. -/
def headerFields
    (header : Header)
    (skip : Bytes -> Bool) :
    List (Bytes × Bytes) :=
  (lineKeys header skip).flatMap fun key =>
    (header.values key).map fun value => (key, value)

variable {header : Header} {skip : Bytes -> Bool}

theorem mem_headerFields :
    field ∈ headerFields header skip ↔ skip field.1 = false ∧ field.2 ∈ header.values field.1 := by
  have known : field.2 ∈ header.values field.1 -> field.1 ∈ header.keys :=
    fun present => header.mem_keys_of_values_ne_nil (List.ne_nil_of_mem present)
  simp only [headerFields, lineKeys, List.mem_flatMap, List.mem_map,
    List.mem_insertionSort, List.mem_filter, Bool.not_eq_true']
  constructor
  · rintro ⟨key, ⟨_, kept⟩, value, present, rfl⟩
    exact ⟨kept, present⟩
  · rintro ⟨kept, present⟩
    exact ⟨field.1, ⟨known present, kept⟩, field.2, present, rfl⟩

theorem nodup_lineKeys
    (header : Header)
    (skip : Bytes -> Bool) :
    (lineKeys header skip).Nodup :=
  (List.perm_insertionSort _ _).nodup_iff.mpr (header.keys_nodup.filter _)

theorem appendValues_eq
    (key : Bytes)
    (given : List Bytes) :
    appendValues key given =
      if given.all validHeaderValue then
        .ok (fieldLines (given.map fun value => (key, value)))
      else
        .error .invalidHeaderValue := by
  induction given with
  | nil => rfl
  | cons value rest ih =>
    rw [appendValues, ih, List.all_cons]
    cases validHeaderValue value <;> cases rest.all validHeaderValue <;> rfl

/-- A name whose lines can be written. -/
def writableKey
    (header : Header)
    (key : Bytes) : Bool :=
  key != [] && (header.values key).all validHeaderValue

theorem appendKeys_eq_ok :
    appendKeys header keys = .ok lines ↔ (∀ key ∈ keys, writableKey header key = true) ∧
      fieldLines (keys.flatMap fun key =>
        (header.values key).map fun value => (key, value)) = lines := by
  induction keys generalizing lines with
  | nil => simp [appendKeys]
  | cons key rest ih =>
    rw [List.forall_mem_cons, List.flatMap_cons, fieldLines_append]
    simp only [appendKeys, canonicalHeaderKey_eq_nil_iff, or_self, appendValues_eq]
    by_cases empty : key = []
    · simp [empty, writableKey]
    cases valid : (header.values key).all validHeaderValue with
    | false => simp [empty, writableKey, valid, bind, Except.bind]
    | true =>
      have writable : writableKey header key = true := by
        simp [writableKey, empty, valid]
      cases later : appendKeys header rest with
      | error failure =>
        have refused : ¬∀ key ∈ rest, writableKey header key = true :=
          fun all => by
            simpa [later] using ih.mpr ⟨all, rfl⟩
        simp [empty, refused, bind, Except.bind]
      | ok more =>
        obtain ⟨all, rfl⟩ := ih.mp later
        rw [if_neg empty, if_pos rfl]
        simp only [bind, Except.bind, Except.ok.injEq]
        exact (and_iff_right ⟨writable, all⟩).symm

/-- What a header has to meet for its lines to be written. -/
theorem appendHeaderLines_eq_ok :
    appendHeaderLines header skip = .ok lines ↔
      (∀ key ∈ header.keys, skip key = false -> writableKey header key = true) ∧
      fieldLines (headerFields header skip) = lines := by
  rw [appendHeaderLines, appendKeys_eq_ok]
  simp only [headerFields, lineKeys, List.mem_insertionSort, List.mem_filter,
    Bool.not_eq_true', and_imp]

/-- A name that can end neither its field nor its line. -/
def SafeName (name : Bytes) : Prop :=
  colon ∉ name ∧ hasCrlf name = false

instance (name : Bytes) : Decidable (SafeName name) :=
  inferInstanceAs (Decidable (_ ∧ _))

theorem safeName_canonicalHeaderKey (key : Bytes) :
    SafeName (canonicalHeaderKey key) ↔ SafeName key := by
  rw [SafeName, hasCrlf_canonicalHeaderKey, colon_mem_canonicalHeaderKey, SafeName]

/-- The names of the lines that are written for a header are safe. -/
def SafeLines
    (header : Header)
    (skip : Bytes -> Bool) : Prop :=
  ∀ key ∈ header.keys, skip key = false -> header.values key ≠ [] ->
    SafeName key

instance (header : Header) (skip : Bytes -> Bool) :
    Decidable (SafeLines header skip) :=
  inferInstanceAs (Decidable (∀ key ∈ header.keys, _))

theorem safeLines_iff
    (header : Header)
    (skip : Bytes -> Bool) :
    SafeLines header skip ↔
      ∀ key, skip key = false -> header.values key ≠ [] -> SafeName key := by
  constructor
  · intro safe key kept nonempty
    exact safe key (header.mem_keys_of_values_ne_nil nonempty) kept nonempty
  · intro safe key _
    exact safe key

theorem values_insert
    (header : Header)
    (key name : Bytes)
    (given : List Bytes) :
    Header.values (header.insert key given) name =
      if name = key then given else header.values name := by
  unfold Header.values
  split
  · next same =>
    subst same
    rw [AList.lookup_insert]
    rfl
  · next other => rw [AList.lookup_insert_ne other]

/-- Values are checked before they are written, so the lines of a header are
legible exactly when its names are safe. -/
theorem legible_headerFields_iff
    (written : appendHeaderLines header skip = .ok lines) :
    (∀ field ∈ headerFields header skip, Legible field) ↔ SafeLines header skip := by
  obtain ⟨valid, -⟩ := appendHeaderLines_eq_ok.mp written
  constructor
  · intro legible key known kept nonempty
    obtain ⟨value, present⟩ := List.exists_mem_of_ne_nil _ nonempty
    have field := legible (key, value) (mem_headerFields.mpr ⟨kept, present⟩)
    exact ⟨field.1, field.2.1⟩
  intro safe field present
  obtain ⟨kept, among⟩ := mem_headerFields.mp present
  have known : field.1 ∈ header.keys := by
    rw [headerFields, List.mem_flatMap] at present
    obtain ⟨key, keyPresent, pair⟩ := present
    obtain ⟨_, _, rfl⟩ := List.mem_map.mp pair
    exact (List.mem_filter.mp ((List.mem_insertionSort _).mp keyPresent)).1
  have name := safe field.1 known kept (List.ne_nil_of_mem among)
  have writable := valid field.1 known kept
  rw [writableKey, Bool.and_eq_true, List.all_eq_true] at writable
  exact ⟨name.1, name.2, hasCrlf_of_validHeaderValue (writable.2 field.2 among)⟩

/-! ## What was given -/

/-- The values under a name among parts, in their order. -/
def valuesOf
    (name : Bytes)
    (parts : List (Bytes × List Bytes)) : List Bytes :=
  (parts.filter (·.1 = name)).flatMap Prod.snd

/-- Fields that have under every name one field for each value that parts give
it, and no others. -/
def Lists
    (fields : List (Bytes × Bytes))
    (parts : List (Bytes × List Bytes)) : Prop :=
  ∀ name, (fields.filter (·.1 = name)).map Prod.snd = valuesOf name parts

theorem valuesOf_ne_nil :
    valuesOf name parts ≠ [] ↔ ∃ part ∈ parts, part.1 = name ∧ part.2 ≠ [] := by
  simp [valuesOf, List.flatMap_eq_nil_iff]

theorem valuesOf_cons
    (name : Bytes)
    (part : Bytes × List Bytes)
    (parts : List (Bytes × List Bytes)) :
    valuesOf name (part :: parts) =
      (if part.1 = name then part.2 else []) ++ valuesOf name parts := by
  unfold valuesOf
  by_cases same : part.1 = name <;> simp [same]

/-- The values of the last part with a name. -/
def lastOf
    (name : Bytes)
    (parts : List (Bytes × List Bytes)) : List Bytes :=
  ((parts.filter (·.1 = name)).getLast?.map Prod.snd).getD []

theorem lastOf_cons
    (name : Bytes)
    (part : Bytes × List Bytes)
    (parts : List (Bytes × List Bytes)) :
    lastOf name (part :: parts) =
      if parts.filter (·.1 = name) = [] then (if part.1 = name then part.2 else [])
      else lastOf name parts := by
  unfold lastOf
  by_cases same : part.1 = name
  · rw [List.filter_cons_of_pos (by simpa using same), List.getLast?_cons, if_pos same]
    cases parts.filter (·.1 = name) <;> simp [List.getLast?_cons]
  · rw [List.filter_cons_of_neg (by simpa using same), if_neg same]
    cases parts.filter (·.1 = name) <;> simp

theorem length_lastOf_le
    (name : Bytes)
    (parts : List (Bytes × List Bytes)) :
    (lastOf name parts).length ≤ (valuesOf name parts).length := by
  induction parts with
  | nil => exact Nat.le_refl _
  | cons part parts ih =>
    rw [lastOf_cons, valuesOf_cons, List.length_append]
    split <;> omega

/-- The last part has all the values of its name exactly when no part with
values comes before another of its name. -/
theorem lastOf_eq_valuesOf_iff {parts : List (Bytes × List Bytes)} :
    (∀ name, lastOf name parts = valuesOf name parts) ↔
      parts.Pairwise fun earlier later => earlier.1 = later.1 -> earlier.2 = [] := by
  induction parts with
  | nil => exact iff_of_true (fun _ => rfl) .nil
  | cons part parts ih =>
    rw [List.pairwise_cons, ← ih]
    simp only [lastOf_cons, valuesOf_cons]
    constructor
    · intro all
      have each (name : Bytes) (some : parts.filter (·.1 = name) ≠ []) :
          (if part.1 = name then part.2 else []) = [] ∧
            lastOf name parts = valuesOf name parts := by
        have same := all name
        rw [if_neg some] at same
        have bound := length_lastOf_le name parts
        rw [same, List.length_append] at bound
        have nothing : (if part.1 = name then part.2 else []) = [] :=
          List.eq_nil_of_length_eq_zero (by omega)
        exact ⟨nothing, by rw [same, nothing, List.nil_append]⟩
      refine ⟨fun later among same => ?_, fun name => ?_⟩
      · have found : parts.filter (·.1 = later.1) ≠ [] :=
          List.ne_nil_of_mem (List.mem_filter.mpr ⟨among, decide_eq_true rfl⟩)
        simpa [same] using (each later.1 found).1
      · by_cases none : parts.filter (·.1 = name) = []
        · simp [lastOf, valuesOf, none]
        · exact (each name none).2
    · rintro ⟨apart, rest⟩ name
      split
      · next none => simp [valuesOf, none]
      · next some =>
        obtain ⟨later, among⟩ := List.exists_mem_of_ne_nil _ some
        obtain ⟨among, same⟩ := List.mem_filter.mp among
        rw [rest]
        split
        · next own => simp [apart later among (own.trans (of_decide_eq_true same).symm)]
        · rfl

theorem values_foldl_overwrite
    (parts : List (Bytes × List Bytes))
    (start : Header)
    (name : Bytes) :
    Header.values (parts.foldl (fun collected part => collected.insert part.1 part.2) start)
        name =
      if parts.filter (·.1 = name) = [] then start.values name else lastOf name parts := by
  induction parts generalizing start with
  | nil => rfl
  | cons part parts ih =>
    rw [List.foldl_cons, ih, values_insert, lastOf_cons]
    by_cases same : part.1 = name
    · simp [same]
    · rw [List.filter_cons_of_neg (by simpa using same), if_neg (Ne.symm same), if_neg same]
      split <;> rfl

theorem filter_headerFields
    (header : Header)
    (name : Bytes) :
    ((headerFields header fun _ => false).filter (·.1 = name)).map Prod.snd =
      header.values name := by
  have distinct := nodup_lineKeys header fun _ => false
  have listed : ∀ keys : List Bytes, keys.Nodup ->
      ((keys.flatMap fun key => (header.values key).map (key, ·)).filter
        (·.1 = name)).map Prod.snd = if name ∈ keys then header.values name else [] := by
    intro keys nodup
    induction keys with
    | nil => rfl
    | cons key keys ih =>
      obtain ⟨fresh, rest⟩ := List.nodup_cons.mp nodup
      rw [List.flatMap_cons, List.filter_append, List.map_append, ih rest]
      by_cases same : key = name
      · subst same
        simp [fresh, List.filter_map, Function.comp_def]
      · simp [List.filter_map, Function.comp_def, same, Ne.symm same]
  rw [headerFields, listed _ distinct]
  split
  · rfl
  · next absent =>
    by_contra some
    exact absent (by simpa [lineKeys] using header.mem_keys_of_values_ne_nil (Ne.symm some))

/-- The lines of a header read back as what was given exactly when the names
are safe and the header holds what was given. -/
theorem exists_readTrailed_iff
    {chunks : List Bytes}
    (written : appendHeaderLines header (fun _ => false) = .ok lines)
    (nonempty : ∀ content ∈ chunks, content ≠ [])
    (given : ∀ name, header.values name ≠ [] -> valuesOf name parts ≠ []) :
    (∃ fields, Chunks.readTrailed (chunks.flatMap Chunks.chunk ++ Chunks.lastChunk ++
        (lines ++ crlf)) = some (chunks.flatten, fields) ∧ Lists fields parts) ↔
      (∀ part ∈ parts, part.2 ≠ [] -> SafeName part.1) ∧
        ∀ name, header.values name = valuesOf name parts := by
  have legible := legible_headerFields_iff written
  obtain ⟨-, rfl⟩ := appendHeaderLines_eq_ok.mp written
  have holds : Lists (headerFields header fun _ => false) parts ↔
      ∀ name, header.values name = valuesOf name parts := by
    simp only [Lists, filter_headerFields]
  have reads := Chunks.readTrailed_flatMap chunks nonempty (headerFields header fun _ => false)
  have safe (safe : ∀ part ∈ parts, part.2 ≠ [] -> SafeName part.1) :
      ∀ field ∈ headerFields header fun _ => false, Legible field := by
    refine legible.mpr fun key _ _ held => ?_
    obtain ⟨part, among, rfl, some⟩ := valuesOf_ne_nil.mp (given key held)
    exact safe part among some
  constructor
  · rintro ⟨fields, read, lists⟩
    have names : ∀ part ∈ parts, part.2 ≠ [] -> SafeName part.1 := by
      intro part among some
      have found := valuesOf_ne_nil.mpr ⟨part, among, rfl, some⟩
      rw [← lists, ne_eq, List.map_eq_nil_iff, List.filter_eq_nil_iff] at found
      push Not at found
      obtain ⟨field, isRead, same⟩ := found
      have clean := Chunks.legible_of_readTrailed read field isRead
      rw [← of_decide_eq_true same]
      exact ⟨clean.1, clean.2.1⟩
    have same := read.symm.trans (reads.mpr (safe names))
    cases same
    exact ⟨names, holds.mp lists⟩
  · rintro ⟨names, same⟩
    exact ⟨_, reads.mpr (safe names), holds.mpr same⟩

end Http
end Fib
