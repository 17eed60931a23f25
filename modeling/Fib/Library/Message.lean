import Fib.Library.Chunks

/-!
# Reading one response off a stream

A reader skips interim responses, takes the framing of the final one from its
head and expects the rest of the stream to be exactly the body that framing
announces.
-/

namespace Fib
namespace Message

open Lines Numeral Chunks

def lower (byte : UInt8) : UInt8 :=
  if 65 ≤ byte ∧ byte ≤ 90 then byte + 32 else byte

/-- Field names are compared without regard to case. -/
def sameName (first second : Bytes) : Bool :=
  first.map lower == second.map lower

/-- The value of the first field of a name. -/
def field
    (name : Bytes)
    (fields : List (Bytes × Bytes)) : Option Bytes :=
  (fields.find? fun field => sameName field.1 name).map Prod.snd

theorem field_append
    (name : Bytes)
    (first second : List (Bytes × Bytes)) :
    field name (first ++ second) = (field name first).or (field name second) := by
  simp only [field, List.find?_append]
  cases List.find? (fun field => sameName field.1 name) first <;> rfl

theorem field_eq_none
    (other : ∀ field ∈ fields, sameName field.1 name = false) :
    field name fields = none := by
  rw [field, Option.map_eq_none_iff, List.find?_eq_none]
  intro field present
  rw [other field present]
  decide

/-- The status code between the first two blanks of a status line. -/
def lineStatus (line : Bytes) : Option Nat :=
  parseDigits 10 (((line.dropWhile (· != 32)).tail).takeWhile (· != 32))

theorem lineStatus_append
    {version : Bytes}
    (noBlank : (32 : UInt8) ∉ version)
    (status : Nat)
    (reason : Bytes) :
    lineStatus (version ++ 32 :: (digits 10 status ++ 32 :: reason)) = some status := by
  have passes : ∀ byte ∈ version, (byte != 32) = true := by
    intro byte present
    rw [bne_iff_ne]
    rintro rfl
    exact noBlank present
  have numeral : ∀ byte ∈ digits 10 status, (byte != 32) = true := by
    intro byte present
    rw [bne_iff_ne]
    exact (digits_ne (by decide) (by decide) status byte present).2
  rw [lineStatus, List.dropWhile_append_of_pos passes]
  simp only [List.dropWhile_cons, bne_self_eq_false, Bool.false_eq_true, if_false, List.tail_cons]
  rw [List.takeWhile_append_of_pos numeral]
  simp only [List.takeWhile_cons, bne_self_eq_false, Bool.false_eq_true, if_false, List.append_nil]
  exact parseDigits_digits (by decide) (by decide) status

/-- A response with this status has no body. -/
def bodiless (status : Nat) : Bool :=
  status < 200 || status == 204 || status == 304

/-- A response with this status precedes the final one. -/
def isInterim (status : Nat) : Bool :=
  100 ≤ status && status < 200 && status != 101

/-- How the end of a body is told. -/
inductive Framing where
  | empty
  | chunked
  | sized (length : Nat)
  | untilClose
deriving DecidableEq, Repr

/-- The framing a head declares for the answer to a request. -/
def framing
    (isHead : Bool)
    (status : Nat)
    (fields : List (Bytes × Bytes)) :
    Option Framing :=
  if isHead || bodiless status then some .empty
  else if (field (ascii "transfer-encoding") fields).isSome then some .chunked
  else
    match field (ascii "content-length") fields with
    | none => some .untilClose
    | some value => (parseDigits 10 value).map .sized

/-- The body, if the content is exactly one; a body that runs until the
connection closes is not complete while it is open. -/
def body : Framing -> Bytes -> Option Bytes
  | .empty, content => if content = [] then some [] else none
  | .chunked, content => (readTrailed content).map Prod.fst
  | .sized length, content =>
    if content.length = length then some content else none
  | .untilClose, _ => none

/-- Skip interim responses. -/
def readFinal : Nat -> Bytes -> Option ((Nat × List (Bytes × Bytes)) × Bytes)
  | 0, _ => none
  | fuel + 1, bytes =>
    match readHead bytes with
    | none => none
    | some ((line, fields), rest) =>
      match lineStatus line with
      | none => none
      | some status =>
        if isInterim status then readFinal fuel rest
        else some ((status, fields), rest)

/-- The body of the one final response that the bytes consist of. -/
def readResponse
    (isHead : Bool)
    (bytes : Bytes) : Option Bytes :=
  match readFinal (bytes.length + 1) bytes with
  | none => none
  | some ((status, fields), content) =>
    match framing isHead status fields with
    | none => none
    | some declared => body declared content

/-- A piece of the stream that is read as one interim response. -/
def Interim (piece : Bytes) : Prop :=
  piece ≠ [] ∧ ∀ rest, ∃ line fields status,
    readHead (piece ++ rest) = some ((line, fields), rest) ∧
      lineStatus line = some status ∧ isInterim status = true

variable {pieces : List Bytes}

section

variable (interims : ∀ piece ∈ pieces, Interim piece)
include interims

theorem readFinal_interims
    (rest : Bytes)
    (fuel : Nat) :
    readFinal (pieces.length + fuel) (pieces.flatten ++ rest) = readFinal fuel rest := by
  induction pieces with
  | nil => simp
  | cons piece pieces ih =>
    rw [List.forall_mem_cons] at interims
    obtain ⟨line, fields, status, read, code, interim⟩ :=
      interims.1.2 (pieces.flatten ++ rest)
    rw [List.flatten_cons, List.append_assoc, List.length_cons, Nat.add_right_comm, readFinal, read]
    simp only [code, interim, if_true]
    exact ih interims.2

theorem length_le_flatten :
    pieces.length ≤ pieces.flatten.length := by
  induction pieces with
  | nil => simp
  | cons piece pieces ih =>
    rw [List.forall_mem_cons] at interims
    have later := ih interims.2
    have nonempty := List.length_pos_of_ne_nil interims.1.1
    simp only [List.flatten_cons, List.length_cons, List.length_append]
    omega

/-- A final head behind interim responses is read with its framing. -/
theorem readResponse_eq
    (read : readHead bytes = some ((line, fields), content))
    (code : lineStatus line = some status)
    (final : isInterim status = false)
    (isHead : Bool) :
    readResponse isHead (pieces.flatten ++ bytes) =
      (framing isHead status fields).bind (body · content) := by
  have enough := length_le_flatten interims
  obtain ⟨spare, split⟩ : ∃ spare,
      (pieces.flatten ++ bytes).length + 1 = pieces.length + (spare + 1) := by
    rw [List.length_append]
    exact ⟨pieces.flatten.length - pieces.length + bytes.length, by omega⟩
  rw [readResponse, split, readFinal_interims interims, readFinal, read]
  simp only [code, final, Bool.false_eq_true, if_false]
  cases framing isHead status fields <;> rfl

end

end Message
end Fib
