import Fib.Http.Names
import Fib.Http.Splitting

/-!
# Every streamed response is framed as its head says

A handler writes its response through any sequence of calls on its context.
When it returns, the connection is closing, or what was sent is one complete
response that a client reads with the framing its head declares, with the body
the calls accepted.
-/

namespace Fib
namespace Http

open Lines Numeral Chunks Message

/-! ## What a client sees in a head -/

namespace ResponseHead

section

variable (head : ResponseHead)

theorem lineStatus_statusLine (request : Request) :
    lineStatus (head.statusLine request) = some head.status := by
  have blank : ascii " " = [32] := rfl
  have oldVersion : ascii "HTTP/1.0 " = ascii "HTTP/1.0" ++ [32] := rfl
  have version : ascii "HTTP/1.1 " = ascii "HTTP/1.1" ++ [32] := rfl
  unfold statusLine
  rw [blank, oldVersion, version]
  split
  · simpa using @lineStatus_append (ascii "HTTP/1.0") (by decide)
      head.status _
  · simpa using @lineStatus_append (ascii "HTTP/1.1") (by decide)
      head.status _

/-- None of the handler's fields is taken for one that frames the body. -/
theorem field_headerFields
    (request : Request)
    (name word : Bytes)
    (folds : name.map lower = word.map lower)
    (isAscii : ∀ byte ∈ word, byte < 128)
    (skipped : ∀ key, equalFold key word = true -> head.skips request key = true) :
    field name (headerFields head.header (head.skips request)) = none := by
  apply field_eq_none
  intro field present
  have kept := (mem_headerFields.mp present).1
  by_contra taken
  rw [Bool.not_eq_false] at taken
  have same : sameName field.1 word = true := by
    unfold sameName at taken ⊢
    rwa [← folds]
  have := skipped field.1 (equalFold_of_sameName isAscii same)
  simp [kept] at this

theorem field_framing
    (platform : Platform)
    (request : Request) :
    (field (ascii "transfer-encoding") (head.fields platform request)).isSome = head.chunked ∧
      field (ascii "content-length") (head.fields platform request) =
        head.contentLength.map (digits 10) := by
  have noCoding := head.field_headerFields request
    (ascii "transfer-encoding") (ascii "Transfer-Encoding") (by decide +kernel) (by decide +kernel)
    (fun key same => by simp [skips, replaced, same])
  have noLength := head.field_headerFields request
    (ascii "content-length") (ascii "Content-Length") (by decide +kernel) (by decide +kernel)
    (fun key same => by simp [skips, replaced, same])
  simp only [fields, framingFields, trailerFields, field_append, noCoding, noLength]
  cases head.header.has (ascii "Date") <;> cases head.contentLength <;>
    cases head.chunked <;> cases head.trailers <;>
    cases head.connection request <;> exact ⟨rfl, rfl⟩

/-- The framing a client takes from a head. -/
def framing (request : Request) : Message.Framing :=
  if request.isHead || !statusHasBody head.status then .empty
  else if head.chunked then .chunked
  else
    match head.contentLength with
    | none => .untilClose
    | some length => .sized length

theorem framing_fields
    (platform : Platform)
    (request : Request) :
    Message.framing request.isHead head.status
      (head.fields platform request) = some (head.framing request) := by
  have bodiless : Message.bodiless head.status = !statusHasBody head.status := by
    simp only [Message.bodiless, statusHasBody]
    grind
  unfold Message.framing framing
  obtain ⟨coding, length⟩ := head.field_framing platform request
  rw [bodiless, coding, length]
  split
  · rfl
  split
  · rfl
  · cases head.contentLength with
    | none => rfl
    | some length =>
      simp [parseDigits_digits (by decide : 1 < 10) (by decide)]

end

end ResponseHead
end Http
end Fib
