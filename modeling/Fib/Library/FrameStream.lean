import Fib.Library.Varint

/-!
# Streams of frames

A frame is a type, the length of a payload, and the payload.  The payload of a
frame of type zero is handed on in pieces as it arrives; every other frame is
handed on whole and has a greatest length.  A reader that takes pieces as it
takes their concatenation reads a stream the same however it is cut, and what
it reads up to the end of a frame are the frames on the wire, one by one.
-/

namespace Fib
namespace FrameStream

/-- A frame. -/
structure Frame where
  typ : Nat
  payload : Bytes
deriving DecidableEq

/-- The type and the length a frame starts with, and how many bytes they
take. -/
def header (bytes : Bytes) : Option (Nat × Nat × Nat) :=
  match Varint.read bytes with
  | none => none
  | some (typ, first) =>
    match Varint.read (bytes.drop first) with
    | none => none
    | some (length, second) => some (typ, length, first + second)

/-- What a reader finds at the start of its input. -/
inductive Turn where
  | wait
  | piece (bytes rest : Bytes)
  | opened (length : Nat) (rest : Bytes)
  | frame (typ : Nat) (payload rest : Bytes)
  | tooLarge
deriving DecidableEq

/-- One turn of a reader that is still owed some bytes of a payload. -/
def turn
    (maxFrame owed : Nat)
    (input : Bytes) : Turn :=
  if 0 < owed then
    if input.length = 0 then .wait
    else .piece (input.take owed) (input.drop owed)
  else
    match header input with
    | none => .wait
    | some (typ, length, size) =>
      if typ = 0 then .opened length (input.drop size)
      else if maxFrame < length then .tooLarge
      else if input.length - size < length then .wait
      else
        .frame typ ((input.drop size).take length)
          (input.drop (size + length))

/-! ## Headers -/

variable {typ length size : Nat}

theorem header_eq_some (isHeader : header bytes = some (typ, length, size)) :
    0 < size ∧ size ≤ bytes.length := by
  unfold header at isHeader
  split at isHeader
  · cases isHeader
  next firstRead =>
  split at isHeader
  · cases isHeader
  next secondRead =>
  cases isHeader
  have second := Varint.read_eq_some secondRead
  rw [List.length_drop] at second
  omega

theorem header_append_right
    (isHeader : header bytes = some found)
    (later : Bytes) :
    header (bytes ++ later) = some found := by
  unfold header at isHeader ⊢
  split at isHeader
  · cases isHeader
  next firstRead =>
  split at isHeader
  · cases isHeader
  next secondRead =>
  have first := Varint.read_eq_some firstRead
  rw [Varint.read_append_right firstRead]
  dsimp only
  rw [List.drop_append_of_le_length first.2, Varint.read_append_right secondRead]
  exact isHeader

/-- The bytes of a header are a header of their own. -/
theorem header_take (isHeader : header bytes = some (typ, length, size)) :
    header (bytes.take size) = some (typ, length, size) := by
  unfold header at isHeader ⊢
  split at isHeader
  · cases isHeader
  next typ first firstRead =>
  split at isHeader
  · cases isHeader
  next length second secondRead =>
  cases isHeader
  rw [Varint.read_take firstRead (Nat.le_add_right ..)]
  dsimp only
  rw [List.drop_take, Nat.add_sub_cancel_left, Varint.read_take secondRead (Nat.le_refl second)]

/-- A header that was written. -/
theorem header_append
    (typeFits : typ < 2 ^ 62)
    (lengthFits : length < 2 ^ 62)
    (rest : Bytes) :
    header (Varint.append typ ++ Varint.append length ++ rest) = some (typ, length,
        (Varint.append typ ++ Varint.append length).length) := by
  unfold header
  rw [List.append_assoc, Varint.read_append typeFits]
  dsimp only
  rw [List.drop_left, Varint.read_append lengthFits, List.length_append]

/-! ## Turns -/

section Turns

variable {maxFrame owed : Nat}
variable {input : Bytes}

theorem turn_nil : turn maxFrame owed [] = .wait := by
  unfold turn
  split
  · rfl
  · rfl

/-- The bytes a turn leaves behind. -/
def Turn.left : Turn -> Option Bytes
  | .wait => none
  | .piece _ rest => some rest
  | .opened _ rest => some rest
  | .frame _ _ rest => some rest
  | .tooLarge => none

/-- A turn that goes on takes at least a byte. -/
theorem length_left_lt (goesOn : (turn maxFrame owed input).left = some left) :
    left.length < input.length := by
  unfold turn at goesOn
  split at goesOn
  · split at goesOn
    · cases goesOn
    · cases goesOn
      rw [List.length_drop]
      omega
  split at goesOn
  · cases goesOn
  next isHeader =>
  have size := header_eq_some isHeader
  split at goesOn
  · cases goesOn
    rw [List.length_drop]
    omega
  split at goesOn
  · cases goesOn
  split at goesOn
  · cases goesOn
  · cases goesOn
    rw [List.length_drop]
    omega

/-- The turn when more follows. -/
def Turn.extend (later : Bytes) : Turn -> Turn
  | .wait => .wait
  | .piece bytes rest => .piece bytes (rest ++ later)
  | .opened length rest => .opened length (rest ++ later)
  | .frame typ payload rest => .frame typ payload (rest ++ later)
  | .tooLarge => .tooLarge

/-- Between payloads a turn is the same whatever follows, unless it waits. -/
theorem turn_append
    (found : turn maxFrame 0 input ≠ .wait)
    (later : Bytes) :
    turn maxFrame 0 (input ++ later) = (turn maxFrame 0 input).extend later := by
  unfold turn at found ⊢
  rw [if_neg (by decide)]
  cases isHeader : header input with
  | none =>
    rw [isHeader] at found
    exact absurd rfl found
  | some parts =>
    obtain ⟨typ, length, size⟩ := parts
    have within := header_eq_some isHeader
    rw [isHeader] at found
    rw [header_append_right isHeader]
    dsimp only at found ⊢
    split
    · rw [List.drop_append_of_le_length within.2]
      rfl
    next other =>
    rw [if_neg other] at found
    split
    · rfl
    next fits =>
    rw [if_neg fits] at found
    have whole : ¬input.length - size < length := fun short =>
      found (if_pos short)
    rw [if_neg whole, if_neg (by
      rw [List.length_append]
      omega), List.drop_append_of_le_length within.2,
      List.take_append_of_le_length (by
        rw [List.length_drop]
        omega),
      List.drop_append_of_le_length (by omega)]
    rfl

theorem turn_owed
    (pending : 0 < owed)
    (present : input ≠ []) :
    turn maxFrame owed input = .piece (input.take owed) (input.drop owed) := by
  rw [turn, if_pos pending, if_neg (by simpa using present)]

end Turns

/-! ## Readers -/

/-- What becomes of pieces and frames: the reader's state changes, or it comes
to an outcome. -/
structure Reader (State Outcome : Type) where
  data : State -> Bytes -> Except Outcome State
  frame : State -> Nat -> Bytes -> Except Outcome State
  tooLarge : Outcome

/-- It makes no difference in what pieces a payload arrives. -/
def Reader.Additive
    {State Outcome : Type}
    (reader : Reader State Outcome) :
    Prop :=
  ∀ state first second,
    reader.data state (first ++ second) =
      (reader.data state first).bind fun state => reader.data state second

/-- Where a reader stands: its state, what it is owed, and what it could not
use yet. -/
structure Position (State : Type) where
  state : State
  owed : Nat
  rest : Bytes

section Reading

variable {State Outcome : Type}
variable (reader : Reader State Outcome)
variable (maxFrame : Nat)

/-- Turn after turn until more is needed.  The fuel bounds the turns. -/
def readLoop :
    Nat -> State -> Nat -> Bytes -> Except Outcome (Position State)
  | 0, state, owed, input => .ok ⟨state, owed, input⟩
  | fuel + 1, state, owed, input =>
    match turn maxFrame owed input with
    | .wait => .ok ⟨state, owed, input⟩
    | .piece bytes rest =>
      (reader.data state bytes).bind fun state =>
        readLoop fuel state (owed - bytes.length) rest
    | .opened length rest =>
      (reader.data state []).bind fun state =>
        readLoop fuel state length rest
    | .frame typ payload rest =>
      (reader.frame state typ payload).bind fun state =>
        readLoop fuel state 0 rest
    | .tooLarge => .error reader.tooLarge

/-- Read an input: every turn takes at least one byte. -/
def read
    (state : State)
    (owed : Nat)
    (input : Bytes) :
    Except Outcome (Position State) :=
  readLoop reader maxFrame input.length state owed input

variable {reader}
variable {maxFrame}

/-- More fuel than there are bytes changes nothing. -/
theorem readLoop_eq_read
    (enough : input.length ≤ fuel)
    (state : State)
    (owed : Nat) :
    readLoop reader maxFrame fuel state owed input = read reader maxFrame state owed input := by
  induction fuel using Nat.strongRecOn generalizing input state owed with
  | _ fuel ih =>
    cases input with
    | nil =>
      cases fuel with
      | zero => rfl
      | succ fuel =>
        rw [readLoop, turn_nil]
        rfl
    | cons byte later =>
      cases fuel with
      | zero => cases enough
      | succ fuel =>
        have fits : later.length ≤ fuel :=
          Nat.le_of_succ_le_succ enough
        have same (state : State) (owed : Nat) {rest : Bytes}
            (shorter : rest.length < later.length + 1) :
            readLoop reader maxFrame fuel state owed rest =
              readLoop reader maxFrame later.length state owed rest := by
          rw [ih fuel (Nat.lt_succ_self fuel)
              (by omega),
            ih later.length (by omega) (by omega)]
        rw [read, List.length_cons, readLoop, readLoop]
        have less {rest : Bytes} :=
          @length_left_lt maxFrame owed (byte :: later) rest
        cases found : turn maxFrame owed (byte :: later) with
        | wait => rfl
        | piece bytes rest | opened length rest | frame typ payload rest =>
          rw [found] at less
          simp only [same _ _ (less rfl)]
        | tooLarge => rfl

/-- Reading turn by turn. -/
theorem read_eq
    (state : State)
    (owed : Nat)
    (input : Bytes) :
    read reader maxFrame state owed input =
      match turn maxFrame owed input with
      | .wait => .ok ⟨state, owed, input⟩
      | .piece bytes rest =>
        (reader.data state bytes).bind fun state =>
          read reader maxFrame state (owed - bytes.length) rest
      | .opened length rest =>
        (reader.data state []).bind fun state =>
          read reader maxFrame state length rest
      | .frame typ payload rest =>
        (reader.frame state typ payload).bind fun state =>
          read reader maxFrame state 0 rest
      | .tooLarge => .error reader.tooLarge := by
  rw [← readLoop_eq_read (Nat.le_succ input.length), readLoop]
  have less {rest : Bytes} := @length_left_lt maxFrame owed input rest
  cases found : turn maxFrame owed input with
  | wait => rfl
  | piece bytes rest | opened length rest | frame typ payload rest =>
    rw [found] at less
    simp only [readLoop_eq_read (less rfl).le]
  | tooLarge => rfl

theorem read_nil
    (state : State)
    (owed : Nat) :
    read reader maxFrame state owed [] = .ok ⟨state, owed, []⟩ := rfl

/-- Reading an input that goes on is reading it and then what follows. -/
theorem read_append
    (additive : reader.Additive)
    (state : State)
    (owed : Nat)
    (input later : Bytes) :
    read reader maxFrame state owed (input ++ later) =
      (read reader maxFrame state owed input).bind fun position =>
        read reader maxFrame position.state position.owed (position.rest ++ later) := by
  induction size : input.length using Nat.strongRecOn generalizing input state owed with
  | _ count ih =>
    subst size
    by_cases empty : input = []
    · subst empty
      rfl
    by_cases pending : 0 < owed
    · rw [read_eq state owed input, turn_owed pending empty]
      by_cases whole : owed ≤ input.length
      · -- The payload ends within the input.
        have present : input ++ later ≠ [] := by simp [empty]
        have shorter : (input.drop owed).length < input.length := by
          rw [List.length_drop]
          omega
        rw [read_eq, turn_owed pending present]
        dsimp only
        rw [List.take_append_of_le_length whole, List.drop_append_of_le_length whole]
        cases reader.data state (input.take owed) with
        | error outcome => rfl
        | ok next => exact ih _ shorter _ _ _ rfl
      -- The input is a part of the payload.
      have part : input.length ≤ owed := by omega
      by_cases last : later = []
      · subst last
        rw [List.append_nil, read_eq, turn_owed pending empty]
        dsimp only
        rw [List.take_of_length_le part, List.drop_eq_nil_of_le part]
        cases reader.data state input with
        | error outcome => rfl
        | ok next => rfl
      have present : input ++ later ≠ [] := by simp [empty]
      have left : 0 < owed - input.length := by omega
      rw [read_eq, turn_owed pending present]
      dsimp only
      rw [List.take_append, List.take_of_length_le part,
        List.drop_append, List.drop_eq_nil_of_le part, List.nil_append,
        additive]
      cases reader.data state input with
      | error outcome => rfl
      | ok next =>
        simp only [Except.bind, read_nil]
        rw [List.nil_append, read_eq next, turn_owed left last]
        rw [List.length_append, Nat.sub_add_eq]
        rfl
    obtain rfl : owed = 0 := by omega
    rw [read_eq state 0 input]
    have less {rest : Bytes} := @length_left_lt maxFrame 0 input rest
    have further := @turn_append maxFrame input
    cases found : turn maxFrame 0 input with
    | wait => rfl
    | piece bytes rest =>
      rw [found] at less further
      rw [read_eq, further (by simp) later]
      dsimp only [Turn.extend]
      cases reader.data state bytes with
      | error outcome => rfl
      | ok next => exact ih _ (less rfl) _ _ _ rfl
    | opened length rest =>
      rw [found] at less further
      rw [read_eq, further (by simp) later]
      cases reader.data state [] with
      | error outcome => rfl
      | ok next => exact ih _ (less rfl) _ _ _ rfl
    | frame typ payload rest =>
      rw [found] at less further
      rw [read_eq, further (by simp) later]
      dsimp only [Turn.extend]
      cases reader.frame state typ payload with
      | error outcome => rfl
      | ok next => exact ih _ (less rfl) _ _ _ rfl
    | tooLarge =>
      rw [found] at further
      rw [read_eq, further (by simp) later]
      rfl

/-- A callback keeps an invariant, or its outcome has a property. -/
def Keeps
    (invariant : State -> Prop)
    (holds : Outcome -> Prop) :
    Except Outcome State -> Prop
  | .ok state => invariant state
  | .error outcome => holds outcome

/-- An outcome is one of a piece, of a frame, or of a frame too large. -/
theorem outcome_of_readLoop
    {invariant : State -> Prop}
    {holds : Outcome -> Prop}
    (data : ∀ state piece, invariant state -> Keeps invariant holds (reader.data state piece))
    (frame : ∀ state typ payload, invariant state ->
      Keeps invariant holds (reader.frame state typ payload))
    (tooLarge : holds reader.tooLarge)
    {fuel : Nat}
    {state : State}
    (starts : invariant state)
    {owed : Nat}
    {input : Bytes}
    {outcome : Outcome}
    (reached : readLoop reader maxFrame fuel state owed input = .error outcome) :
    holds outcome := by
  induction fuel generalizing state owed input with
  | zero => cases reached
  | succ fuel ih =>
    have callback {result : Except Outcome State} {owed : Nat}
        {rest : Bytes}
        (keeps : Keeps invariant holds result)
        (reached : (result.bind fun state =>
          readLoop reader maxFrame fuel state owed rest) = .error outcome) :
        holds outcome := by
      cases result with
      | error other =>
        cases reached
        exact keeps
      | ok next => exact ih keeps reached
    unfold readLoop at reached
    generalize turn maxFrame owed input = found at reached
    cases found with
    | wait => cases reached
    | piece bytes rest => exact callback (data state bytes starts) reached
    | opened length rest => exact callback (data state [] starts) reached
    | frame typ payload rest => exact callback (frame state typ payload starts) reached
    | tooLarge =>
      cases reached
      exact tooLarge

/-! ## The frames on the wire -/

/-- A whole frame at once. -/
def Reader.step
    (reader : Reader State Outcome)
    (state : State)
    (frame : Frame) : Except Outcome State :=
  if frame.typ = 0 then reader.data state frame.payload
  else reader.frame state frame.typ frame.payload

end Reading

/-- The frames that bytes consist of. -/
inductive Wire : Bytes -> List Frame -> Prop
  | nil : Wire [] []
  | cons
      {head payload rest : Bytes}
      {typ : Nat}
      {frames : List Frame}
      (isHeader : header head = some (typ, payload.length, head.length))
      (wire : Wire rest frames) :
      Wire (head ++ payload ++ rest) (⟨typ, payload⟩ :: frames)

/-- A header, its payload and more frames. -/
theorem Wire.of_header
    (isHeader : header input = some (typ, length, size))
    (behind : input.drop size = payload ++ rest)
    (isLength : payload.length = length)
    (wire : Wire rest frames) :
    Wire input (⟨typ, payload⟩ :: frames) := by
  have within := header_eq_some isHeader
  have headed : (input.take size).length = size := by
    rw [List.length_take]
    omega
  have isHead : header (input.take size) =
      some (typ, payload.length, (input.take size).length) := by
    rw [header_take isHeader, isLength, headed]
  have parts := Wire.cons isHead wire
  rwa [List.append_assoc, ← behind, List.take_append_drop] at parts

section Reading

variable {State Outcome : Type}
variable {reader : Reader State Outcome}
variable {maxFrame : Nat}

/-- The rest of a payload that is owed. -/
def Reader.resume
    (reader : Reader State Outcome)
    (state : State)
    (payload : Bytes) : Except Outcome State :=
  if payload = [] then .ok state else reader.data state payload

theorem Reader.Additive.data_append
    (additive : reader.Additive)
    (taken : reader.data state first = .ok next)
    (second : Bytes) :
    reader.data state (first ++ second) = reader.resume next second := by
  unfold Reader.resume
  split
  · next none => rw [none, List.append_nil, taken]
  · rw [additive, taken]
    rfl

/-- What was read up to the end of a frame are the frames on the wire. -/
theorem wire_of_read
    (additive : reader.Additive)
    (isRead : read reader maxFrame state owed input = .ok ⟨final, 0, []⟩) :
    ∃ payload bytes frames, input = payload ++ bytes ∧ payload.length = owed ∧ Wire bytes frames ∧
      (reader.resume state payload).bind
        (fun state => frames.foldlM reader.step state) = .ok final := by
  induction size : input.length using Nat.strongRecOn generalizing input state owed with
  | _ count ih =>
    subst size
    by_cases empty : input = []
    · subst empty
      cases isRead
      exact ⟨[], [], [], rfl, rfl, .nil, rfl⟩
    rw [read_eq] at isRead
    have less {rest : Bytes} := @length_left_lt maxFrame owed input rest
    by_cases pending : 0 < owed
    · rw [turn_owed pending empty] at isRead less
      dsimp only at isRead
      cases taken : reader.data state (input.take owed) with
      | error outcome =>
        rw [taken] at isRead
        cases isRead
      | ok next =>
        rw [taken] at isRead
        obtain ⟨payload, bytes, frames, rest, length, wire, folded⟩ :=
          ih _ (less rfl) isRead rfl
        have present : input.take owed ++ payload ≠ [] := by
          simp [empty, Nat.pos_iff_ne_zero.mp pending]
        refine ⟨input.take owed ++ payload, bytes, frames, ?_, ?_, wire, ?_⟩
        · rw [List.append_assoc, ← rest, List.take_append_drop]
        · have whole := congrArg List.length rest
          rw [List.length_append, length, List.length_take]
          omega
        · rw [Reader.resume, if_neg present, additive.data_append taken]
          exact folded
    obtain rfl : owed = 0 := by omega
    rw [turn, if_neg pending] at isRead less
    cases isHeader : header input with
    | none =>
      rw [isHeader] at isRead
      cases isRead
      exact absurd rfl empty
    | some parts =>
      obtain ⟨typ, length, size⟩ := parts
      rw [isHeader] at isRead less
      dsimp only at isRead less
      by_cases isData : typ = 0
      · rw [if_pos isData] at isRead less
        cases taken : reader.data state [] with
        | error outcome =>
          rw [taken] at isRead
          cases isRead
        | ok next =>
          rw [taken] at isRead
          obtain ⟨payload, bytes, frames, rest, isLength, wire,
            folded⟩ := ih _ (less rfl) isRead rfl
          refine ⟨[], input, ⟨typ, payload⟩ :: frames, rfl, rfl,
            .of_header isHeader rest isLength wire, ?_⟩
          have step := additive.data_append taken payload
          rw [List.nil_append] at step
          change List.foldlM reader.step state _ = _
          rw [List.foldlM_cons, Reader.step, if_pos isData, step]
          exact folded
      rw [if_neg isData] at isRead less
      by_cases large : maxFrame < length
      · rw [if_pos large] at isRead
        cases isRead
      rw [if_neg large] at isRead less
      by_cases short : input.length - size < length
      · rw [if_pos short] at isRead
        cases isRead
        exact absurd rfl empty
      rw [if_neg short] at isRead less
      dsimp only at isRead
      cases taken : reader.frame state typ ((input.drop size).take length) with
      | error outcome =>
        rw [taken] at isRead
        cases isRead
      | ok next =>
        rw [taken] at isRead
        obtain ⟨payload, bytes, frames, rest, isLength, wire, folded⟩ := ih _ (less rfl) isRead rfl
        obtain rfl := List.eq_nil_of_length_eq_zero isLength
        rw [List.nil_append] at rest
        have exact : ((input.drop size).take length).length = length := by
          rw [List.length_take, List.length_drop]
          omega
        refine ⟨[], input, ⟨typ, (input.drop size).take length⟩ ::
          frames, rfl, rfl, .of_header isHeader ?_ exact wire, ?_⟩
        · rw [← rest, ← List.drop_drop, List.take_append_drop]
        change List.foldlM reader.step state _ = _
        rw [List.foldlM_cons, Reader.step, if_neg isData]
        rw [taken]
        exact folded

/-! ## Frames that were written -/

/-- A frame as it is written. -/
def encode (frame : Frame) : Bytes :=
  Varint.append frame.typ ++ Varint.append frame.payload.length ++
    frame.payload

/-- A frame that a reader can take. -/
structure Fits
    (maxFrame : Nat)
    (frame : Frame) : Prop where
  typ : frame.typ < 2 ^ 62
  length : frame.payload.length < 2 ^ 62
  whole : frame.typ ≠ 0 -> frame.payload.length ≤ maxFrame

/-- The payload that is owed. -/
theorem read_payload
    (state : State)
    (payload : Bytes) :
    read reader maxFrame state payload.length payload =
      (reader.resume state payload).map fun state => ⟨state, 0, []⟩ := by
  unfold Reader.resume
  split
  · next none =>
    rw [none]
    rfl
  next present =>
  rw [read_eq, turn_owed (List.length_pos_iff.mpr present) present]
  dsimp only
  rw [List.take_length, List.drop_length, Nat.sub_self]
  rfl

/-- A frame that was written is taken at once. -/
theorem read_encode
    (additive : reader.Additive)
    (fits : Fits maxFrame frame)
    (state : State)
    (rest : Bytes) :
    read reader maxFrame state 0 (encode frame ++ rest) =
      (reader.step state frame).bind fun state =>
        read reader maxFrame state 0 rest := by
  have isHeader := header_append fits.typ fits.length (frame.payload ++ rest)
  rw [← List.append_assoc] at isHeader
  have dropped : (encode frame ++ rest).drop
      (Varint.append frame.typ ++ Varint.append frame.payload.length).length =
        frame.payload ++ rest := by
    rw [encode, List.append_assoc, List.drop_left]
  rw [read_eq, turn, if_neg (by decide)]
  unfold Reader.step
  rw [← encode] at isHeader
  rw [isHeader]
  dsimp only
  by_cases isData : frame.typ = 0
  · rw [if_pos isData, if_pos isData, dropped]
    have whole := additive state [] frame.payload
    rw [List.nil_append] at whole
    cases taken : reader.data state [] with
    | error outcome =>
      rw [taken] at whole
      rw [whole]
      rfl
    | ok next =>
      have step := additive.data_append taken frame.payload
      rw [List.nil_append] at step
      rw [step]
      simp only [Except.bind]
      rw [read_append additive, read_payload]
      cases reader.resume next frame.payload with
      | error outcome => rfl
      | ok last => rfl
  rw [if_neg isData, if_neg isData, if_neg (Nat.not_lt.mpr (fits.whole isData)),
    if_neg (by
      rw [← List.length_drop, dropped, List.length_append]
      omega), ← List.drop_drop, dropped, List.take_left,
    List.drop_left]

/-- Frames that were written are taken one by one. -/
theorem read_flatMap_encode
    (additive : reader.Additive)
    {frames : List Frame}
    (fits : ∀ frame ∈ frames, Fits maxFrame frame)
    (state : State) :
    read reader maxFrame state 0 (frames.flatMap encode) =
      (frames.foldlM reader.step state).map fun state => ⟨state, 0, []⟩ := by
  induction frames generalizing state with
  | nil => rfl
  | cons frame frames ih =>
    rw [List.forall_mem_cons] at fits
    rw [List.flatMap_cons, read_encode additive fits.1, List.foldlM_cons]
    cases reader.step state frame with
    | error outcome => rfl
    | ok next => exact ih fits.2 next

end Reading

end FrameStream
end Fib
