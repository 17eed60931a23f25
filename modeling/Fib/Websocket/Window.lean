import Fib.Websocket.Parser

/-!
# The history of a decompressor

A parser whose peer keeps its compression context remembers the end of what it
has inflated.  Its window is that end, the last 32 KiB of all that was inflated
since the parser last failed, and the array behind it does not grow.
-/

namespace Fib
namespace Websocket

/-- The last bytes, as many as a window holds. -/
def lastWindow (past : Bytes) : Bytes :=
  past.drop (past.length - maxWindowSize)

theorem length_lastWindow_le
    (past : Bytes) :
    (lastWindow past).length ≤ maxWindowSize := by
  rw [lastWindow, List.length_drop]
  omega

/-- The end of the history is all that the next end depends on. -/
theorem keepWindow_lastWindow (past message : Bytes) :
    keepWindow (lastWindow past) message = lastWindow (past ++ message) := by
  unfold keepWindow lastWindow
  generalize maxWindowSize = size
  split
  · next long =>
    rw [List.length_append, Nat.add_sub_assoc long, List.drop_length_add_append]
  · next short =>
    rw [List.drop_drop, List.length_drop, List.length_append,
      List.drop_append_of_le_length (by omega)]
    congr 2
    omega

/-- How `append` sizes a new array: large enough for what is needed, and at most
a constant multiple of that. -/
structure Growth where
  capacity : (old needed : Nat) -> Nat
  factor : Nat
  enough : ∀ old needed, needed ≤ capacity old needed
  bounded : ∀ old needed, old < needed -> capacity old needed ≤ factor * needed

/-- All that a parser has inflated since it last failed, and the capacity of the
array behind its window. -/
structure History where
  past : Bytes := []
  capacity : Nat := 0

/-- A compressed message has been inflated: `keepWindow` moves what it keeps
within the array and appends the rest. -/
def History.add
    (growth : Growth)
    (history : History)
    (window message : Bytes) : History :=
  let needed := (keepWindow window message).length
  { past := history.past ++ message
    capacity :=
      if needed ≤ history.capacity then history.capacity
      else growth.capacity history.capacity needed }

/-- The window of a parser and its history. -/
structure Recalls
    (growth : Growth)
    (window : Bytes)
    (history : History) : Prop where
  ending : window = lastWindow history.past
  fits : window.length ≤ history.capacity
  bounded : history.capacity ≤ growth.factor * maxWindowSize

theorem recalls_nil (growth : Growth) : Recalls growth [] {} :=
  ⟨rfl, Nat.le_refl 0, Nat.zero_le _⟩

theorem Recalls.add
    {growth : Growth}
    {window : Bytes}
    (recalls : Recalls growth window history)
    (message : Bytes) :
    Recalls growth (keepWindow window message) (history.add growth window message) := by
  have kept : keepWindow window message = lastWindow (history.past ++ message) := by
    rw [recalls.ending, keepWindow_lastWindow]
  refine ⟨kept, ?_, ?_⟩
  all_goals
    dsimp only [History.add]
    split
  · assumption
  · exact growth.enough _ _
  · exact recalls.bounded
  · next more =>
    refine Nat.le_trans (growth.bounded _ _ (by omega)) (Nat.mul_le_mul_left _ ?_)
    rw [kept]
    exact length_lastWindow_le _

namespace Parser

/-! ## One frame -/

/-- The frame at the head of the buffer ends a message that was compressed. -/
def endsCompressed
    (config : ParserConfig)
    (parser : Parser) : Bool :=
  match parser.frameHead config with
  | .ok (some head) => head.fin && !head.opcode.control &&
      match head.opcode, parser.fragment with
      | .continuation, some fragment => fragment.compressed
      | _, _ => head.compressed
  | _ => false

/-- The window after a frame that ends a compressed message or does not. -/
def windowAfter
    (window : Bytes)
    (ends : Bool) : Parsed -> Bytes
  | .emitted event => if ends then keepWindow window event.payload else window
  | .absorbed | .incomplete => window

variable {config : ParserConfig} {flate : Flate} {parser after : Parser} {head : FrameHead}
variable {fragment : FragmentedMessage} {history : History}

@[simp] theorem consume_window
    (count : Nat) :
    (parser.consume count).window = parser.window := by
  unfold consume
  split <;> rfl

@[simp] theorem finishFrame_window
    (frameEnd : Nat)
    (borrowed : Bool) :
    (parser.finishFrame frameEnd borrowed).window = parser.window := by
  unfold finishFrame
  split
  · rfl
  · exact consume_window frameEnd

theorem inflate_window
    (takeover : config.contextTakeover = true)
    (ok : parser.inflate config flate compressed = .ok (after, message)) :
    after.window = keepWindow parser.window message := by
  unfold inflate at ok
  dsimp only at ok
  split at ok
  · cases ok
  · cases ok
    exact if_pos takeover

theorem takeControl_window
    (ok : parser.takeControl head payload borrowed = .ok (after, parsed)) :
    after.window = parser.window := by
  unfold takeControl at ok
  repeat' split at ok
  all_goals cases ok
  exact finishFrame_window _ borrowed

theorem takeData_window
    (takeover : config.contextTakeover = true)
    (ok : parser.takeData config flate head payload checked borrowed = .ok (after, parsed)) :
    after.window = windowAfter parser.window (head.fin && head.compressed) parsed := by
  unfold takeData at ok
  dsimp only at ok
  split at ok
  · next ends =>
    split at ok
    · cases ok
    next inflated =>
    split at ok
    · cases ok
    · cases ok
      simpa [windowAfter, ends] using inflate_window takeover inflated
  next plain =>
  rw [Bool.not_eq_true] at plain
  repeat' split at ok
  all_goals cases ok
  all_goals simp [windowAfter, plain]

theorem takeContinuation_window
    (takeover : config.contextTakeover = true)
    (ok : parser.takeContinuation config flate head fragment payload checked =
      .ok (after, parsed)) :
    after.window = windowAfter parser.window (head.fin && fragment.compressed) parsed := by
  unfold takeContinuation at ok
  dsimp only at ok
  split at ok
  · cases ok
  split at ok
  · cases ok
  split at ok
  · cases ok
    simp [windowAfter]
  next fin =>
  rw [Bool.not_eq_true, Bool.not_eq_false'] at fin
  split at ok
  · next compressed =>
    split at ok
    · cases ok
    next inflated =>
    split at ok
    · cases ok
    · cases ok
      simpa [windowAfter, fin, compressed] using inflate_window takeover inflated
  · next plain =>
    cases ok
    simp [windowAfter, plain]

theorem checkPartialText_window
    (ok : parser.checkPartialText available mask = some after) :
    after.window = parser.window := by
  unfold checkPartialText at ok
  dsimp only at ok
  split at ok
  · cases ok
    rfl
  · obtain ⟨_, _, rfl⟩ := Option.map_eq_some_iff.mp ok
    rfl

theorem next_window
    (takeover : config.contextTakeover = true)
    (ok : parser.next config flate borrowed = .ok (after, parsed)) :
    after.window = windowAfter parser.window (parser.endsCompressed config) parsed := by
  unfold next at ok
  split at ok
  · cases ok
  · cases ok
    rfl
  next head found =>
  rw [endsCompressed, found]
  dsimp only at ok ⊢
  split at ok
  · repeat' split at ok
    all_goals cases ok
    · next checked => exact checkPartialText_window checked
    · rfl
  split at ok
  · next control =>
    rw [control]
    have window := takeControl_window ok
    cases parsed <;> simpa [windowAfter] using window
  next data =>
  rw [Bool.not_eq_true] at data
  split at ok
  · next continues begun =>
    have window := takeContinuation_window takeover ok
    simpa [Opcode.control, continues, begun] using window
  · next other =>
    have window := takeData_window takeover ok
    simpa [data] using window

/-! ## Every sequence of calls -/

/-- The history of `feedLoop`. -/
def loopHistory
    (config : ParserConfig)
    (flate : Flate)
    (growth : Growth)
    (borrowed : Bool) :
    Nat -> Parser -> History -> History
  | 0, _, history => history
  | fuel + 1, parser, history =>
    match parser.next config flate borrowed with
    | .error _ => {}
    | .ok (_, .emitted event) =>
      if parser.endsCompressed config then history.add growth parser.window event.payload
      else history
    | .ok (parser, .absorbed) => loopHistory config flate growth borrowed fuel parser history
    | .ok (parser, .incomplete) =>
      if parser.buffer = [] ∧ parser.borrowedTail ≠ [] then
        loopHistory config flate growth borrowed fuel parser.takeTail history
      else history

/-- The history of a sequence of calls. -/
def callsHistory
    (config : ParserConfig)
    (flate : Flate)
    (growth : Growth)
    (parser : Parser)
    (history : History) : List Call -> History
  | [] => history
  | .feedOne data borrowed :: rest =>
    let accepted := parser.accept data borrowed
    callsHistory config flate growth (parser.feedOne config flate data borrowed).1
      (loopHistory config flate growth borrowed
        (2 * (accepted.buffer.length + accepted.borrowedTail.length) + 2) accepted history)
      rest
  | .releaseBorrowed :: rest =>
    callsHistory config flate growth parser.releaseBorrowed history rest

@[simp] theorem takeTail_window : parser.takeTail.window = parser.window := by
  unfold takeTail
  split <;> rfl

theorem accept_window
    (data : Bytes)
    (borrowed : Bool) :
    (parser.accept data borrowed).window = parser.window := by
  unfold accept
  dsimp only
  split_ifs <;> simp

theorem releaseBorrowed_window : parser.releaseBorrowed.window = parser.window := by
  unfold releaseBorrowed
  dsimp only
  split_ifs <;> simp

theorem Recalls.feedLoop
    {growth : Growth}
    (takeover : config.contextTakeover = true)
    (fuel : Nat)
    (recalls : Recalls growth parser.window history) :
    Recalls growth (feedLoop config flate borrowed fuel parser).1.window
      (loopHistory config flate growth borrowed fuel parser history) := by
  induction fuel generalizing parser with
  | zero => exact recalls
  | succ fuel ih =>
    unfold Parser.feedLoop loopHistory
    cases parsed : parser.next config flate borrowed with
    | error failure => exact recalls_nil growth
    | ok result =>
      obtain ⟨after, outcome⟩ := result
      have window := next_window takeover parsed
      cases outcome with
      | emitted event =>
        dsimp only [windowAfter] at window ⊢
        rw [window]
        split
        · exact recalls.add event.payload
        · exact recalls
      | absorbed => exact ih (window ▸ recalls)
      | incomplete =>
        dsimp only [windowAfter] at window ⊢
        rw [← window] at recalls
        split
        · exact ih (by rwa [takeTail_window])
        · exact recalls

theorem Recalls.calls
    {growth : Growth}
    (takeover : config.contextTakeover = true)
    (list : List Call)
    (recalls : Recalls growth parser.window history) :
    Recalls growth (parser.calls config flate list).1.window
      (parser.callsHistory config flate growth history list) := by
  induction list generalizing parser history with
  | nil => exact recalls
  | cons call rest ih =>
    cases call with
    | feedOne data borrowed =>
      rw [← accept_window data borrowed] at recalls
      have fed := @Recalls.feedLoop config flate _ _ borrowed _ takeover
        (2 * ((parser.accept data borrowed).buffer.length +
          (parser.accept data borrowed).borrowedTail.length) + 2) recalls
      exact ih fed
    | releaseBorrowed => exact ih (by rwa [releaseBorrowed_window])

/-- After every sequence of calls of a parser whose peer keeps its context, the
window is the end of all compressed messages inflated since the parser last
failed, and its array is no longer than a constant multiple of a window. -/
theorem window_is_end_of_history
    (config : ParserConfig)
    (flate : Flate)
    (growth : Growth)
    (takeover : config.contextTakeover = true)
    (list : List Call) :
    let history := callsHistory config flate growth {} {} list
    let window := (calls config flate {} list).1.window
    window = lastWindow history.past ∧ window.length ≤ history.capacity ∧
      history.capacity ≤ growth.factor * maxWindowSize := by
  have recalls := @Recalls.calls config flate {} {} growth takeover list (recalls_nil growth)
  exact ⟨recalls.ending, recalls.fits, recalls.bounded⟩

/-- A client's parser of messages that are compressed with their context. -/
def takeoverConfig : ParserConfig where
  maxMessageBytes := 1024
  fromServer := true
  deflate := true
  contextTakeover := true
  limit_lt := plainConfig.limit_lt

/-- A decompressor that copies, and does not end the message `[0]`. -/
def copying : Flate :=
  ⟨fun _ compressed => (compressed, compressed != [0])⟩

/-- Arrays of exactly the size that is needed. -/
def exactly : Growth :=
  ⟨fun _ needed => needed, 1, fun _ _ => Nat.le_refl _, fun _ _ _ => by omega⟩

theorem window_is_end_of_history_plain_between :
    let list := [.feedOne [0xc2, 1, 7] false, .feedOne [0x82, 1, 8] false,
      .feedOne [0xc2, 1, 9] true]
    (callsHistory takeoverConfig copying exactly {} {} list).past = [7, 9] ∧
      (calls takeoverConfig copying {} list).1.window = lastWindow [7, 9] := by
  intro list
  have past : (callsHistory takeoverConfig copying exactly {} {} list).past = [7, 9] := by
    decide
  exact ⟨past, past ▸ (window_is_end_of_history takeoverConfig copying exactly rfl list).1⟩

/-- A message that cannot be inflated takes the history before it along: what
was inflated first is not in the window of the third message. -/
theorem failed_message_drops_window :
    let run := calls takeoverConfig copying {} [.feedOne [0xc2, 1, 7] false,
      .feedOne [0xc2, 1, 0] false, .feedOne [0xc2, 1, 9] false]
    run.2 = [.ok (some ⟨.binary, [7]⟩), .error .invalidPayload, .ok (some ⟨.binary, [9]⟩)] ∧
      run.1.window = [9] ∧ run.1.window ≠ lastWindow ([7] ++ [9]) := by
  decide

end Parser

end Websocket
end Fib
