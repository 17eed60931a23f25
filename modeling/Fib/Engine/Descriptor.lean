import Fib.Engine.Connection

/-!
# Whose descriptor a worker reads

A worker's read is two steps: it loads the field `fd` of its connection, and
it reads that descriptor.  The event loop closes a connection by `detach`,
which stores `-1` into the field and then closes the number, after which the
kernel is free to hand the number to the next accept or dial.

A worker that loads the number before `detach` and reads after it was handed
out again reads the bytes of another peer.  As long as no number is closed
between the two steps of a read of its connection, every byte passed to
`OnData` was sent by the connection's own peer.
-/

namespace Fib
namespace Engine
namespace Descriptor

open Goroutines

/-- A read of a descriptor, with the connection whose socket the number
referred to at that moment. -/
structure Call where
  reader : Nat
  holder : Option Nat
  deriving DecidableEq, Repr

/-- Bytes passed to `OnData` or `OnPriorityData`, with the connection whose
peer sent them. -/
structure Delivery where
  connection : Nat
  sender : Nat
  data : Bytes
  deriving DecidableEq, Repr

/-- The connections of an engine, the kernel's descriptors and what was
read. -/
structure Files where
  /-- The connection whose socket a number refers to. -/
  holder : Nat -> Option Nat := fun _ => none
  /-- The field `fd` of a connection; `none` is the `-1` of `detach`. -/
  fd : Nat -> Option Nat := fun _ => none
  closed : Nat -> Bool := fun _ => false
  /-- How many connections were accepted or dialed. -/
  opened : Nat := 0
  /-- What the peer of a connection sent and no read has taken. -/
  inbox : Nat -> Bytes := fun _ => []
  urgent : Nat -> Bytes := fun _ => []
  calls : List Call := []
  delivered : List Delivery := []

inductive Section
  /-- The head of a round. -/
  | process (c : Nat)
  | readLoop (c : Nat)
  | sysRead (c : Nat) (fd : Option Nat)
  | drainPriorityInput (c : Nat)
  | sysRecvOOB (c : Nat) (fd : Option Nat)
  | closeConnection (c : Nat)
  | detach (c : Nat)
  /-- The close of the number that `detach` took out of the field. -/
  | closeDescriptor (c fd : Nat)
  | acceptConnections
  | connectSocket
  deriving DecidableEq, Repr

/-- What the environment decides in one section. -/
structure Answer where
  sys : SysAnswer := .again
  /-- The number the kernel hands out. -/
  descriptor : Nat := 0
  /-- The events of a round. -/
  evIn : Bool := false
  evPri : Bool := false
  /-- The replies fill the write budget, so the read loop stops. -/
  stalls : Bool := false
  deriving DecidableEq, Repr

abbrev Result := Outcome Files Unit Section

/-- A section that continues its caller. -/
def continueWith
    (files : Files)
    (next : List Section) : Option Result :=
  some { shared := files, locals := (), next := next }

/-- A round reads unless the connection is closed at its start. -/
def process
    (c : Nat)
    (answer : Answer)
    (files : Files) : Option Result :=
  if files.closed c then
    continueWith files []
  else
    continueWith files
      ((if answer.evPri then [.drainPriorityInput c] else []) ++
        (if answer.evIn then [.readLoop c] else []))

/-- A read call on a loaded descriptor.  `waiting` are the bytes of each
socket it may take, at most `size` at once, `taken` removes them, and `again`
is where the loop goes on. -/
def readDescriptor
    (c : Nat)
    (fd : Option Nat)
    (size : Nat)
    (waiting : Files -> Nat -> Bytes)
    (taken : Files -> Nat -> Bytes -> Files)
    (again : Nat -> Section)
    (onward : Nat -> List Section)
    (answer : Answer)
    (files : Files) : Option Result :=
  match fd with
  | none => continueWith files []
  | some number =>
    let logged :=
      { files with
        calls := files.calls ++
          [{ reader := c, holder := files.holder number }] }
    match files.holder number, answer.sys with
    | none, _ => continueWith logged []
    | some sender, .took n =>
      let data := (waiting files sender).take n
      if 0 < n ∧ n ≤ (waiting files sender).length ∧ n ≤ size then
        continueWith
          { taken logged sender ((waiting files sender).drop n) with
            delivered := files.delivered ++
              [{ connection := c, sender := sender, data := data }] }
          (onward n)
      else none
    | some _, .interrupted => continueWith logged [again c]
    | some _, _ => continueWith logged []

/-- `sysRead` in `readLoop`: a full read is followed by another one unless the
write budget is filled. -/
def sysRead
    (bufferSize c : Nat)
    (fd : Option Nat)
    (answer : Answer) : Files -> Option Result :=
  readDescriptor c fd bufferSize Files.inbox
    (fun files sender left =>
      { files with inbox := Function.update files.inbox sender left })
    .readLoop
    (fun n =>
      if n < bufferSize || answer.stalls then [] else [.readLoop c])
    answer

/-- `sysRecvOOB` in `drainPriorityInput`, one byte at a time. -/
def sysRecvOOB
    (c : Nat)
    (fd : Option Nat)
    (answer : Answer) : Files -> Option Result :=
  readDescriptor c fd 1 Files.urgent
    (fun files sender left =>
      { files with urgent := Function.update files.urgent sender left })
    .drainPriorityInput (fun _ => [.drainPriorityInput c]) answer

/-- The part of `closeConnection` under the connection's lock. -/
def closeConnection
    (c : Nat)
    (files : Files) : Option Result :=
  if files.closed c then
    continueWith files []
  else
    continueWith { files with closed := Function.update files.closed c true }
      [.detach c]

/-- `detach` swaps the field for `-1`. -/
def detach
    (c : Nat)
    (files : Files) : Option Result :=
  match files.fd c with
  | none => continueWith files []
  | some number =>
    continueWith { files with fd := Function.update files.fd c none }
      [.closeDescriptor c number]

/-- The number is free again. -/
def closeDescriptor
    (number : Nat)
    (files : Files) : Option Result :=
  continueWith
    { files with holder := Function.update files.holder number none } []

/-- `acceptConnections` and `connectSocket`: the kernel hands out a number
that is free, and the new connection stores it. -/
def openSocket
    (answer : Answer)
    (files : Files) : Option Result :=
  if files.holder answer.descriptor = none then
    continueWith
      { files with
        holder := Function.update files.holder answer.descriptor
          (some files.opened)
        fd := Function.update files.fd files.opened (some answer.descriptor)
        opened := files.opened + 1 }
      []
  else none

def exec (bufferSize : Nat) :
    Section -> Answer -> Files -> Unit -> Option Result
  | .process c, answer, files, _ => process c answer files
  | .readLoop c, _, files, _ => continueWith files [.sysRead c (files.fd c)]
  | .sysRead c fd, answer, files, _ => sysRead bufferSize c fd answer files
  | .drainPriorityInput c, _, files, _ =>
    continueWith files [.sysRecvOOB c (files.fd c)]
  | .sysRecvOOB c fd, answer, files, _ => sysRecvOOB c fd answer files
  | .closeConnection c, _, files, _ => closeConnection c files
  | .detach c, _, files, _ => detach c files
  | .closeDescriptor _ number, _, files, _ => closeDescriptor number files
  | .acceptConnections, answer, files, _ => openSocket answer files
  | .connectSocket, answer, files, _ => openSocket answer files

/-- Goroutine `0` is the event loop; every other one may run a round of any
connection. -/
def entry
    (index : Nat)
    (first : Section)
    (files : Files) : Option Result :=
  match first with
  | .process c =>
    if index ≠ 0 ∧ c < files.opened then continueWith files [.process c]
    else none
  | .closeConnection c =>
    if index = 0 ∧ c < files.opened then
      continueWith files [.closeConnection c]
    else none
  | .acceptConnections =>
    if index = 0 then continueWith files [.acceptConnections] else none
  | .connectSocket =>
    if index = 0 then continueWith files [.connectSocket] else none
  | _ => none

/-- The peer of a connection sends bytes. -/
inductive PeerEvent
  | send (c : Nat) (data : Bytes)
  | sendUrgent (c : Nat) (data : Bytes)
  deriving DecidableEq, Repr

def peerEvent : PeerEvent -> Files -> Option Files
  | .send c data, files =>
    some { files with
      inbox := Function.update files.inbox c (files.inbox c ++ data) }
  | .sendUrgent c data, files =>
    some { files with
      urgent := Function.update files.urgent c (files.urgent c ++ data) }

def program (bufferSize : Nat) :
    Program Files Unit Section Answer PeerEvent where
  exec := exec bufferSize
  entry := entry
  env := peerEvent

abbrev System := Pool Files Unit Section

abbrev SystemMove := Move Section Answer PeerEvent

def step (bufferSize : Nat) :=
  Goroutines.step (program bufferSize)

/-- An engine without connections. -/
def initial : System where
  shared := {}
  goroutine := fun _ => { stack := [], locals := () }

/-! ## What a stack says about descriptors -/

/-- The connection and the number of a read between its two steps. -/
def Section.loaded : Section -> Option (Nat × Nat)
  | .sysRead c (some number) | .sysRecvOOB c (some number) =>
    some (c, number)
  | _ => none

/-- The connection and the number that `detach` is about to close. -/
def Section.closing : Section -> Option (Nat × Nat)
  | .closeDescriptor c number => some (c, number)
  | _ => none

/-- What only the event loop does. -/
def Section.isLoop : Section -> Bool
  | .closeConnection _ | .detach _ | .closeDescriptor _ _
  | .acceptConnections | .connectSocket => true
  | _ => false

/-- Every read was made on a descriptor of the reader's own connection, and
every byte it was given was sent by its own peer. -/
def Separated (files : Files) : Prop :=
  (∀ call ∈ files.calls, call.holder = some call.reader) ∧
    ∀ delivery ∈ files.delivered, delivery.sender = delivery.connection

instance (files : Files) : Decidable (Separated files) := by
  unfold Separated
  infer_instance

/-- What one section does to the descriptors. -/
inductive FilesEffect
    (first : Section)
    (before : Files) :
    Files -> List Section -> Prop
  /-- Nothing that concerns descriptors, and no number is loaded. -/
  | idle (after : Files) (next : List Section) :
      after.holder = before.holder ->
      after.fd = before.fd ->
      after.calls = before.calls ->
      after.delivered = before.delivered ->
      (∀ pending ∈ next, pending.loaded = none ∧ pending.closing = none) ->
      FilesEffect first before after next
  | loads (c number : Nat) (next : Section) :
      before.fd c = some number ->
      next.loaded = some (c, number) ->
      next.closing = none ->
      FilesEffect first before before [next]
  | reads (c number : Nat) (after : Files) (next : List Section) :
      first.loaded = some (c, number) ->
      after.holder = before.holder ->
      after.fd = before.fd ->
      after.calls = before.calls ++ [⟨c, before.holder number⟩] ->
      (after.delivered = before.delivered ∨
        ∃ sender data, before.holder number = some sender ∧
          after.delivered = before.delivered ++ [⟨c, sender, data⟩]) ->
      (∀ pending ∈ next, pending.loaded = none ∧ pending.closing = none) ->
      FilesEffect first before after next
  | swaps (c number : Nat) :
      before.fd c = some number ->
      FilesEffect first before
        { before with fd := Function.update before.fd c none }
        [.closeDescriptor c number]
  | closes (c number : Nat) :
      first.closing = some (c, number) ->
      FilesEffect first before
        { before with holder := Function.update before.holder number none } []
  | opens (number : Nat) :
      first.isLoop = true ->
      before.holder number = none ->
      FilesEffect first before
        { before with
          holder := Function.update before.holder number (some before.opened)
          fd := Function.update before.fd before.opened (some number)
          opened := before.opened + 1 }
        []

variable {first : Section} {answer : Answer} {files : Files} {outcome : Result}

theorem readDescriptor_effect
    (executed : readDescriptor c fd size waiting taken again onward answer files = some outcome)
    (loaded : ∀ number, fd = some number -> first.loaded = some (c, number))
    (takenFrame : ∀ files sender left,
      (taken files sender left).holder = files.holder ∧ (taken files sender left).fd = files.fd ∧
        (taken files sender left).calls = files.calls)
    (againLoads : (again c).loaded = none ∧ (again c).closing = none)
    (onwardLoads : ∀ n, ∀ pending ∈ onward n,
      pending.loaded = none ∧ pending.closing = none) :
    FilesEffect first files outcome.shared outcome.next ∧ outcome.unwind = false := by
  simp only [readDescriptor, continueWith] at executed
  split at executed
  · cases executed
    exact ⟨.idle _ _ rfl rfl rfl rfl (by simp), rfl⟩
  next number =>
  have loaded := loaded number rfl
  split at executed
  · cases executed
    exact ⟨.reads c number _ _ loaded rfl rfl rfl (.inl rfl) (by simp), rfl⟩
  · next sender n held took =>
    split at executed
    · cases executed
      obtain ⟨sameHolder, sameFd, sameCalls⟩ := takenFrame
        { files with
          calls := files.calls ++ [{ reader := c, holder := files.holder number }] }
        sender ((waiting files sender).drop n)
      refine ⟨.reads c number _ _ loaded sameHolder sameFd sameCalls
        (.inr ⟨sender, _, held, rfl⟩) (onwardLoads n), rfl⟩
    · simp at executed
  · cases executed
    refine ⟨.reads c number _ _ loaded rfl rfl rfl (.inl rfl) ?_, rfl⟩
    simpa using againLoads
  · cases executed
    exact ⟨.reads c number _ _ loaded rfl rfl rfl (.inl rfl) (by simp), rfl⟩

variable {bufferSize : Nat}

theorem exec_effect
    (executed : exec bufferSize first answer files () = some outcome) :
    FilesEffect first files outcome.shared outcome.next ∧ outcome.unwind = false := by
  cases first with
  | process c =>
    simp only [exec, process, continueWith] at executed
    split at executed
    all_goals cases executed
    · exact ⟨.idle _ _ rfl rfl rfl rfl (by simp), rfl⟩
    refine ⟨.idle _ _ rfl rfl rfl rfl ?_, rfl⟩
    intro pending present
    rw [List.mem_append] at present
    rcases present with priority | input
    · split at priority <;> simp_all [Section.loaded, Section.closing]
    · split at input <;> simp_all [Section.loaded, Section.closing]
  | readLoop c | drainPriorityInput c =>
    cases executed
    cases field : files.fd c with
    | none =>
      refine ⟨.idle _ _ rfl rfl rfl rfl ?_, rfl⟩
      simp [Section.loaded, Section.closing]
    | some number => exact ⟨.loads c number _ field rfl rfl, rfl⟩
  | sysRead c fd | sysRecvOOB c fd =>
    rw [exec] at executed
    refine readDescriptor_effect executed ?_ ?_ ⟨rfl, rfl⟩ ?_
    · rintro number rfl
      rfl
    · exact fun _ _ _ => ⟨rfl, rfl, rfl⟩
    · intro n pending present
      repeat' split at present
      all_goals simp_all [Section.loaded, Section.closing]
  | closeConnection c =>
    simp only [exec, closeConnection, continueWith] at executed
    split at executed
    all_goals
      cases executed
      refine ⟨.idle _ _ rfl rfl rfl rfl ?_, rfl⟩
      simp [Section.loaded, Section.closing]
  | detach c =>
    simp only [exec, detach, continueWith] at executed
    split at executed
    · cases executed
      exact ⟨.idle _ _ rfl rfl rfl rfl (by simp), rfl⟩
    · next number field =>
      cases executed
      exact ⟨.swaps c number field, rfl⟩
  | closeDescriptor c number =>
    cases executed
    exact ⟨.closes c number rfl, rfl⟩
  | acceptConnections | connectSocket =>
    simp only [exec, openSocket, continueWith] at executed
    split at executed
    · next free =>
      cases executed
      exact ⟨.opens answer.descriptor rfl free, rfl⟩
    · simp at executed

/-- Only the event loop does the loop's work, one section at a time. -/
theorem exec_isLoop
    (executed : exec bufferSize first answer files () = some outcome) :
    (∀ pending ∈ outcome.next, pending.isLoop = first.isLoop) ∧
      (first.isLoop = true -> outcome.next.length ≤ 1) := by
  cases first with
  | sysRead c fd | sysRecvOOB c fd =>
    simp only [exec, sysRead, sysRecvOOB, readDescriptor, continueWith] at executed
    repeat' split at executed
    all_goals
      first
        | (cases executed
           simp [Section.isLoop])
        | simp at executed
  | _ =>
    simp only [exec, process, closeConnection, detach, closeDescriptor,
      openSocket, continueWith] at executed
    repeat' split at executed
    all_goals
      first
        | (cases executed
           simp [Section.isLoop])
        | simp at executed

/-! ## The invariant -/

/-- What a section has loaded or is about to close belongs to its
connection. -/
structure Section.Owns
    (files : Files)
    (pending : Section) : Prop where
  loaded : ∀ c number, pending.loaded = some (c, number) -> files.holder number = some c
  closing : ∀ c number, pending.closing = some (c, number) ->
    files.holder number = some c ∧ files.fd c = none

/-- The invariant behind separation: a field, a loaded number and a number
about to be closed all belong to their connection. -/
structure Held (system : System) : Prop where
  field : ∀ c number, system.shared.fd c = some number ->
    system.shared.holder number = some c
  owns : ∀ index, ∀ pending ∈ (system.goroutine index).stack, pending.Owns system.shared
  loop : ∀ index, ∀ pending ∈ (system.goroutine index).stack,
    (pending.isLoop = true ↔ index = 0)
  single : (system.goroutine 0).stack.length ≤ 1
  separated : Separated system.shared

theorem held_initial : Held initial := by
  constructor <;> simp [initial, Separated]

/-- The connection whose number goroutine `index` is about to close. -/
def closesNumberOf
    (system : System)
    (index : Nat) : Option Nat :=
  match (system.goroutine index).stack with
  | .closeDescriptor c _ :: _ => some c
  | _ => none

/-- The condition on one step: the number of a connection is not closed while
a worker of that connection is between the two steps of a read. -/
def ClosesUnloaded (system : System) : SystemMove -> Prop
  | .run index _ => ∀ c, closesNumberOf system index = some c ->
      ∀ other, ∀ pending ∈ (system.goroutine other).stack,
        ∀ number, pending.loaded ≠ some (c, number)
  | _ => True

theorem isLoop_of_closing
    {pending : Section}
    (closing : pending.closing = some taken) :
    pending.isLoop = true := by
  cases pending <;> first | rfl | simp [Section.closing] at closing

variable {system : System} {index : Nat}

/-- The event loop has one section left. -/
theorem Held.alone
    (held : Held system)
    (stack : (system.goroutine 0).stack = first :: rest) :
    rest = [] := by
  have single := held.single
  rw [stack, List.length_cons] at single
  exact List.length_eq_zero_iff.mp (by omega)

/-- A section that concerns the event loop is the only one it has left. -/
theorem Held.no_closing_below
    (held : Held system)
    (stack : (system.goroutine index).stack = first :: rest)
    (isLoop : first.isLoop = true)
    (present : pending ∈ (system.goroutine other).stack)
    (left : pending ∈ rest ∨ other ≠ index) :
    pending.closing = none := by
  obtain rfl : index = 0 := (held.loop index first (by simp [stack])).mp isLoop
  rcases left with below | different
  · simp [held.alone stack] at below
  cases closing : pending.closing with
  | none => rfl
  | some taken =>
    exact absurd ((held.loop other pending present).mp (isLoop_of_closing closing)) different

/-- Goroutine `index` of a system that has the invariant ran a section over
`rest`, or was started. -/
structure Ran
    (system : System)
    (index : Nat)
    (rest : List Section)
    (outcome : Result) :
    Prop where
  held : Held system
  below : ∀ pending ∈ rest, pending ∈ (system.goroutine index).stack
  resumes : outcome.unwind = false
  loop : ∀ pending ∈ outcome.next, (pending.isLoop = true ↔ index = 0)
  single : index = 0 -> (outcome.next ++ rest).length ≤ 1

namespace Ran

variable (ran : Ran system index rest outcome)
include ran

/-- Where the sections on the stacks after the step come from. -/
theorem origin
    (present : pending ∈ ((system.commit index outcome rest).goroutine other).stack) :
    (pending ∈ outcome.next ∧ other = index) ∨
      pending ∈ (system.goroutine other).stack ∧ (pending ∈ rest ∨ other ≠ index) := by
  by_cases same : other = index
  · subst same
    rw [Pool.commit_self, Outcome.stackOver_eq ran.resumes] at present
    rcases List.mem_append.mp present with pushed | below
    · exact .inl ⟨pushed, rfl⟩
    · exact .inr ⟨ran.below pending below, .inl below⟩
  · rw [Pool.commit_other _ _ _ same] at present
    exact .inr ⟨present, .inr same⟩

/-- The invariant after a section, from what it pushed and what it left of
the descriptors. -/
theorem after
    (field : ∀ c number, outcome.shared.fd c = some number -> outcome.shared.holder number = some c)
    (pushed : ∀ pending ∈ outcome.next, pending.Owns outcome.shared)
    (left : ∀ other, ∀ pending ∈ (system.goroutine other).stack,
      pending ∈ rest ∨ other ≠ index -> pending.Owns outcome.shared)
    (separated : Separated outcome.shared) :
    Held (system.commit index outcome rest) := by
  refine ⟨field, fun other pending present => ?_, fun other pending present => ?_, ?_, separated⟩
  · rcases ran.origin present with ⟨new, -⟩ | ⟨before, stays⟩
    · exact pushed pending new
    · exact left other pending before stays
  · rcases ran.origin present with ⟨new, rfl⟩ | ⟨before, -⟩
    · exact ran.loop pending new
    · exact ran.held.loop other pending before
  · by_cases same : 0 = index
    · rw [← same, Pool.commit_self, Outcome.stackOver_eq ran.resumes]
      exact ran.single same.symm
    · rw [Pool.commit_other _ _ _ same]
      exact ran.held.single

/-- A section that leaves the descriptors alone. -/
theorem after_same
    (sameHolder : outcome.shared.holder = system.shared.holder)
    (sameFd : outcome.shared.fd = system.shared.fd)
    (quiet : ∀ pending ∈ outcome.next, pending.loaded = none ∧ pending.closing = none)
    (separated : Separated outcome.shared) :
    Held (system.commit index outcome rest) := by
  refine ran.after ?_ ?_ (fun other pending before _ => ?_) separated
  · simpa only [sameHolder, sameFd] using ran.held.field
  · intro pending pushed
    constructor <;> simp [quiet pending pushed]
  · obtain ⟨loaded, closing⟩ := ran.held.owns other pending before
    rw [← sameHolder] at loaded closing
    rw [← sameFd] at closing
    exact ⟨loaded, closing⟩

end Ran

theorem Held.of_effect
    (ran : Ran system index rest outcome)
    (stack : (system.goroutine index).stack = first :: rest)
    (unloaded : ∀ c number, first.closing = some (c, number) ->
      ∀ other, ∀ pending ∈ (system.goroutine other).stack,
        pending.loaded ≠ some (c, number))
    (effect : FilesEffect first system.shared outcome.shared outcome.next) :
    Held (system.commit index outcome rest) := by
  have held := ran.held
  have own := held.owns index first (by simp [stack])
  obtain ⟨shared, locals, next, unwind⟩ := outcome
  dsimp only at effect
  cases effect with
  | idle _ _ sameHolder sameFd sameCalls sameDelivered quiet =>
    refine ran.after_same sameHolder sameFd quiet ?_
    simpa only [Separated, sameCalls, sameDelivered] using held.separated
  | loads c number next field loadedNext closingNext =>
    refine ran.after held.field ?_ (fun other pending before _ => held.owns other pending before)
      held.separated
    intro pending pushed
    rw [List.mem_singleton] at pushed
    subst pushed
    refine ⟨fun d other same => ?_, by simp [closingNext]⟩
    rw [loadedNext, Option.some.injEq, Prod.mk.injEq] at same
    obtain ⟨rfl, rfl⟩ := same
    exact held.field c number field
  | reads c number _ _ isLoaded sameHolder sameFd sameCalls delivers quiet =>
    have holds := own.loaded c number isLoaded
    refine ran.after_same sameHolder sameFd quiet ⟨?_, ?_⟩
    · simp only [sameCalls, List.mem_append, List.mem_singleton]
      rintro call (earlier | rfl)
      · exact held.separated.1 call earlier
      · exact holds
    rcases delivers with same | ⟨sender, data, sent, more⟩
    · rw [same]
      exact held.separated.2
    · simp only [more, List.mem_append, List.mem_singleton]
      rintro delivery (earlier | rfl)
      · exact held.separated.2 delivery earlier
      · exact Option.some.inj (sent.symm.trans holds)
  | swaps c number field =>
    refine ran.after ?_ ?_ (fun other pending before _ => ?_) held.separated
    all_goals dsimp only
    · intro other otherNumber otherField
      by_cases same : other = c
      · simp [same] at otherField
      · rw [Function.update_of_ne same] at otherField
        exact held.field other otherNumber otherField
    · intro pending pushed
      rw [List.mem_singleton] at pushed
      subst pushed
      refine ⟨nofun, fun d other same => ?_⟩
      cases same
      exact ⟨held.field c number field, Function.update_self ..⟩
    refine { held.owns other pending before with closing := fun d otherNumber isClosing => ?_ }
    obtain ⟨holds, noField⟩ := (held.owns other pending before).closing d otherNumber isClosing
    refine ⟨holds, ?_⟩
    dsimp only
    by_cases same : d = c
    · rw [same, Function.update_self]
    · rw [Function.update_of_ne same, noField]
  | closes c number isClosing =>
    obtain ⟨holds, noField⟩ := own.closing c number isClosing
    refine ran.after ?_ (by simp) (fun other pending before left =>
      ⟨fun d otherNumber isLoaded => ?_, ?_⟩) held.separated
    all_goals dsimp only
    · intro other otherNumber otherField
      have otherHolds := held.field other otherNumber otherField
      by_cases same : otherNumber = number
      · rw [same, holds, Option.some.injEq] at otherHolds
        rw [← otherHolds, noField] at otherField
        simp at otherField
      · rw [Function.update_of_ne same]
        exact otherHolds
    · have otherHolds := (held.owns other pending before).loaded d otherNumber isLoaded
      by_cases same : otherNumber = number
      · rw [same, holds, Option.some.injEq] at otherHolds
        rw [same, ← otherHolds] at isLoaded
        exact absurd isLoaded (unloaded c number isClosing other pending before)
      · rw [Function.update_of_ne same]
        exact otherHolds
    · simp [held.no_closing_below stack (isLoop_of_closing isClosing) before left]
  | opens number isLoop free =>
    have elsewhere {d otherNumber : Nat} (holds : system.shared.holder otherNumber = some d) :
        Function.update system.shared.holder number (some system.shared.opened) otherNumber =
          some d := by
      rw [Function.update_of_ne ?_, holds]
      rintro rfl
      simp [free] at holds
    refine ran.after ?_ (by simp) (fun other pending before left =>
      ⟨fun d otherNumber isLoaded => ?_, ?_⟩) held.separated
    all_goals dsimp only
    · intro other otherNumber otherField
      by_cases same : other = system.shared.opened
      · rw [same, Function.update_self, Option.some.injEq] at otherField
        rw [← otherField, Function.update_self, same]
      rw [Function.update_of_ne same] at otherField
      exact elsewhere (held.field other otherNumber otherField)
    · exact elsewhere ((held.owns other pending before).loaded d otherNumber isLoaded)
    · simp [held.no_closing_below stack isLoop before left]

theorem entry_effect (entered : entry index first files = some outcome) :
    outcome.shared = files ∧ outcome.unwind = false ∧
      ∃ pending, outcome.next = [pending] ∧ pending.loaded = none ∧
        pending.closing = none ∧ (pending.isLoop = true ↔ index = 0) := by
  simp only [entry, continueWith] at entered
  repeat' split at entered
  all_goals
    first
      | (cases entered
         refine ⟨rfl, rfl, _, rfl, rfl, rfl, ?_⟩
         simp_all [Section.isLoop])
      | simp at entered

theorem Held.of_entry
    (held : Held system)
    (entered : entry index first system.shared = some outcome) :
    Held (system.commit index outcome []) := by
  obtain ⟨shared, resumes, entering, next, noLoad, noClose, isLoop⟩ :=
    entry_effect entered
  have ran : Ran system index [] outcome :=
    ⟨held, by simp, resumes, by simpa [next], by simp [next]⟩
  exact ran.after_same (congrArg Files.holder shared) (congrArg Files.fd shared)
    (by simp [next, noLoad, noClose]) (shared ▸ held.separated)

theorem held_step
    (held : Held system)
    (unloaded : ClosesUnloaded system move)
    (taken : step bufferSize system move = some next) :
    Held next := by
  cases step_cases taken with
  | ran index answer first rest outcome stack executed =>
    obtain ⟨effect, resumes⟩ := exec_effect executed
    obtain ⟨loop, single⟩ := exec_isLoop executed
    have own := held.loop index first (by simp [stack])
    refine Held.of_effect ⟨held, by simp_all, resumes, fun pending new => loop pending new ▸ own,
      fun isZero => ?_⟩ stack ?_ effect
    · subst isZero
      rw [held.alone stack, List.append_nil]
      exact single (own.mpr rfl)
    intro c number isClosing other pending present
    refine unloaded c ?_ other pending present number
    cases first with
    | closeDescriptor d closed =>
      simp only [Section.closing, Option.some.injEq, Prod.mk.injEq] at isClosing
      simp [closesNumberOf, stack, isClosing.1]
    | _ => simp [Section.closing] at isClosing
  | started index first outcome idle entered => exact held.of_entry entered
  | acted event shared acted =>
    cases event with
    | _ =>
      cases acted
      exact ⟨held.field, fun index pending present =>
        { held.owns index pending present with }, held.loop, held.single, held.separated⟩

/-! ## Separation -/

/-- In every run in which no number is closed while a worker of its connection
is between the two steps of a read, every read is made on a descriptor of the
worker's own connection, and every byte passed to `OnData` or
`OnPriorityData` was sent by the connection's own peer. -/
theorem reads_are_separated
    (bufferSize : Nat)
    (moves : List SystemMove)
    {system : System}
    (unloaded : Transition.Meets (step bufferSize) ClosesUnloaded initial moves)
    (reached : Transition.run (step bufferSize) initial moves = some system) :
    Separated system.shared :=
  (Transition.run_invariant_of_meets (fun _ _ _ held meets taken => held_step held meets taken)
    held_initial unloaded reached).separated

/-- The worker of connection `0` reads a byte, the loop closes the connection
and its number is handed to connection `1`, whose worker reads. -/
def separateMoves : List SystemMove :=
  [.start 0 .acceptConnections, .run 0 { descriptor := 5 },
    .env (.send 0 [1]),
    .start 1 (.process 0), .run 1 { evIn := true }, .run 1 {},
    .run 1 { sys := .took 1 },
    .start 0 (.closeConnection 0), .run 0 {}, .run 0 {}, .run 0 {},
    .start 0 .connectSocket, .run 0 { descriptor := 5 },
    .env (.send 1 [2]),
    .start 2 (.process 1), .run 2 { evIn := true }, .run 2 {},
    .run 2 { sys := .took 1 }]

/-- The loop closes a number while every worker is idle. -/
theorem closesUnloaded_of_idle
    (loop : (system.goroutine 0).stack = [.closeDescriptor c number])
    (idle : ∀ index, (system.goroutine (index + 1)).stack = []) :
    ClosesUnloaded system (.run 0 answer) := by
  intro _ _ other pending present _
  cases other with
  | zero =>
    rw [loop, List.mem_singleton] at present
    simp [present, Section.loaded]
  | succ index => simp [idle index] at present

theorem separateMoves_unloaded :
    Transition.Meets (step 16) ClosesUnloaded initial separateMoves := by
  have other {system : System} {index : Nat} {answer : Answer}
      (closesNone : closesNumberOf system index = none) :
      ClosesUnloaded system (.run index answer) := by
    intro c closes
    rw [closesNone] at closes
    simp at closes
  have allIdle {system : System} (first : (system.goroutine 1).stack = [])
      (others : ∀ index, (system.goroutine (index + 2)).stack = [])
      (index : Nat) :
      (system.goroutine (index + 1)).stack = [] := by
    cases index with
    | zero => exact first
    | succ index => exact others index
  repeat
    first
      | refine Transition.meets_cons trivial rfl ?_
      | refine Transition.meets_cons (other rfl) rfl ?_
      | refine Transition.meets_cons
          (closesUnloaded_of_idle rfl (allIdle rfl fun _ => rfl)) rfl ?_
  trivial

theorem reads_are_separated_sample :
    ∃ system, Transition.run (step 16) initial separateMoves = some system ∧
      system.shared.delivered = [⟨0, 0, [1]⟩, ⟨1, 1, [2]⟩] ∧
      Separated system.shared := by
  refine ⟨_, rfl, rfl, ?_⟩
  exact reads_are_separated 16 separateMoves separateMoves_unloaded rfl

/-- The worker of connection `0` loads its descriptor, the loop closes the
connection and accepts connection `1` under the same number, and the worker
reads. -/
def crossingMoves : List SystemMove :=
  [.start 0 .acceptConnections, .run 0 { descriptor := 5 },
    .start 1 (.process 0), .run 1 { evIn := true }, .run 1 {},
    .start 0 (.closeConnection 0), .run 0 {}, .run 0 {}, .run 0 {},
    .start 0 .acceptConnections, .run 0 { descriptor := 5 },
    .env (.send 1 [1, 2, 3]),
    .run 1 { sys := .took 3 }]

theorem worker_reads_another_connection :
    ∃ system, Transition.run (step 16) initial crossingMoves = some system ∧
      system.shared.delivered = [⟨0, 1, [1, 2, 3]⟩] ∧
      ¬ Separated system.shared := by
  refine ⟨_, rfl, rfl, by decide⟩

end Descriptor
end Engine
end Fib
