import Mathlib.Algebra.Group.Nat.Defs
import Mathlib.Data.List.Nodup
import Mathlib.Logic.Function.Basic
import Fib.Library.Transition

/-!
# Event tokens

The lower half of a token is a descriptor.  The upper half says what the
descriptor was registered as, or numbers the connections.  The number is a
counter of 64 bits, of which the shift keeps the lower half only.
-/

namespace Fib
namespace Engine
namespace Tokens

/-- What is registered when the engine is opened. -/
inductive Kind where
  | listener
  | wake
  | udp
  deriving DecidableEq

/-- `listenerKind`, `wakeKind` and `udpKind`. -/
def Kind.high : Kind -> BitVec 64
  | .listener => 0
  | .wake => 1
  | .udp => 2

def firstGeneration : BitVec 64 := 3

/-- `uint64(uint32(fd)) | high<<32`. -/
def token
    (fd : BitVec 32)
    (high : BitVec 64) : BitVec 64 :=
  fd.setWidth 64 ||| high <<< 32

/-- The tokens of the connections in the descriptor table, and every token a
connection was given. -/
structure Loop where
  nextGeneration : BitVec 64 := firstGeneration
  connections : BitVec 32 -> Option (BitVec 64) := fun _ => none
  given : List (BitVec 64) := []

/-- What `acceptConnections` and a dial do with a new descriptor. -/
def Loop.connect
    (loop : Loop)
    (fd : BitVec 32) : Loop :=
  let generation := loop.nextGeneration + 1
  { nextGeneration := generation
    connections := Function.update loop.connections fd (some (token fd generation))
    given := token fd generation :: loop.given }

def Loop.detach
    (loop : Loop)
    (fd : BitVec 32) : Loop :=
  { loop with connections := Function.update loop.connections fd none }

inductive Move where
  /-- A connection is accepted or dialed.  One that cannot be registered is
  closed at once. -/
  | connect (fd : BitVec 32)
  | detach (fd : BitVec 32)

/-- Where `Run` takes an event. -/
inductive Routed where
  | acceptConnections (fd : BitVec 32)
  | drainCommands
  | readUDPListener (fd : BitVec 32)
  | connection (token : BitVec 64)
  | nothing

def Kind.routed (fd : BitVec 32) : Kind -> Routed
  | .listener => .acceptConnections fd
  | .wake => .drainCommands
  | .udp => .readUDPListener fd

variable (kinds : BitVec 32 -> Option Kind)

/-- The system hands out no descriptor that is in use. -/
def step (loop : Loop) : Move -> Option Loop
  | .connect fd =>
    if kinds fd = none ∧ loop.connections fd = none then some (loop.connect fd) else none
  | .detach fd => some (loop.detach fd)

/-- The dispatch in `Run`, with `udpListenerAt` and `connectionFor`. -/
def route
    (loop : Loop)
    (token : BitVec 64) : Routed :=
  let fd := token.setWidth 32
  if token >>> 32 = Kind.listener.high then .acceptConnections fd
  else if token >>> 32 = Kind.wake.high then .drainCommands
  else if token >>> 32 = Kind.udp.high then
    if kinds fd = some .udp then .readUDPListener fd else .nothing
  else if loop.connections fd = some token then .connection token
  else .nothing

/-- The generation has not outgrown its half of a token. -/
def Fits (loop : Loop) : Move -> Prop
  | .connect _ => loop.nextGeneration.toNat + 1 < 2 ^ 32
  | .detach _ => True

instance (loop : Loop) (move : Move) : Decidable (Fits loop move) :=
  match move with
  | .connect _ => inferInstanceAs (Decidable (_ < _))
  | .detach _ => .isTrue trivial

/-- The connections are numbered on, above the kinds. -/
structure Sound (loop : Loop) : Prop where
  first : 3 ≤ loop.nextGeneration.toNat
  numbered : ∀ token ∈ loop.given,
    3 < (token >>> 32).toNat ∧ (token >>> 32).toNat ≤ loop.nextGeneration.toNat
  nodup : loop.given.Nodup
  tracked : ∀ fd token, loop.connections fd = some token ->
    token ∈ loop.given ∧ token.setWidth 32 = fd

variable {kinds}

@[simp] theorem setWidth_token
    (fd : BitVec 32)
    (high : BitVec 64) :
    (token fd high).setWidth 32 = fd := by
  ext i
  simp [token]

theorem token_shift
    (fd : BitVec 32)
    (high : BitVec 64) :
    token fd high >>> 32 = (high.setWidth 32).setWidth 64 := by
  ext i
  simp [token]
  grind

theorem Sound.step
    (sound : Sound loop)
    (fits : Fits loop move)
    (taken : step kinds loop move = some next) :
    Sound next := by
  cases move with
  | connect fd =>
    simp only [Tokens.step, Option.ite_none_right_eq_some, Option.some.injEq] at taken
    obtain ⟨-, rfl⟩ := taken
    simp only [Fits] at fits
    have first := sound.first
    have grown : (loop.nextGeneration + 1).toNat = loop.nextGeneration.toNat + 1 := by
      rw [BitVec.toNat_add_of_lt] <;> simp; omega
    have high : (token fd (loop.nextGeneration + 1) >>> 32).toNat =
        loop.nextGeneration.toNat + 1 := by
      simp only [token_shift, BitVec.toNat_setWidth, grown]
      omega
    unfold Loop.connect
    refine ⟨by simp only [grown]; omega, ?_, ?_, fun other known found => ?_⟩
    · simp only [List.forall_mem_cons, grown, high]
      exact ⟨by omega, fun known present => (sound.numbered known present).imp_right (by omega)⟩
    · refine List.nodup_cons.mpr ⟨fun again => ?_, sound.nodup⟩
      have := (sound.numbered _ again).2
      omega
    · by_cases same : other = fd
      · subst same
        obtain rfl : token other _ = known := by simpa using found
        simp
      · exact (sound.tracked other known (by simpa [same] using found)).imp_left (.tail _)
  | detach fd =>
    cases taken
    refine ⟨sound.first, sound.numbered, sound.nodup, fun other known found => ?_⟩
    by_cases same : other = fd
    · simp [Loop.detach, same] at found
    · exact sound.tracked other known (by simpa [Loop.detach, same] using found)

/-- While the generation fits in its half of a token, no two connections have
one token, and no connection has a token of another kind.  An event goes where
its descriptor was registered, and one of a closed connection goes nowhere. -/
theorem event_tokens_identify_connections
    (kinds : BitVec 32 -> Option Kind)
    (moves : List Move)
    (loop : Loop)
    (fits : Transition.Meets (step kinds) Fits {} moves)
    (reached : Transition.run (step kinds) {} moves = some loop) :
    loop.given.Nodup ∧
      (∀ known ∈ loop.given, ∀ fd (kind : Kind), known ≠ token fd kind.high) ∧
      (∀ fd kind, kinds fd = some kind -> route kinds loop (token fd kind.high) = kind.routed fd) ∧
      (∀ fd known, loop.connections fd = some known ->
        route kinds loop known = .connection known) ∧
      ∀ known ∈ loop.given, (∀ fd, loop.connections fd ≠ some known) ->
        route kinds loop known = .nothing := by
  have sound : Sound loop :=
    Transition.run_invariant_of_meets (fun _ _ _ sound fits taken => sound.step fits taken)
      ⟨by decide, by simp, by simp, by simp⟩ fits reached
  have unlike {known : BitVec 64} (present : known ∈ loop.given) (kind : Kind) :
      known >>> 32 ≠ kind.high := by
    intro same
    have high := (sound.numbered known present).1
    rw [same] at high
    cases kind <;> simp [Kind.high] at high
  refine ⟨sound.nodup, fun known present fd kind same => ?_, fun fd kind registered => ?_,
    fun fd known found => ?_, fun known present gone => ?_⟩
  · refine unlike present kind ?_
    rw [same, token_shift]
    cases kind <;> rfl
  · cases kind <;> simp [route, token_shift, registered, Kind.high, Kind.routed]
  · obtain ⟨present, rfl⟩ := sound.tracked fd known found
    simp [route, unlike present, found]
  · simp [route, unlike present, gone]

/-- The descriptor of a closed connection is taken by a second one; an event of
the first, which comes late, goes nowhere. -/
theorem event_tokens_identify_connections_stale :
    ∃ loop, Transition.run (step fun _ => none) {} [.connect 5, .detach 5, .connect 5] =
        some loop ∧
      loop.given = [token 5 5, token 5 4] ∧
      route (fun _ => none) loop (token 5 5) = .connection (token 5 5) ∧
      route (fun _ => none) loop (token 5 4) = .nothing := by
  have identified := event_tokens_identify_connections (fun _ => none)
    [.connect 5, .detach 5, .connect 5] _ (by decide) rfl
  refine ⟨_, rfl, rfl, identified.2.2.2.1 5 _ rfl,
    identified.2.2.2.2 _ (List.mem_cons_of_mem _ List.mem_cons_self) fun fd found => ?_⟩
  obtain rfl | other := eq_or_ne fd 5
  · exact absurd found (by decide)
  · simp only [Loop.connect, Loop.detach, Function.update_of_ne other] at found
    cases found

/-- Connections come and go on one descriptor. -/
theorem connect_again
    (count : Nat)
    (loop : Loop)
    (free : loop.connections fd = none) :
    ∃ moves next, Transition.run (step fun _ => none) loop moves = some next ∧
      next.connections fd =
        some (token fd (loop.nextGeneration + 1 + BitVec.ofNat 64 count)) := by
  induction count generalizing loop with
  | zero =>
    refine ⟨[.connect fd], loop.connect fd, ?_, ?_⟩
    · simp [Transition.run, step, free]
    · simp [Loop.connect]
  | succ count ih =>
    obtain ⟨moves, next, reached, last⟩ := ih ((loop.connect fd).detach fd) (by simp [Loop.detach])
    refine ⟨.connect fd :: .detach fd :: moves, next, ?_, ?_⟩
    · simpa [Transition.run, step, free] using reached
    · rw [last, BitVec.ofNat_add, BitVec.add_comm (BitVec.ofNat ..), ← BitVec.add_assoc]
      rfl

/-- The connection with the generation 2^32 has the token of a listener on its
descriptor, and its events are taken for connections to accept. -/
theorem connection_has_listener_token :
    ∃ moves loop, Transition.run (step fun _ => none) {} moves = some loop ∧
      loop.connections 5 = some (token 5 Kind.listener.high) ∧
      route (fun _ => none) loop (token 5 Kind.listener.high) = .acceptConnections 5 := by
  obtain ⟨moves, loop, reached, last⟩ := @connect_again 5 (2 ^ 32 - 4) {} rfl
  exact ⟨moves, loop, reached, last, rfl⟩

end Tokens
end Engine
end Fib
