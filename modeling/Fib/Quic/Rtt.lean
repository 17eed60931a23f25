import Fib.Library.Transition
import Fib.Quic.Packet

/-!
# The round trip time

Every acknowledgement of the newest packet gives a sample of the round trip
time, less the delay that the peer reports.  Durations are nanoseconds in 64
bits with a sign, and the delay is scaled by the peer's exponent before anything
bounds it: a delay that does not fit turns negative, or moves the smoothed time
out of the range of the samples.
-/

namespace Fib
namespace Quic
namespace Rtt

/-- A number in the 64 bits of a duration. -/
def duration (number : Int) : Int :=
  number.bmod (2 ^ 64)

def initialRTT : Int := 333000000

structure RttStats where
  latest : Int := 0
  smoothed : Int := initialRTT
  rttvar : Int := initialRTT.tdiv 2
  min : Int := 0
  hasSample : Bool := false

def RttStats.update
    (r : RttStats)
    (latest ackDelay : Int) : RttStats :=
  if !r.hasSample then
    { latest, smoothed := latest, rttvar := latest.tdiv 2, min := latest, hasSample := true }
  else
    let least := if r.min ≤ latest then r.min else latest
    let adjusted :=
      if duration (least + ackDelay) ≤ latest then duration (latest - ackDelay) else latest
    let diff := duration (r.smoothed - adjusted)
    let diff := if diff < 0 then duration (-diff) else diff
    { r with
      latest
      min := least
      rttvar := (duration (duration (3 * r.rttvar) + diff)).tdiv 4
      smoothed := (duration (duration (7 * r.smoothed) + adjusted)).tdiv 8 }

/-- What the peer's transport parameters say of its acknowledgements. -/
structure TransportParams where
  ackDelayExponent : Nat
  maxAckDelay : Int
  exponent_le : ackDelayExponent ≤ 20
  maxAckDelay_nonneg : 0 ≤ maxAckDelay

/-- A call of `update`, with the bound on the delay once the handshake is
confirmed. -/
structure Update where
  latest : Int
  ackDelay : Int
  bound : Option Int

structure Conn where
  rtt : RttStats := {}
  peerParams : Option TransportParams := none
  handshakeConfirmed : Bool := false
  /-- The calls of `update` so far. -/
  updates : List Update := []

namespace Conn

variable (conn : Conn)

def peerMaxAckDelay : Int :=
  (conn.peerParams.map TransportParams.maxAckDelay).getD 25000000

def exponent : Nat :=
  (conn.peerParams.map TransportParams.ackDelayExponent).getD 3

/-- The delay that `handleAckFrame` reads from the field of an ACK frame. -/
def frameDelay (delay : Nat) : Int :=
  duration (duration (delay * 2 ^ conn.exponent % 2 ^ 64 : Nat) * 1000)

/-- The delay that `onAckReceived` passes on. -/
def ackDelay
    (space : Space)
    (delay : Nat) : Int :=
  if space = .initial then 0
  else if conn.handshakeConfirmed then min (conn.frameDelay delay) conn.peerMaxAckDelay
  else conn.frameDelay delay

/-- An ACK frame that gives a sample. -/
def onAck
    (space : Space)
    (delay : Nat)
    (latest : Int) : Conn :=
  let ackDelay := conn.ackDelay space delay
  { conn with
    rtt := conn.rtt.update latest ackDelay
    updates := ⟨latest, ackDelay,
      if conn.handshakeConfirmed then some conn.peerMaxAckDelay else none⟩ :: conn.updates }

end Conn

inductive Label
  | peerParams (params : TransportParams)
  | confirmHandshake
  /-- An ACK frame with its delay field, and the sample if it gives one. -/
  | ack (space : Space) (delay : Nat) (latest : Option Int)

def step (conn : Conn) : Label -> Option Conn
  | .peerParams params => some { conn with peerParams := some params }
  | .confirmHandshake => some { conn with handshakeConfirmed := true }
  | .ack _ _ none => some conn
  | .ack space delay (some latest) => some (conn.onAck space delay latest)

/-- Samples are below 36 years, and the delay that is reported with one leaves
room for it in 64 bits. -/
def InRange (conn : Conn) : Label -> Prop
  | .ack _ delay (some latest) => 0 ≤ latest ∧ latest < 2 ^ 60 ∧
    delay * 2 ^ conn.exponent * 1000 ≤ 2 ^ 63 - 2 ^ 60
  | _ => True

instance (conn : Conn) (label : Label) : Decidable (InRange conn label) := by
  unfold InRange
  split <;> infer_instance

theorem duration_eq
    (low : -2 ^ 63 ≤ number)
    (high : number < 2 ^ 63) :
    duration number = number :=
  Int.bmod_eq_of_le (by omega) (by omega)

/-- The statistics after samples of which `largest` is the largest. -/
structure Within
    (r : RttStats)
    (largest : Int) : Prop where
  hasSample : r.hasSample = true
  min_nonneg : 0 ≤ r.min
  min_le : r.min ≤ r.smoothed
  smoothed_le : r.smoothed ≤ largest
  rttvar_nonneg : 0 ≤ r.rttvar
  rttvar_le : r.rttvar ≤ largest
  small : largest < 2 ^ 60

theorem within_first
    {r : RttStats}
    (first : r.hasSample = false)
    (nonneg : 0 ≤ latest)
    (small : latest < 2 ^ 60)
    (ackDelay : Int) :
    Within (r.update latest ackDelay) latest := by
  rw [RttStats.update, first]
  have half := Int.tdiv_eq_ediv_of_nonneg nonneg (b := 2)
  refine ⟨rfl, nonneg, le_rfl, le_rfl, ?_, ?_, small⟩
  · change 0 ≤ latest.tdiv 2
    omega
  · change latest.tdiv 2 ≤ latest
    omega

/-- A sample with a delay that leaves room for it keeps the statistics in the
range of the samples. -/
theorem Within.update
    (within : Within r largest)
    (nonneg : 0 ≤ latest)
    (small : latest < 2 ^ 60)
    (delayed : 0 ≤ ackDelay)
    (room : ackDelay ≤ 2 ^ 63 - 2 ^ 60) :
    Within (r.update latest ackDelay) (max largest latest) := by
  obtain ⟨hasSample, min_nonneg, min_le, smoothed_le, rttvar_nonneg, rttvar_le, bound⟩ := within
  simp only [RttStats.update, hasSample, Bool.not_true, Bool.false_eq_true, if_false]
  -- Once the delay is taken off, the sample is still not below the least.
  obtain ⟨least, isLeast⟩ : ∃ least, least = if r.min ≤ latest then r.min else latest := ⟨_, rfl⟩
  have leastFacts : 0 ≤ least ∧ least ≤ latest ∧ least ≤ r.min := by
    split at isLeast
    · omega
    · omega
  rw [← isLeast, duration_eq (by omega : -2 ^ 63 ≤ least + ackDelay) (by omega),
    duration_eq (by omega : -2 ^ 63 ≤ latest - ackDelay) (by omega)]
  obtain ⟨adjusted, isAdjusted⟩ : ∃ adjusted, adjusted =
    if least + ackDelay ≤ latest then latest - ackDelay else latest := ⟨_, rfl⟩
  have adjustedFacts : least ≤ adjusted ∧ adjusted ≤ latest := by
    split at isAdjusted
    · omega
    · omega
  rw [← isAdjusted, duration_eq (by omega : -2 ^ 63 ≤ r.smoothed - adjusted) (by omega),
    duration_eq (by omega : -2 ^ 63 ≤ -(r.smoothed - adjusted)) (by omega)]
  obtain ⟨diff, isDiff⟩ : ∃ diff, diff = if r.smoothed - adjusted < 0 then
    -(r.smoothed - adjusted) else r.smoothed - adjusted := ⟨_, rfl⟩
  rw [← isDiff, duration_eq (by omega : -2 ^ 63 ≤ 3 * r.rttvar) (by omega),
    duration_eq (by omega : -2 ^ 63 ≤ 7 * r.smoothed) (by omega),
    duration_eq (by omega : -2 ^ 63 ≤ 3 * r.rttvar + diff) (by omega),
    duration_eq (by omega : -2 ^ 63 ≤ 7 * r.smoothed + adjusted) (by omega),
    Int.tdiv_eq_ediv_of_nonneg (by omega : 0 ≤ 3 * r.rttvar + diff),
    Int.tdiv_eq_ediv_of_nonneg (by omega : 0 ≤ 7 * r.smoothed + adjusted)]
  refine ⟨rfl, ?_, ?_, ?_, ?_, ?_, by omega⟩
  all_goals
    dsimp only
    omega

/-- The delays passed on are bounded, and the statistics are in the range of the
samples. -/
structure Sound (conn : Conn) : Prop where
  delays : ∀ update ∈ conn.updates, 0 ≤ update.ackDelay ∧
    ∀ bound ∈ update.bound, update.ackDelay ≤ bound
  fresh : conn.updates = [] -> conn.rtt.hasSample = false
  within : conn.updates ≠ [] -> ∃ update ∈ conn.updates, Within conn.rtt update.latest

theorem ackDelay_bounds
    (conn : Conn)
    (space : Space)
    (room : delay * 2 ^ conn.exponent * 1000 ≤ 2 ^ 63 - 2 ^ 60) :
    0 ≤ conn.ackDelay space delay ∧ conn.ackDelay space delay ≤ 2 ^ 63 - 2 ^ 60 ∧
      (conn.handshakeConfirmed = true -> conn.ackDelay space delay ≤ conn.peerMaxAckDelay) := by
  have bound : 0 ≤ conn.peerMaxAckDelay := by
    unfold Conn.peerMaxAckDelay
    cases conn.peerParams with
    | none => decide
    | some params => exact params.maxAckDelay_nonneg
  have read : conn.frameDelay delay = (delay * 2 ^ conn.exponent * 1000 : Nat) := by
    unfold Conn.frameDelay
    generalize delay * 2 ^ conn.exponent = scaled at room ⊢
    have fits : duration scaled = scaled := duration_eq (by omega) (by omega)
    rw [Nat.mod_eq_of_lt (by omega), duration_eq (by omega) (by omega)]
    omega
  unfold Conn.ackDelay
  split_ifs with initial confirmed
  · exact ⟨le_rfl, by decide, fun _ => bound⟩
  · omega
  · exact ⟨by omega, by omega, fun isConfirmed => absurd isConfirmed confirmed⟩

theorem Sound.onAck
    (sound : Sound conn)
    (space : Space)
    (nonneg : 0 ≤ latest)
    (small : latest < 2 ^ 60)
    (room : delay * 2 ^ conn.exponent * 1000 ≤ 2 ^ 63 - 2 ^ 60) :
    Sound (conn.onAck space delay latest) := by
  obtain ⟨delayed, fits, capped⟩ := ackDelay_bounds conn space room
  refine ⟨?_, nofun, fun _ => ?_⟩
  · rw [Conn.onAck, List.forall_mem_cons]
    refine ⟨⟨delayed, fun bound given => ?_⟩, sound.delays⟩
    split at given
    · next confirmed =>
      cases given
      exact capped confirmed
    · cases given
  rcases eq_or_ne conn.updates [] with none | some
  · exact ⟨_, List.mem_cons_self, within_first (sound.fresh none) nonneg small _⟩
  obtain ⟨update, present, within⟩ := sound.within some
  have next := within.update nonneg small delayed fits
  rcases le_total update.latest latest with larger | larger
  · rw [max_eq_right larger] at next
    exact ⟨_, List.mem_cons_self, next⟩
  · rw [max_eq_left larger] at next
    exact ⟨update, List.mem_cons_of_mem _ present, next⟩

/-- With delays that fit, the peer's acknowledgements keep the statistics in the
range of the samples. -/
theorem rtt_stays_in_range_of_samples
    (inRange : Transition.Meets step InRange {} labels)
    (reached : Transition.run step {} labels = some conn) :
    (∀ update ∈ conn.updates, 0 ≤ update.ackDelay ∧
        ∀ bound ∈ update.bound, update.ackDelay ≤ bound) ∧
      (conn.updates ≠ [] -> 0 ≤ conn.rtt.smoothed ∧ 0 ≤ conn.rtt.rttvar ∧
        conn.rtt.min ≤ conn.rtt.smoothed ∧
        ∃ update ∈ conn.updates, conn.rtt.smoothed ≤ update.latest) := by
  have sound : Sound conn := by
    refine Transition.run_invariant_of_meets (fun before label after sound fits taken => ?_)
      (⟨by simp, fun _ => rfl, by simp⟩ : Sound {}) inRange reached
    cases label with
    | ack space delay latest =>
      cases latest with
      | none => exact Option.some.inj taken ▸ sound
      | some latest => exact Option.some.inj taken ▸ sound.onAck space fits.1 fits.2.1 fits.2.2
    | peerParams params | confirmHandshake =>
      exact Option.some.inj taken ▸ ⟨sound.delays, sound.fresh, sound.within⟩
  refine ⟨sound.delays, fun some => ?_⟩
  obtain ⟨update, present, within⟩ := sound.within some
  exact ⟨within.min_nonneg.trans within.min_le, within.rttvar_nonneg, within.min_le, update,
    present, within.smoothed_le⟩

/-- Two samples of 100 ms, the second with a delay of 8 ms. -/
theorem rtt_stays_in_range_of_samples_delayed :
    ∃ conn, Transition.run step {} [.ack .handshake 0 (some 100000000),
        .ack .app 1000 (some 100000000)] = some conn ∧
      conn.updates ≠ [] ∧ 0 ≤ conn.rtt.smoothed :=
  ⟨_, rfl, nofun, ((@rtt_stays_in_range_of_samples
    [.ack .handshake 0 (some 100000000), .ack .app 1000 (some 100000000)] _
    (by decide) rfl).2 nofun).1⟩

/-- A confirmed handshake does not help: the second delay is negative, and so is
the smoothed time. -/
theorem peer_corrupts_rtt :
    ∃ conn, Transition.run step {} [.confirmHandshake, .ack .app 0 (some 100000000),
        .ack .app 1152921504606847 (some 100000000)] = some conn ∧
      (∃ update ∈ conn.updates, update.ackDelay < 0) ∧ conn.rtt.smoothed < 0 :=
  Transition.exists_run_of_any (by decide +kernel)

end Rtt
end Quic
end Fib
