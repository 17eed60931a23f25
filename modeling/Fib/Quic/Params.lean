import Fib.Library.Varint
import Fib.Quic.Rtt

/-!
# Transport parameters

What one side encodes the other side reads back, and what is read is within
bounds.  The peer's idle timeout is a number of milliseconds that becomes a
duration before it is compared with the connection's own.  A number that does
not fit a duration wraps, and may leave a connection with next to no time at
all.
-/

namespace Fib
namespace Quic

open Rtt (duration duration_eq)

/-- `transportParams`; what has a flag beside it is an option. -/
structure TransportParams where
  originalDCID : Option Bytes := none
  initialSCID : Option Bytes := none
  retrySCID : Option Bytes := none
  statelessResetToken : Option Bytes := none
  maxIdleTimeout : Int := 0
  maxUDPPayloadSize : Nat := 65527
  initialMaxData : Nat := 0
  maxStreamDataBidiL : Nat := 0
  maxStreamDataBidiR : Nat := 0
  maxStreamDataUni : Nat := 0
  maxStreamsBidi : Nat := 0
  maxStreamsUni : Nat := 0
  ackDelayExponent : Nat := 3
  maxAckDelay : Int := 25000000
  disableMigration : Bool := false
  activeCIDLimit : Nat := 2

/-- A parameter that is an integer and nothing else, if it is allowed. -/
def intValue
    (v : Bytes)
    (allowed : Nat -> Bool) : Option Nat :=
  (Varint.read v).bind fun (n, size) => if size = v.length ∧ allowed n then some n else none

def milliseconds (ms : Nat) : Int :=
  duration (duration ms * 1000000)

namespace TransportParams

/-- The switch of `parseParams`; nothing stands for a parameter that is invalid. -/
def set
    (p : TransportParams)
    (id : Nat)
    (v : Bytes) : Option TransportParams :=
  let int (allowed : Nat -> Bool) (store : Nat -> TransportParams) := (intValue v allowed).map store
  let any : Nat -> Bool := fun _ => true
  match id with
  | 0x00 => some { p with originalDCID := some v }
  | 0x01 => int any ({ p with maxIdleTimeout := milliseconds · })
  | 0x02 => if v.length = 16 then some { p with statelessResetToken := some v } else none
  | 0x03 => int (1200 ≤ ·) ({ p with maxUDPPayloadSize := · })
  | 0x04 => int any ({ p with initialMaxData := · })
  | 0x05 => int any ({ p with maxStreamDataBidiL := · })
  | 0x06 => int any ({ p with maxStreamDataBidiR := · })
  | 0x07 => int any ({ p with maxStreamDataUni := · })
  | 0x08 => int (· ≤ 2 ^ 60) ({ p with maxStreamsBidi := · })
  | 0x09 => int (· ≤ 2 ^ 60) ({ p with maxStreamsUni := · })
  | 0x0a => int (· ≤ 20) ({ p with ackDelayExponent := · })
  | 0x0b => int (· < 2 ^ 14) ({ p with maxAckDelay := milliseconds · })
  | 0x0c => if v = [] then some { p with disableMigration := true } else none
  | 0x0e => int (2 ≤ ·) ({ p with activeCIDLimit := · })
  | 0x0f => some { p with initialSCID := some v }
  | 0x10 => some { p with retrySCID := some v }
  | _ => some p

def setAll
    (p : TransportParams)
    (params : List (Nat × Bytes)) : Option TransportParams :=
  params.foldlM (fun p param => p.set param.1 param.2) p

end TransportParams

/-- A parameter and what follows it. -/
def readParam (b : Bytes) : Option (Nat × Bytes × Bytes) := do
  let (id, size) <- Varint.read b
  let (length, more) <- Varint.read (b.drop size)
  let rest := b.drop (size + more)
  if rest.length < length then none else some (id, rest.take length, rest.drop length)

/-- The loop of `parseParams`; every parameter takes a byte, so as much fuel as there are bytes is
enough. -/
def parseLoop (isClient : Bool) :
    Nat -> Bytes -> List Nat -> TransportParams -> Except String TransportParams
  | 0, _, _, p => .ok p
  | fuel + 1, b, seen, p =>
    if b = [] then .ok p
    else
      match readParam b with
      | none => .error "truncated transport parameters"
      | some (id, v, rest) =>
        if id ∈ seen then .error "duplicate transport parameter"
        else
          match p.set id v with
          | none => .error "invalid transport parameter"
          | some p =>
            if id ∈ [0x00, 0x02, 0x0d, 0x10] ∧ !isClient then
              .error "server-only transport parameter from a client"
            else parseLoop isClient fuel rest (id :: seen) p

def parseParams
    (b : Bytes)
    (isClient : Bool) : Except String TransportParams :=
  parseLoop isClient b.length b [] {}

/-- The parameters in bytes. -/
def readParams : Nat -> Bytes -> Option (List (Nat × Bytes))
  | 0, _ => some []
  | fuel + 1, b =>
    if b = [] then some []
    else (readParam b).bind fun (id, v, rest) => (readParams fuel rest).map ((id, v) :: ·)

theorem length_of_readParam
    {id : Nat}
    {v rest : Bytes}
    (isRead : readParam b = some (id, v, rest)) :
    rest.length < b.length := by
  obtain ⟨⟨_, size⟩, first, isRead⟩ := Option.bind_eq_some_iff.mp isRead
  obtain ⟨⟨length, more⟩, -, isRead⟩ := Option.bind_eq_some_iff.mp isRead
  obtain ⟨-, same⟩ := Option.ite_none_left_eq_some.mp isRead
  obtain ⟨-, -, rfl⟩ := Prod.mk.injEq .. ▸ Option.some.inj same
  have positive := Varint.read_eq_some first
  simp only [List.length_drop]
  omega

/-- As much fuel as there are bytes is enough for every block: more of it
changes nothing. -/
theorem parseLoop_fuel
    {p : TransportParams}
    (enough : b.length ≤ fuel)
    (more : b.length ≤ fuel') :
    parseLoop isClient fuel b seen p = parseLoop isClient fuel' b seen p := by
  induction fuel generalizing fuel' b seen p with
  | zero =>
    obtain rfl := List.eq_nil_of_length_eq_zero (Nat.le_zero.mp enough)
    cases fuel' <;> rfl
  | succ fuel ih =>
    cases fuel' with
    | zero =>
      obtain rfl := List.eq_nil_of_length_eq_zero (Nat.le_zero.mp more)
      rfl
    | succ fuel' =>
      rw [parseLoop, parseLoop]
      cases isRead : readParam b with
      | none => rfl
      | some param =>
        obtain ⟨id, v, rest⟩ := param
        have shorter := length_of_readParam isRead
        have same (seen p) : parseLoop isClient fuel rest seen p =
            parseLoop isClient fuel' rest seen p := ih (by omega) (by omega)
        simp only [same]

theorem readParams_fuel
    (enough : b.length ≤ fuel)
    (more : b.length ≤ fuel') :
    readParams fuel b = readParams fuel' b := by
  induction fuel generalizing fuel' b with
  | zero =>
    obtain rfl := List.eq_nil_of_length_eq_zero (Nat.le_zero.mp enough)
    cases fuel' <;> rfl
  | succ fuel ih =>
    cases fuel' with
    | zero =>
      obtain rfl := List.eq_nil_of_length_eq_zero (Nat.le_zero.mp more)
      rfl
    | succ fuel' =>
      rw [readParams, readParams]
      cases isRead : readParam b with
      | none => rfl
      | some param =>
        obtain ⟨id, v, rest⟩ := param
        have shorter := length_of_readParam isRead
        have same : readParams fuel rest = readParams fuel' rest :=
          ih (by omega) (by omega)
        simp only [Option.bind_some, same]

/-- No parameter came twice, and none that only a server may send came from a
client. -/
def Allowed
    (isClient : Bool)
    (params : List (Nat × Bytes)) : Prop :=
  (params.map Prod.fst).Nodup ∧
    ∀ param ∈ params, param.1 ∈ [0x00, 0x02, 0x0d, 0x10] -> isClient = true

theorem parseLoop_eq_ok {p q : TransportParams} :
    parseLoop isClient fuel b seen p = .ok q ↔
      ∃ params, readParams fuel b = some params ∧ Allowed isClient params ∧
        (∀ param ∈ params, param.1 ∉ seen) ∧
        p.setAll params = some q := by
  unfold TransportParams.setAll
  induction fuel generalizing b seen p with
  | zero => simp [parseLoop, readParams, Allowed]
  | succ fuel ih =>
    rw [parseLoop, readParams]
    split
    · simp [Allowed]
    cases readParam b with
    | none => simp
    | some param =>
      obtain ⟨id, v, rest⟩ := param
      simp only [Option.bind_some, Option.map_eq_some_iff]
      cases stored : p.set id v with
      | none =>
        simp [stored]
        grind
      | some next =>
        simp [stored, Allowed] at ih ⊢
        grind

/-! ## The idle timeout -/

/-- What `handlePeerParams` reads of a connection, and what it sets. -/
structure ParamConn where
  isClient : Bool
  dcid : Bytes
  odcid : Bytes
  retrySCID : Option Bytes := none
  idleTimeout : Int
  peerParams : Option TransportParams := none

def ParamConn.handlePeerParams
    (conn : ParamConn)
    (data : Bytes) : Except String ParamConn :=
  (parseParams data conn.isClient).bind fun p =>
    if p.initialSCID ≠ some conn.dcid then .error "initial_source_connection_id does not match"
    else if conn.isClient ∧ p.originalDCID ≠ some conn.odcid then
      .error "original_destination_connection_id does not match"
    else if conn.isClient ∧ p.retrySCID ≠ conn.retrySCID then
      .error "retry_source_connection_id does not match"
    else
      .ok { conn with
        peerParams := some p
        idleTimeout :=
          if 0 < p.maxIdleTimeout ∧ p.maxIdleTimeout < conn.idleTimeout then p.maxIdleTimeout
          else conn.idleTimeout }

/-- The idle timeout among parameters, in milliseconds. -/
def sentIdleTimeout (b : Bytes) : Option Nat := do
  let v <- (<- readParams b.length b).lookup 0x01
  intValue v fun _ => true

theorem TransportParams.set_maxIdleTimeout
    {p q : TransportParams}
    {id : Nat}
    (other : id ≠ 0x01)
    (stored : p.set id v = some q) :
    q.maxIdleTimeout = p.maxIdleTimeout := by
  simp only [set] at stored
  split at stored
  all_goals
    simp only [Option.map_eq_some_iff, Option.ite_none_right_eq_some, Option.some.injEq] at stored
    grind

theorem setAll_maxIdleTimeout
    {params : List (Nat × Bytes)}
    {p q : TransportParams}
    (distinct : (params.map Prod.fst).Nodup)
    (stored : p.setAll params = some q) :
    (params.lookup 0x01 = none ∧ q.maxIdleTimeout = p.maxIdleTimeout) ∨
      ∃ v ms, params.lookup 0x01 = some v ∧ intValue v (fun _ => true) = some ms ∧
        q.maxIdleTimeout = milliseconds ms := by
  induction params generalizing p with
  | nil =>
    cases stored
    exact .inl ⟨rfl, rfl⟩
  | cons param params ih =>
    obtain ⟨id, v⟩ := param
    obtain ⟨next, first, rest⟩ := Option.bind_eq_some_iff.mp stored
    obtain ⟨fresh, later⟩ := List.nodup_cons.mp distinct
    by_cases idle : id = 0x01
    · subst idle
      obtain ⟨ms, isRead, rfl⟩ := Option.map_eq_some_iff.mp first
      rcases ih later rest with ⟨-, kept⟩ | ⟨_, _, again, -⟩
      · exact .inr ⟨v, ms, List.lookup_cons_self, isRead, by rw [kept]⟩
      · obtain ⟨_, _, rfl, -⟩ := List.lookup_eq_some_iff.mp again
        simp at fresh
    · rw [List.lookup_cons, beq_false_of_ne (Ne.symm idle),
        ← TransportParams.set_maxIdleTimeout idle first]
      exact ih later rest

theorem milliseconds_eq_iff :
    milliseconds ms = ms * 1000000 ↔ ms * 1000000 < 2 ^ 63 := by
  constructor
  · intro same
    rw [milliseconds, duration] at same
    have below : (duration ms * 1000000).bmod (2 ^ 64) < 2 ^ 63 := Int.bmod_lt (by decide)
    omega
  · intro fits
    have small : duration ms = ms := duration_eq (by omega) (by omega)
    rw [milliseconds, small, duration_eq (by omega) (by omega)]

/-- The peer's idle timeout is computed without wraparound, and is taken if it
is the smaller one and not zero, exactly if it fits a duration. -/
theorem idle_timeout_is_the_smaller
    {conn next : ParamConn}
    (sent : sentIdleTimeout data = some ms)
    (handled : conn.handlePeerParams data = .ok next) :
    (next.peerParams.map (·.maxIdleTimeout) = some (ms * 1000000 : Int) ∧
        next.idleTimeout =
          if 0 < ms then min conn.idleTimeout (ms * 1000000)
          else conn.idleTimeout) ↔
      ms * 1000000 < 2 ^ 63 := by
  unfold ParamConn.handlePeerParams at handled
  cases parsed : parseParams data conn.isClient with
  | error text =>
    rw [parsed] at handled
    cases handled
  | ok p =>
    rw [parsed] at handled
    obtain ⟨params, isRead, allowed, -, stored⟩ := parseLoop_eq_ok.mp parsed
    have read : p.maxIdleTimeout = milliseconds ms := by
      simp only [sentIdleTimeout, isRead] at sent
      rcases setAll_maxIdleTimeout allowed.1 stored with
        ⟨missing, -⟩ | ⟨v, _, found, isInt, set⟩
      · simp [missing] at sent
      · simp [found, isInt] at sent
        rw [set, sent]
    simp only [Except.bind, read] at handled
    repeat' split at handled
    all_goals cases handled
    all_goals
      rw [Option.map_some, Option.some.injEq, read, milliseconds_eq_iff,
        and_iff_left_iff_imp]
      intro fits
      have same := milliseconds_eq_iff.mpr fits
      dsimp only
      split <;> omega

/-- A server's connection to a client with an empty connection ID. -/
def ParamConn.server : ParamConn where
  isClient := false
  dcid := []
  odcid := []
  idleTimeout := 30000000000

theorem idle_timeout_is_the_smaller_second :
    ∃ next, ParamConn.server.handlePeerParams [0x0f, 0, 1, 2, 0x43, 0xe8] = .ok next ∧
      next.idleTimeout = 1000000000 :=
  ⟨_, rfl, ((@idle_timeout_is_the_smaller [0x0f, 0, 1, 2, 0x43, 0xe8] 1000 .server _
    (by decide) rfl).mpr (by decide)).2⟩

/-- An idle timeout of more than five hundred years leaves half a millisecond. -/
theorem long_idle_timeout_wraps :
    ∃ data next, sentIdleTimeout data = some 18446744073710 ∧
      ParamConn.server.handlePeerParams data = .ok next ∧ next.idleTimeout = 448384 :=
  ⟨[1, 8] ++ Varint.append 18446744073710 ++ [0x0f, 0], _, by decide, rfl, by decide⟩

/-! ## What is sent -/

/-- `appendParamBytes`. -/
def appendParam (param : Nat × Bytes) : Bytes :=
  Varint.append param.1 ++ Varint.append param.2.length ++ param.2

namespace TransportParams

/-- The parameters of `encode` in their order; nothing stands for one that is left out. -/
def fields (p : TransportParams) : List (Nat × Option Bytes) :=
  [(0x00, p.originalDCID),
    (0x01, if 0 < p.maxIdleTimeout then some (Varint.append (p.maxIdleTimeout / 1000000).toNat)
      else none),
    (0x02, p.statelessResetToken),
    (0x04, some (Varint.append p.initialMaxData)),
    (0x05, some (Varint.append p.maxStreamDataBidiL)),
    (0x06, some (Varint.append p.maxStreamDataBidiR)),
    (0x07, some (Varint.append p.maxStreamDataUni)),
    (0x08, some (Varint.append p.maxStreamsBidi)),
    (0x09, some (Varint.append p.maxStreamsUni)),
    (0x0c, if p.disableMigration then some [] else none),
    (0x0f, p.initialSCID),
    (0x10, p.retrySCID)]

def params (p : TransportParams) : List (Nat × Bytes) :=
  p.fields.filterMap fun (id, v) => v.map (id, ·)

def encode (p : TransportParams) : Bytes :=
  p.params.flatMap appendParam

/-- What `Dial` and `Accept` can build. -/
structure Built
    (isServer : Bool)
    (p : TransportParams) : Prop where
  defaults : p.maxUDPPayloadSize = 65527 ∧ p.ackDelayExponent = 3 ∧ p.maxAckDelay = 25000000 ∧
    p.activeCIDLimit = 2
  windows : p.initialMaxData < 2 ^ 62 ∧ p.maxStreamDataBidiL < 2 ^ 62 ∧
    p.maxStreamDataBidiR < 2 ^ 62 ∧ p.maxStreamDataUni < 2 ^ 62
  streams : p.maxStreamsBidi ≤ 2 ^ 60 ∧ p.maxStreamsUni ≤ 2 ^ 60
  idle : 0 ≤ p.maxIdleTimeout ∧ p.maxIdleTimeout < 2 ^ 63 ∧ p.maxIdleTimeout % 1000000 = 0
  ids : ∀ id ∈ [p.originalDCID, p.initialSCID, p.retrySCID], ∀ cid ∈ id, cid.length ≤ 20
  token : ∀ token ∈ p.statelessResetToken, token.length = 16
  server : isServer = false ->
    p.originalDCID = none ∧ p.statelessResetToken = none ∧ p.retrySCID = none

/-- The bounds that `parseParams` enforces. -/
structure Within (p : TransportParams) : Prop where
  payload : 1200 ≤ p.maxUDPPayloadSize
  streams : p.maxStreamsBidi ≤ 2 ^ 60 ∧ p.maxStreamsUni ≤ 2 ^ 60
  exponent : p.ackDelayExponent ≤ 20
  delay : 0 ≤ p.maxAckDelay ∧ p.maxAckDelay < 2 ^ 14 * 1000000
  limit : 2 ≤ p.activeCIDLimit

end TransportParams

theorem readParam_appendParam
    (id : param.1 < 2 ^ 62)
    (length : param.2.length < 2 ^ 62)
    (rest : Bytes) :
    readParam (appendParam param ++ rest) = some (param.1, param.2, rest) := by
  have first : Varint.read (appendParam param ++ rest) =
      some (param.1, (Varint.append param.1).length) := by
    rw [appendParam, List.append_assoc, List.append_assoc]
    exact Varint.read_append id _
  have second : Varint.read ((appendParam param ++ rest).drop (Varint.append param.1).length) =
      some (param.2.length, (Varint.append param.2.length).length) := by
    rw [appendParam, List.append_assoc, List.append_assoc, List.drop_left]
    exact Varint.read_append length _
  have value : (appendParam param ++ rest).drop ((Varint.append param.1).length +
      (Varint.append param.2.length).length) = param.2 ++ rest := by
    rw [appendParam, List.append_assoc, ← List.length_append, List.drop_left]
  simp only [readParam, first, second, Option.bind_eq_bind, Option.bind_some, value]
  rw [if_neg (by simp), List.take_left, List.drop_left]

theorem readParams_flatMap
    (params : List (Nat × Bytes))
    (small : ∀ param ∈ params, param.1 < 2 ^ 62 ∧ param.2.length < 2 ^ 62)
    (enough : (params.flatMap appendParam).length ≤ fuel) :
    readParams fuel (params.flatMap appendParam) = some params := by
  induction params generalizing fuel with
  | nil => cases fuel <;> rfl
  | cons param params ih =>
    rw [List.flatMap_cons, List.length_append] at enough
    have positive := (Varint.length_append param.1).1
    have nonempty : 0 < (appendParam param).length := by
      rw [appendParam, List.length_append, List.length_append]
      omega
    obtain ⟨fuel, rfl⟩ : ∃ less, fuel = less + 1 := ⟨fuel - 1, by omega⟩
    obtain ⟨⟨id, length⟩, later⟩ := List.forall_mem_cons.mp small
    rw [List.flatMap_cons, readParams, if_neg (by
      rw [List.append_eq_nil_iff, ← List.length_eq_zero_iff]
      omega), readParam_appendParam id length, Option.bind_some]
    dsimp only
    rw [ih later (by omega)]
    rfl

theorem intValue_append
    (small : n < 2 ^ 62)
    (fine : allowed n = true) :
    intValue (Varint.append n) allowed = some n := by
  have read := Varint.read_append small []
  rw [List.append_nil] at read
  simp [intValue, read, fine]

namespace TransportParams

variable {p : TransportParams} {isServer : Bool}

theorem Built.milliseconds (built : p.Built isServer) :
    milliseconds (p.maxIdleTimeout / 1000000).toNat = p.maxIdleTimeout := by
  obtain ⟨positive, fits, whole⟩ := built.idle
  have small : duration (p.maxIdleTimeout / 1000000).toNat = p.maxIdleTimeout / 1000000 := by
    rw [duration_eq] <;> omega
  rw [Quic.milliseconds, small, duration_eq] <;> omega

theorem forall_mem_params {property : Nat × Bytes -> Prop} :
    (∀ param ∈ p.params, property param) ↔
      ∀ field ∈ p.fields, ∀ v ∈ field.2, property (field.1, v) := by
  simp only [params, List.mem_filterMap, Option.map_eq_some_iff]
  constructor
  · intro all field present v stored
    exact all _ ⟨field, present, v, stored, rfl⟩
  · rintro all _ ⟨field, present, v, stored, rfl⟩
    exact all field present v stored

theorem Built.small (built : p.Built isServer) :
    ∀ param ∈ p.params, param.1 < 2 ^ 62 ∧ param.2.length < 2 ^ 62 := by
  have ids := built.ids
  have token := built.token
  have short (n : Nat) := (Varint.length_append n).2
  rw [forall_mem_params]
  simp only [fields, List.forall_mem_cons] at ids ⊢
  and_intros <;> grind

theorem Built.allowed
    (built : p.Built isServer) :
    Allowed isServer p.params := by
  constructor
  · simp [List.Nodup, List.pairwise_map, params, List.pairwise_filterMap, fields]
  · have server := built.server
    rw [forall_mem_params]
    simp [fields]
    grind

/-- The switch stores what was sent. -/
theorem Built.setAll_params (built : p.Built isServer) :
    setAll {} p.params = some p := by
  obtain ⟨payload, exponent, delay, limit⟩ := built.defaults
  obtain ⟨positive, fits, -⟩ := built.idle
  have token := built.token
  have value {n : Nat} (small : n < 2 ^ 62) := @intValue_append n (fun _ => true) small rfl
  have few {n : Nat} (small : n ≤ 2 ^ 60) :
      intValue (Varint.append n) (fun x => decide (x ≤ 2 ^ 60)) = some n :=
    intValue_append (by omega) (by simpa using small)
  let put (q : TransportParams) (field : Nat × Option Bytes) : Option TransportParams :=
    field.2.elim (some q) (q.set field.1)
  have puts : setAll {} p.params = p.fields.foldlM put {} := by
    rw [setAll, params, List.foldlM_filterMap]
    congr
    funext q field
    cases h : field.2 <;> simp [put, h]
  have original (q : TransportParams) : put q (0x00, p.originalDCID) =
      some { q with originalDCID := p.originalDCID.or q.originalDCID } := by
    cases p.originalDCID <;> rfl
  have idle (q : TransportParams) :
      put q (0x01, if 0 < p.maxIdleTimeout then
        some (Varint.append (p.maxIdleTimeout / 1000000).toNat) else none) =
        some { q with
          maxIdleTimeout := if 0 < p.maxIdleTimeout then p.maxIdleTimeout
            else q.maxIdleTimeout } := by
    split
    · simp [put, set, @value (p.maxIdleTimeout / 1000000).toNat (by omega), built.milliseconds]
    · rfl
  have reset (q : TransportParams) : put q (0x02, p.statelessResetToken) =
      some { q with
        statelessResetToken := p.statelessResetToken.or q.statelessResetToken } := by
    cases stored : p.statelessResetToken with
    | none => rfl
    | some bytes => simp [put, set, token bytes stored]
  have migration (q : TransportParams) :
      put q (0x0c, if p.disableMigration then some [] else none) =
        some { q with disableMigration := p.disableMigration || q.disableMigration } := by
    cases p.disableMigration <;> rfl
  have initial (q : TransportParams) : put q (0x0f, p.initialSCID) =
      some { q with initialSCID := p.initialSCID.or q.initialSCID } := by
    cases p.initialSCID <;> rfl
  have retry (q : TransportParams) : put q (0x10, p.retrySCID) =
      some { q with retrySCID := p.retrySCID.or q.retrySCID } := by
    cases p.retrySCID <;> rfl
  rw [puts]
  simp only [fields, List.foldlM_cons, List.foldlM_nil, original, idle, reset,
    migration, initial, retry, Option.bind_eq_bind, Option.bind_some, Option.pure_def]
  simp only [put, set, Option.elim_some, value built.windows.1, value built.windows.2.1,
    value built.windows.2.2.1, value built.windows.2.2.2, few built.streams.1, few built.streams.2,
    Option.map_some, Option.bind_some, Option.or_none, Bool.or_false]
  have whole : (if 0 < p.maxIdleTimeout then p.maxIdleTimeout else 0) = p.maxIdleTimeout := by
    split <;> omega
  rw [whole, ← payload, ← exponent, ← delay, ← limit]

variable {q : TransportParams}

theorem Within.set
    {id : Nat}
    (within : p.Within)
    (stored : p.set id v = some q) :
    q.Within := by
  obtain ⟨payload, streams, exponent, delay, limit⟩ := within
  have allowed {n : Nat} {test : Nat -> Bool} (isRead : intValue v test = some n) :
      test n = true := by
    simp only [intValue, Option.bind_eq_some_iff] at isRead
    grind
  have short {n : Nat} (small : n < 2 ^ 14) : Quic.milliseconds n = n * 1000000 := by
    have fits : duration n = n := duration_eq (by omega) (by omega)
    rw [Quic.milliseconds, fits, duration_eq (by omega) (by omega)]
  simp only [TransportParams.set] at stored
  split at stored
  all_goals
    simp only [Option.map_eq_some_iff, Option.ite_none_right_eq_some, Option.some.injEq] at stored
    constructor <;> grind

theorem Within.setAll
    {params : List (Nat × Bytes)}
    (within : p.Within)
    (stored : p.setAll params = some q) :
    q.Within := by
  induction params generalizing p with
  | nil =>
    cases stored
    exact within
  | cons param params ih =>
    obtain ⟨next, first, rest⟩ := Option.bind_eq_some_iff.mp stored
    exact ih (within.set first) rest

end TransportParams

/-- What a side sends is what the other side reads, and what is read is within bounds. -/
theorem transport_params_round_trip :
    (∀ isServer (p : TransportParams), p.Built isServer ->
      parseParams p.encode isServer = .ok p) ∧
    ∀ b isClient (q : TransportParams), parseParams b isClient = .ok q ->
      q.Within ∧ ∃ params, readParams b.length b = some params ∧ Allowed isClient params := by
  refine ⟨fun isServer p built => ?_, fun b isClient q parsed => ?_⟩
  · exact parseLoop_eq_ok.mpr ⟨p.params, readParams_flatMap _ built.small le_rfl, built.allowed,
      by simp, built.setAll_params⟩
  · obtain ⟨params, isRead, allowed, -, stored⟩ := parseLoop_eq_ok.mp parsed
    refine ⟨?_, params, isRead, allowed⟩
    refine TransportParams.Within.setAll ?_ stored
    constructor <;> decide

theorem transport_params_round_trip_server :
    let p : TransportParams := { originalDCID := some [1, 2], maxIdleTimeout := 30000000000 }
    parseParams p.encode true = .ok p ∧ p.Within :=
  have built : TransportParams.Built true
      { originalDCID := some [1, 2], maxIdleTimeout := 30000000000 } :=
    ⟨by decide, by decide, by decide, by decide, by decide, nofun, nofun⟩
  have parsed := transport_params_round_trip.1 true _ built
  ⟨parsed, (transport_params_round_trip.2 _ true _ parsed).1⟩

end Quic
end Fib
