import UserspaceXdp.Katran.ConnectionTable

/-!
Contract: QUIC connections stay with the server that named them.

Owns: how a server puts its id into a connection id, what the balancer reads back,
and where the packets with such a connection id go.

Does not own: the packets that a client sends before it knows a connection id of the
server.
-/

namespace UserspaceXdp.Katran

open UserspaceXdp.Foundation
open UserspaceXdp.Runtime
open UserspaceXdp.Maps

/-! ## Server ids -/

inductive ConnIdVersion where
  | v1
  | v2
  | v3
deriving DecidableEq, Repr

/-- How many server ids a version has room for. -/
def ConnIdVersion.room : ConnIdVersion → Nat
  | .v1 => 2 ^ 16
  | .v2 => 2 ^ 24
  | .v3 => 2 ^ 31

/-- What a server puts into its connection ids. -/
structure ServerId where
  version : ConnIdVersion
  id : Nat
  fits : id < version.room

/-- The first bytes of a connection id of the server. What the version does not need is
random. -/
def ServerId.connId (server : ServerId) (random : Nat → UInt8) : List Nat :=
  let filler (index : Nat) : Nat := (random index).toNat
  match server.version with
  | .v1 =>
      [2 ^ 6 + server.id / 2 ^ 10, server.id / 2 ^ 2 % 2 ^ 8,
        server.id % 2 ^ 2 * 2 ^ 6 + filler 2 % 2 ^ 6, filler 3, filler 4]
  | .v2 =>
      [2 * 2 ^ 6 + filler 0 % 2 ^ 6, server.id / 2 ^ 16, server.id / 2 ^ 8 % 2 ^ 8,
        server.id % 2 ^ 8, filler 4]
  | .v3 =>
      [3 * 2 ^ 6 + filler 0 % 2 ^ 6, server.id / 2 ^ 24, server.id / 2 ^ 16 % 2 ^ 8,
        server.id / 2 ^ 8 % 2 ^ 8, server.id % 2 ^ 8]

/-- The balancer reads back what the server put in. -/
theorem connIdServerId_connId (server : ServerId) (random : Nat → UInt8) :
    (connIdServerId fun index => (server.connId random).getD index 0) = server.id := by
  obtain ⟨version, id, fits⟩ := server
  unfold connIdServerId ServerId.connId
  cases version with
  | v1 =>
      change id < 2 ^ 16 at fits
      simp only [List.getD_cons_zero, List.getD_cons_succ]
      rw [if_pos (by omega)]
      omega
  | v2 =>
      change id < 2 ^ 24 at fits
      simp only [List.getD_cons_zero, List.getD_cons_succ]
      rw [if_neg (by omega), if_pos (by omega)]
      omega
  | v3 =>
      change id < 2 ^ 31 at fits
      have whole : id / 2 ^ 24 * 2 ^ 24 + id / 2 ^ 16 % 2 ^ 8 * 2 ^ 16 + id / 2 ^ 8 % 2 ^ 8 * 2 ^ 8 +
          id % 2 ^ 8 = id := by
        omega
      simp only [List.getD_cons_zero, List.getD_cons_succ]
      rw [if_neg (by omega), if_neg (by omega), if_pos (by omega), whole, toInt32, if_pos fits]

/-! ## Packets with a connection id -/

/-- Where the connection id of a packet is that a server has answered before: behind
the short header, or behind the long one of a handshake or retry packet. -/
def ConnIdAt (memory : Memory) (quicData dataEnd address : Nat) : Prop :=
  (memory quicData).toNat < 2 ^ 7 ∧ address = quicData + 1 ∧ quicData + 9 ≤ dataEnd ∨
    2 ^ 7 ≤ (memory quicData).toNat ∧ 2 ≤ (memory quicData).toNat / 2 ^ 4 % 4 ∧
      8 ≤ (memory (quicData + 5)).toNat ∧ address = quicData + 6 ∧ quicData + 14 ≤ dataEnd

/-- A packet with a connection id of the server. -/
def Bears (xdp : Window) (isIpv6 : Bool) (server : ServerId) : Prop :=
  ∃ address random, ConnIdAt xdp.memory
      (xdp.context.data + calcOffset isIpv6 false + 8) xdp.context.dataEnd address ∧
    ∀ index < 5, (xdp.memory (address + index)).toNat = (server.connId random).getD index 0

theorem connIdServerId_congr {left right : Nat → Nat} (same : ∀ index < 5, left index = right index) :
    connIdServerId left = connIdServerId right := by
  unfold connIdServerId
  rw [same 0 (by decide), same 1 (by decide), same 2 (by decide), same 3 (by decide),
    same 4 (by decide)]

theorem parseQuic_bears {xdp : Window} {isIpv6 : Bool} {server : ServerId}
    (bears : Bears xdp isIpv6 server) {pckt : PacketDescription} (plain : pckt.icmp = false) :
    (parseQuic xdp.memory xdp.context.data xdp.context.dataEnd isIpv6 pckt).serverId =
      server.id := by
  obtain ⟨address, random, at_, bytes⟩ := bears
  have read : connIdServerId (fun index => (xdp.memory (address + index)).toNat) = server.id :=
    (connIdServerId_congr bytes).trans (connIdServerId_connId server random)
  unfold parseQuic
  dsimp only
  rw [plain]
  rcases at_ with ⟨short, rfl, whole⟩ | ⟨long, answered, wide, rfl, whole⟩
  · rw [if_neg (by omega), if_neg (by omega), if_neg (by omega)]
    exact read
  · rw [if_neg (by omega), if_pos long, if_neg (by omega), if_neg (by omega), if_neg (by omega)]
    exact read

/-! ## Where they go -/

section Named

variable {Tables : Type} {ops : LruOps Tables} {control : Control} {isIpv6 : Bool}
variable {pckt : PacketDescription} {maps : BalancerMaps Tables}

variable (ops pckt maps) in
/-- A known server id decides, whatever the tables hold. -/
theorem serverIdRoute_named (arrival : Arrival) (vipInfo : VipMeta) (lruMap : Option Nat)
    {serverId : Nat} (mapped : serverId < maxQuicReals)
    (real : control.serverIdMap serverId ≠ 0) :
    QuicFits (fun _ => True) (· = control.serverIdMap serverId) pckt.flow
        (serverIdRoute ops control arrival vipInfo lruMap serverId pckt maps) ∧
      ∀ routing, serverIdRoute ops control arrival vipInfo lruMap serverId pckt maps = .ok routing →
        routing.dst.isSome := by
  have known : arrayLookup control.serverIdMap maxQuicReals serverId =
      some (control.serverIdMap serverId) := if_pos mapped
  unfold serverIdRoute
  rw [known]
  dsimp only
  rw [if_neg real]
  cases found : arrayLookup control.reals maxReals (control.serverIdMap serverId).toNat with
  | none =>
      refine ⟨⟨trivial, noReal_of_lookup rfl found⟩, fun routing result => ?_⟩
      cases result
  | some dst =>
      refine ⟨⟨fun missing => (by cases missing), trivial, fun _ _ => rfl⟩, fun routing result => ?_⟩
      cases result
      rfl

variable (ops isIpv6 pckt maps) in
theorem chooseReal_named (arrival : Arrival) {xdp : Window} (vip : VipDefinition)
    {vipInfo : VipMeta} (lruMap : Option Nat) {server : ServerId}
    (quic : vipInfo.has fQuicVip = true) (plain : pckt.icmp = false)
    (bears : Bears xdp isIpv6 server) (positive : 0 < server.id)
    (mapped : server.id < maxQuicReals) (real : control.serverIdMap server.id ≠ 0) :
    RoutedFits (fun _ => True) (· = control.serverIdMap server.id)
      (chooseReal ops control arrival xdp.memory xdp.context.data xdp.context.dataEnd isIpv6 vip
        vipInfo lruMap pckt maps) := by
  have read := parseQuic_bears bears plain
  unfold chooseReal
  dsimp only
  rw [if_pos quic]
  unfold quicRoute
  rw [if_neg (by rw [plain]; exact Bool.false_ne_true)]
  dsimp only
  rw [read, if_pos (by omega), Int.toNat_natCast]
  generalize ({ maps with cpu := countQuic _ _ } : BalancerMaps Tables) = counted
  obtain ⟨fits, found⟩ :=
    serverIdRoute_named ops pckt counted arrival vipInfo lruMap mapped real
  generalize serverIdRoute _ _ _ _ _ _ _ _ = result at fits found ⊢
  cases result with
  | error after => exact fits
  | ok routing =>
      obtain ⟨dst, chosen⟩ := Option.isSome_iff_exists.mp (found routing rfl)
      dsimp only
      rw [chosen]
      exact ⟨fits.kept, fits.position dst chosen⟩

end Named

/-- A QUIC connection moves with its client: the balancer reads back the id that the
server put into its connection ids, and after every run, whatever the tables, the ring
and the addresses of the client are, a packet with such a connection id goes to the
position of that server, if the id has one. -/
theorem quic_connection_keeps_real {Tables : Type} (ops : LruOps Tables)
    {adjustHead : Window → Int → Nat × Window} (moves : MovesHead adjustHead)
    (start : Machine Tables) (events : List MachineEvent) (event : MachineEvent) {isIpv6 : Bool}
    {pckt : PacketDescription} {service : Service}
    (received : receivedPacket event.window = some (isIpv6, pckt))
    (found : flowService event.control isIpv6 pckt.flow = some service)
    (numbered : service.vipInfo.vipNum.toNat < maxVips) (headroom : Headroom event.window 40)
    (quic : service.vipInfo.has fQuicVip = true) (plain : pckt.icmp = false) {server : ServerId}
    (bears : Bears event.window isIpv6 server) :
    (parseQuic event.window.memory event.window.context.data event.window.context.dataEnd isIpv6
        pckt).serverId = server.id ∧
      (0 < server.id → server.id < maxQuicReals → event.control.serverIdMap server.id ≠ 0 →
        ((machineRun ops adjustHead start events).outcome ops adjustHead event).GoesTo event.control
          (event.control.serverIdMap server.id) isIpv6 event.window) := by
  refine ⟨parseQuic_bears bears plain, fun positive mapped real => ?_⟩
  generalize machineRun ops adjustHead start events = machine
  have chosen (lruMap : Option Nat) (started : BalancerMaps Tables) (_ : started.lru = machine.lru) :=
    chooseReal_named ops isIpv6 { pckt with flow := service.key } started event.arrival
      service.vip lruMap quic plain bears positive mapped real
  exact balancerIngress_goes ops ⟨machine.cpus event.arrival.cpu, machine.lru, machine.vipMissStats⟩
    event.arrival moves headroom received found numbered chosen _ fun _ same => same

section Example

/-- A QUIC service. The server with the id 5 is at position 2. -/
def quicVip : Control :=
  { oneVip with
    vipMap := fun _ => some ⟨fQuicVip, 1⟩
    reals := fun position => ⟨addressOfV4 (UInt32.ofNat position), 0⟩
    serverIdMap := fun serverId => if serverId = 5 then 2 else 0 }

def fifthServer : ServerId :=
  ⟨.v2, 5, by decide⟩

/-- A short header with a connection id of the server. -/
def shortWindow : Window :=
  { udpWindow with memory := (udpWindow.memory.store 107 128).store 110 5 }

/-- The same from port 256. -/
def movedWindow : Window :=
  { shortWindow with memory := shortWindow.memory.store 98 1 }

def movedPacket : PacketDescription :=
  { udpPacket with flow := setSourcePort udpPacket.flow 1 }

def movedService : Service :=
  ⟨udpService.vip, ⟨fQuicVip, 1⟩, movedPacket.flow⟩

theorem movedWindow_received : receivedPacket movedWindow = some (false, movedPacket) := by
  rfl

theorem movedService_found :
    flowService quicVip false movedPacket.flow = some movedService := by
  rfl

theorem movedWindow_bears : Bears movedWindow false fifthServer :=
  ⟨107, fun index => if index = 4 then 2 else 0, Or.inl (by decide), by decide⟩

def quicOn (cpu : Nat) (window : Window) : MachineEvent :=
  ⟨quicVip, ⟨cpu, 0, 0⟩, window⟩

theorem moved_packet_keeps_real :
    (parseQuic movedWindow.memory movedWindow.context.data movedWindow.context.dataEnd false
        movedPacket).serverId = 5 ∧
      ((machineRun moduleTables bpftimeXdpAdjustHeadRuntime createdMachine
        [quicOn 0 udpWindow, quicOn 0 shortWindow]).outcome moduleTables bpftimeXdpAdjustHeadRuntime
          (quicOn 1 movedWindow)).GoesTo quicVip 2 false movedWindow := by
  have keeps := quic_connection_keeps_real moduleTables movesHead_runtime createdMachine
    [quicOn 0 udpWindow, quicOn 0 shortWindow] (quicOn 1 movedWindow) movedWindow_received
    movedService_found (by decide) ⟨by decide, by decide⟩ (by decide) rfl movedWindow_bears
  exact ⟨keeps.1, keeps.2 (by decide) (by decide) (by decide)⟩

end Example

end UserspaceXdp.Katran
