import UserspaceXdp.Katran.Flows

/-!
Contract: what a packet may store in the connection tables, and where it may then go.

Owns: what the balancer relies on of its connection tables, predicates on entries that
a packet keeps, and the positions among which a real is chosen for it.

Does not own: which predicate on entries holds in a run.
-/

namespace UserspaceXdp.Katran

open UserspaceXdp.Foundation
open UserspaceXdp.Runtime
open UserspaceXdp.Maps

/-! ## What the tables remember -/

/-- A predicate on the tables that lookups of these keys and stores of these positions
maintain, and what it says of the position that a lookup returns. -/
structure Maintained {Tables : Type} (ops : LruOps Tables) (holds : Tables → Prop)
    (touched : FlowKey → Prop) (entry permits : FlowKey → UInt32 → Prop) : Prop where
  lookup : ∀ tables id key, touched key → holds tables → holds (ops.lookup tables id key).2
  hit : ∀ tables id key value, holds tables → (ops.lookup tables id key).1 = some value →
    entry key value.pos
  write : ∀ tables id key value, permits key value.pos → holds tables →
    holds (ops.write tables id key value)
  update : ∀ tables id key value, permits key value.pos → holds tables →
    holds (ops.update tables id key value)

/-- The tables may forget, but what they return was stored for the same key. -/
structure Remembers {Tables : Type} (ops : LruOps Tables) (same : FlowKey → FlowKey → Prop)
    (stored : Tables → FlowKey → UInt32 → Prop) : Prop where
  hit : ∀ tables id key value, (ops.lookup tables id key).1 = some value →
    stored tables key value.pos
  lookup : ∀ tables id key candidate pos, stored (ops.lookup tables id key).2 candidate pos →
    stored tables candidate pos
  write : ∀ tables id key value candidate pos,
    stored (ops.write tables id key value) candidate pos →
      stored tables candidate pos ∨ same candidate key ∧ pos = value.pos
  update : ∀ tables id key value candidate pos,
    stored (ops.update tables id key value) candidate pos →
      stored tables candidate pos ∨ same candidate key ∧ pos = value.pos

section Kept

variable {Tables : Type} {ops : LruOps Tables} {same : FlowKey → FlowKey → Prop}
variable {stored : Tables → FlowKey → UInt32 → Prop} {allowed : FlowKey → UInt32 → Prop}

variable (stored allowed) in
/-- All entries are allowed. -/
def Kept (tables : Tables) : Prop :=
  ∀ key pos, stored tables key pos → allowed key pos

variable (same allowed) in
/-- A position may be stored for a key. -/
def Permits (key : FlowKey) (pos : UInt32) : Prop :=
  ∀ candidate, same candidate key → allowed candidate pos

/-- Permitted stores keep all entries allowed. -/
theorem Remembers.maintained (remembers : Remembers ops same stored) :
    Maintained ops (Kept stored allowed) (fun _ => True) allowed (Permits same allowed) where
  lookup tables id key _ kept candidate pos after :=
    kept candidate pos (remembers.lookup tables id key candidate pos after)
  hit tables id key value kept found := kept key value.pos (remembers.hit tables id key value found)
  write := by
    intro tables id key value permits kept candidate pos after
    rcases remembers.write _ _ _ _ _ _ after with before | ⟨equal, rfl⟩
    · exact kept candidate pos before
    · exact permits candidate equal
  update := by
    intro tables id key value permits kept candidate pos after
    rcases remembers.update _ _ _ _ _ _ after with before | ⟨equal, rfl⟩
    · exact kept candidate pos before
    · exact permits candidate equal

end Kept

/-! ## One packet -/

section Choice

variable {Tables : Type} {ops : LruOps Tables} {holds : Tables → Prop}
variable {touched : FlowKey → Prop} {entry permits : FlowKey → UInt32 → Prop}
variable {control : Control} {isIpv6 : Bool} {service : Service} {goal : UInt32 → Prop}

variable (permits control isIpv6 service goal) in
/-- The ring has a position for the service, which may be stored and is to be chosen. -/
structure AdmitsRing : Prop where
  ring : ∀ pos, service.ringReal control isIpv6 = some pos →
    permits service.ringFlow pos ∧ goal pos
  onRing : ∃ pos, service.ringReal control isIpv6 = some pos

variable (touched entry permits control isIpv6 service goal) in
/-- What a packet of the service may store, and that it is what is to be chosen. -/
structure Admits : Prop extends AdmitsRing permits control isIpv6 service goal where
  touches : touched service.key
  writeBack : ∀ pos, entry service.key pos → permits service.key pos ∧ goal pos
  quic : service.vipInfo.has fQuicVip = true → ∀ pos, permits service.key pos ∧ goal pos

/-- Only the ring matters. -/
theorem Admits.of_chRings (admits : Admits touched entry permits control isIpv6 service goal)
    {other : Control} (chRings : other.chRings = control.chRings) :
    Admits touched entry permits other isIpv6 service goal := by
  have ring : service.ringReal other isIpv6 = service.ringReal control isIpv6 := by
    unfold Service.ringReal
    rw [chRings]
  refine ⟨⟨?_, ?_⟩, admits.touches, admits.writeBack, admits.quic⟩
  · rw [ring]
    exact admits.ring
  · rw [ring]
    exact admits.onRing

variable (holds goal) in
/-- The entries stay allowed, and a real that was found is at a position to be
chosen. -/
structure Routing.Fits (key : FlowKey) (routing : Routing Tables) : Prop where
  flow : routing.dst = none → routing.pckt.flow = key
  kept : holds routing.maps.lru
  position : ∀ real, routing.dst = some real → goal routing.pckt.realIndex

variable (goal) in
/-- There is no real at a position to be chosen. -/
def NoReal : Prop :=
  ∃ pos, goal pos ∧ maxReals ≤ pos.toNat

variable (holds goal) in
/-- The same for the branch of the QUIC services. -/
def QuicFits (key : FlowKey) : Except (BalancerMaps Tables) (Routing Tables) → Prop
  | .error maps => holds maps.lru ∧ NoReal goal
  | .ok routing => routing.Fits holds goal key

variable (holds goal) in
/-- The same for a result of `chooseReal`. -/
def RoutedFits : Except (BalancerMaps Tables) (Routed Tables) → Prop
  | .error maps => holds maps.lru ∧ NoReal goal
  | .ok routed => holds routed.maps.lru ∧ goal routed.pckt.realIndex

variable {pckt : PacketDescription} {maps : BalancerMaps Tables}

theorem noReal_of_lookup {pos : UInt32} (chosen : goal pos)
    (missing : arrayLookup control.reals maxReals pos.toNat = none) : NoReal goal := by
  unfold arrayLookup at missing
  split at missing
  · cases missing
  · rename_i above
    exact ⟨pos, chosen, Nat.not_lt.mp above⟩

theorem unrouted_fits (flow : pckt.flow = service.key) (kept : holds maps.lru) :
    Routing.Fits holds goal service.key ⟨none, pckt, maps⟩ := by
  refine ⟨fun _ => flow, kept, fun real found => ?_⟩
  cases found

variable (maps) (maintained : Maintained ops holds touched entry permits) (arrival : Arrival)
variable (lruMap : Option Nat)

include maintained

section Ring

variable (admits : AdmitsRing permits control isIpv6 service goal)

include admits

theorem getPacketDst_fits (flow : pckt.flow = service.key) (kept : holds maps.lru) :
    let routing := getPacketDst ops control arrival pckt service.vipInfo isIpv6 lruMap maps
    holds routing.maps.lru ∧ (routing.dst = none → NoReal goal) ∧
      ∀ real, routing.dst = some real → goal routing.pckt.realIndex := by
  have hashed : hashedFlow service.vipInfo pckt.flow = service.ringFlow := by
    rw [flow]
    rfl
  obtain ⟨realPos, ring⟩ := admits.onRing
  obtain ⟨permitted, chosen⟩ := admits.ring realPos ring
  unfold Service.ringReal at ring
  unfold getPacketDst
  dsimp only
  rw [hashed, ring]
  dsimp only
  split
  · rename_i missing
    refine ⟨kept, fun _ => noReal_of_lookup chosen missing, fun real found => ?_⟩
    cases found
  · split
    · refine ⟨kept, fun missing => ?_, fun _ _ => chosen⟩
      cases missing
    · refine ⟨maintained.update _ lruMap _ _ permitted kept, fun missing => ?_, fun _ _ => chosen⟩
      cases missing

theorem ringRoute_fits (vip : VipDefinition) (flow : pckt.flow = service.key)
    (kept : holds maps.lru) :
    RoutedFits holds goal
      (ringRoute ops control arrival vip service.vipInfo isIpv6 lruMap pckt maps) := by
  unfold ringRoute
  dsimp only
  generalize (if pckt.flow.proto = ipprotoTcp then _ else maps.cpu : CpuMaps) = cpu
  obtain ⟨after, missing, chosen⟩ := getPacketDst_fits { maps with cpu } maintained arrival lruMap admits
    flow kept
  generalize getPacketDst _ _ _ _ _ _ _ _ = routing at after missing chosen ⊢
  split
  · rename_i unknown
    exact ⟨after, missing unknown⟩
  · rename_i dst found
    have position := chosen dst found
    unfold updateVipLruMissStats
    dsimp only
    split
    · rename_i dropped result
      split_ifs at result with counted below
      cases result
      exact ⟨after, _, position, Nat.not_lt.mp below⟩
    · rename_i counted result
      split_ifs at result <;> cases result <;> exact ⟨after, position⟩

end Ring

variable (admits : Admits touched entry permits control isIpv6 service goal)

include admits

theorem connectionTableLookup_fits (flow : pckt.flow = service.key)
    (kept : holds maps.lru) :
    (connectionTableLookup ops control arrival pckt lruMap maps).Fits holds goal
      service.key := by
  have looked := maintained.lookup maps.lru lruMap pckt.flow (flow ▸ admits.touches) kept
  unfold connectionTableLookup
  dsimp only
  split
  · exact unrouted_fits flow looked
  · rename_i dstLru hit
    have stored := maintained.hit _ _ _ _ kept hit
    rw [flow] at stored
    obtain ⟨permitted, chosen⟩ := admits.writeBack _ stored
    split
    · exact unrouted_fits flow looked
    · refine ⟨fun _ => flow, ?_, fun _ _ => chosen⟩
      split
      · rw [flow] at looked ⊢
        exact maintained.write _ lruMap _ _ permitted looked
      · exact looked

theorem checkAndUpdate_kept (flow : pckt.flow = service.key)
    (quic : service.vipInfo.has fQuicVip = true) (kept : holds maps.lru) :
    holds (checkAndUpdateRealIndexInLru ops arrival pckt lruMap maps).2.lru := by
  have looked := maintained.lookup maps.lru lruMap pckt.flow (flow ▸ admits.touches) kept
  have permitted := (admits.quic quic pckt.realIndex).1
  rw [← flow] at permitted
  unfold checkAndUpdateRealIndexInLru
  dsimp only
  split
  · split
    · exact looked
    · exact maintained.write _ lruMap _ _ permitted looked
  · split
    · exact looked
    · exact maintained.update _ lruMap _ _ permitted looked

/-- A server id names the real, or the ring decides. -/
theorem serverIdRoute_fits (serverId : Nat) (flow : pckt.flow = service.key)
    (quic : service.vipInfo.has fQuicVip = true) (kept : holds maps.lru) :
    QuicFits holds goal service.key
      (serverIdRoute ops control arrival service.vipInfo lruMap serverId pckt maps) := by
  unfold serverIdRoute
  dsimp only
  split
  · exact unrouted_fits flow kept
  · rename_i key named
    split
    · exact unrouted_fits flow kept
    · split
      · rename_i missing
        exact ⟨kept, noReal_of_lookup (admits.quic quic key).2 missing⟩
      · refine ⟨fun found => (by cases found), ?_, fun _ _ => (admits.quic quic key).2⟩
        exact checkAndUpdate_kept maps maintained arrival lruMap admits flow quic kept

theorem quicRoute_fits (memory : Memory) (data dataEnd : Nat) (flow : pckt.flow = service.key)
    (quic : service.vipInfo.has fQuicVip = true) (kept : holds maps.lru) :
    QuicFits holds goal service.key
      (quicRoute ops control arrival memory data dataEnd isIpv6 service.vipInfo lruMap pckt
        maps) := by
  unfold quicRoute
  dsimp only
  split_ifs
  · exact unrouted_fits flow kept
  · exact serverIdRoute_fits { maps with cpu := _ } maintained arrival lruMap admits _ flow quic kept
  · exact unrouted_fits flow kept
  · exact unrouted_fits flow kept

theorem tableRoute_fits (vip : VipDefinition) (flow : pckt.flow = service.key)
    (kept : holds maps.lru) :
    RoutedFits holds goal
      (tableRoute ops control arrival vip service.vipInfo isIpv6 lruMap pckt maps) := by
  have looked : Routing.Fits holds goal service.key
      (if pckt.synSet || service.vipInfo.has fLruBypass then ⟨none, pckt, maps⟩
        else connectionTableLookup ops control arrival pckt lruMap maps) := by
    split
    · exact unrouted_fits flow kept
    · exact connectionTableLookup_fits maps maintained arrival lruMap admits flow kept
  unfold tableRoute
  dsimp only
  generalize (if pckt.synSet || service.vipInfo.has fLruBypass then _ else _ : Routing Tables) =
    routing at looked ⊢
  split
  · rename_i dst found
    exact ⟨looked.kept, looked.position dst found⟩
  · rename_i missed
    exact ringRoute_fits _ maintained arrival lruMap admits.toAdmitsRing vip (looked.flow missed) looked.kept

variable (pckt) in
/-- The real that is chosen is at a position to be chosen. -/
theorem chooseReal_fits (memory : Memory) (data dataEnd : Nat) (vip : VipDefinition)
    (flow : pckt.flow = service.key) (kept : holds maps.lru) :
    RoutedFits holds goal
      (chooseReal ops control arrival memory data dataEnd isIpv6 vip service.vipInfo lruMap pckt
        maps) := by
  unfold chooseReal
  dsimp only
  by_cases quic : service.vipInfo.has fQuicVip = true
  · rw [if_pos quic]
    have routed := quicRoute_fits maps maintained arrival lruMap admits memory data dataEnd flow quic kept
    generalize quicRoute _ _ _ _ _ _ _ _ _ _ _ = result at routed ⊢
    cases result with
    | error after => exact routed
    | ok routing =>
        dsimp only
        split
        · rename_i dst found
          exact ⟨routed.kept, routed.position dst found⟩
        · rename_i unrouted
          exact tableRoute_fits _ maintained arrival lruMap admits vip (routed.flow unrouted)
            routed.kept
  · rw [if_neg quic]
    exact tableRoute_fits maps maintained arrival lruMap admits vip flow kept

end Choice

/-! ## The program -/

section Program

variable {Tables : Type} (ops : LruOps Tables) (control : Control) (arrival : Arrival)
variable (adjustHead : Window → Int → Nat × Window) (xdp : Window)

/-- What becomes of a result of `chooseReal`. -/
def finish (isIpv6 : Bool) (vipInfo : VipMeta) (originalSport pktBytes : Nat) :
    Except (BalancerMaps Tables) (Routed Tables) → Outcome Tables
  | .error maps => ⟨xdpDrop, xdp, maps⟩
  | .ok routed => forward control adjustHead xdp isIpv6 vipInfo originalSport pktBytes routed

/-- The maps that the choice of a real for a packet finds: counters apart, they are as
they were. -/
structure Prepared (isIpv6 : Bool) (pckt : PacketDescription) (maps : BalancerMaps Tables)
    (pktBytes : Nat) (started : BalancerMaps Tables) : Prop where
  received : Received xdp isIpv6 pktBytes pckt.tos
  lru : started.lru = maps.lru
  quiet : Quiet maps.cpu started.cpu

variable {xdp} {isIpv6 : Bool} {pckt : PacketDescription}
variable {service : Service} (maps : BalancerMaps Tables)

theorem balance_eq {pktBytes : Nat} (vip : VipDefinition) (vipInfo : VipMeta)
    (received : Received xdp isIpv6 pktBytes pckt.tos) :
    ∃ started lruMap originalSport, Prepared xdp isIpv6 pckt maps pktBytes started ∧
      balance ops control arrival adjustHead xdp isIpv6 vip vipInfo pckt pktBytes maps =
        finish control adjustHead xdp isIpv6 vipInfo originalSport pktBytes
          (chooseReal ops control arrival xdp.memory xdp.context.data xdp.context.dataEnd isIpv6
            vip vipInfo lruMap { pckt with flow := tableFlow vipInfo pckt.flow } started) := by
  let lruMap := if control.lruMapping arrival.cpu then some arrival.cpu else none
  let counted := maps.cpu.count (maxVips + lruCntrs) 1 0
  let cpu := if lruMap.isNone then counted.count (maxVips + fallbackLruCntr) 1 0 else counted
  have read : (if vipInfo.has fHashNoSrcPort then { pckt with flow := setSourcePort pckt.flow 0 }
      else pckt) = { pckt with flow := tableFlow vipInfo pckt.flow } := by
    unfold tableFlow
    split <;> rfl
  have quiet : Quiet maps.cpu cpu := by
    show Quiet maps.cpu (if lruMap.isNone then _ else _)
    split
    · exact (quiet_count _ (by decide) _ _).trans (quiet_count _ (by decide) _ _)
    · exact quiet_count _ (by decide) _ _
  refine ⟨{ maps with cpu }, lruMap, sourcePort (tableFlow vipInfo pckt.flow),
    ⟨received, rfl, quiet⟩, ?_⟩
  unfold balance
  dsimp only
  rw [read]
  generalize chooseReal _ _ _ _ _ _ _ _ _ _ _ _ = result
  cases result <;> rfl

/-- What happens to a packet of a version. -/
theorem processPacket_eq (whole : xdp.context.data + 14 ≤ xdp.context.dataEnd)
    (type : xdp.memory.loadWord (xdp.context.data + 12) 2 =
      if isIpv6 then beEthPIpv6 else beEthPIp) :
    balancerIngress ops control arrival adjustHead xdp maps =
      processPacket ops control arrival adjustHead xdp isIpv6 maps := by
  have apart : ¬ beEthPIpv6 = beEthPIp := by decide
  unfold balancerIngress
  dsimp only
  rw [if_neg (Nat.not_lt.mpr whole)]
  cases isIpv6 with
  | true =>
      change _ = beEthPIpv6 at type
      rw [type, if_neg apart, if_pos rfl]
  | false =>
      change _ = beEthPIp at type
      rw [if_pos type]

/-- A packet of a service is dropped if it is too long, and a real is chosen for it
otherwise. -/
theorem balancerIngress_served (received : receivedPacket xdp = some (isIpv6, pckt))
    (found : flowService control isIpv6 pckt.flow = some service) :
    if maxPcktSize < xdp.context.dataEnd - xdp.context.data then
      let outcome := balancerIngress ops control arrival adjustHead xdp maps
      outcome.verdict = xdpDrop ∧ outcome.window = xdp ∧ outcome.maps.lru = maps.lru
    else
      ∃ pktBytes started lruMap originalSport,
        Prepared xdp isIpv6 pckt maps pktBytes started ∧
          balancerIngress ops control arrival adjustHead xdp maps =
            finish control adjustHead xdp isIpv6 service.vipInfo originalSport pktBytes
              (chooseReal ops control arrival xdp.memory xdp.context.data xdp.context.dataEnd isIpv6
                service.vip service.vipInfo lruMap { pckt with flow := service.key } started) := by
  obtain ⟨whole, type⟩ := receivedPacket_some received
  have read := parsePacket_reads xdp.memory xdp.context.data xdp.context.dataEnd 14 maps.cpu isIpv6
  have quiet := quiet_parsePacket xdp.memory xdp.context.data xdp.context.dataEnd 14 maps.cpu isIpv6
  rw [receivedPacket_eq whole type, ← parsePacket_value_eq,
    parsePacket_value _ _ _ _ zeroCpu maps.cpu] at received
  rw [processPacket_eq ops control arrival adjustHead maps whole type]
  unfold processPacket
  dsimp only
  generalize parsePacket xdp.memory xdp.context.data xdp.context.dataEnd 14 isIpv6 maps.cpu = stage
    at read quiet received ⊢
  cases stage with
  | verdict action memory cpu => cases received
  | further parsed cpu =>
      cases received
      cases lookup : lookupVip control isIpv6 parsed.1 with
      | none =>
          rw [lookupVip_unserved lookup] at found
          cases found
      | some looked =>
          obtain ⟨vip, vipInfo, routed⟩ := looked
          obtain ⟨served, kept, -⟩ := lookupVip_service lookup
          rw [served] at found
          cases found
          have tos : routed.tos = parsed.1.tos := (lookupVip_known lookup).2
          have fields : Received xdp isIpv6 parsed.2 routed.tos :=
            ⟨type, (read parsed cpu rfl).1, tos.trans (read parsed cpu rfl).2⟩
          dsimp only
          rw [lookup]
          dsimp only
          by_cases long : maxPcktSize < xdp.context.dataEnd - xdp.context.data
          · rw [if_pos long, if_pos long]
            exact ⟨rfl, rfl, rfl⟩
          · rw [if_neg long, if_neg long]
            obtain ⟨started, lruMap, originalSport, prepared, result⟩ :=
              balance_eq ops control arrival adjustHead { maps with cpu } vip vipInfo fields
            have same : { routed with flow := tableFlow vipInfo routed.flow } =
                { parsed.1 with flow := tableFlow vipInfo routed.flow } := by
              rw [kept]
            rw [same] at result
            exact ⟨parsed.2, started, lruMap, originalSport,
              ⟨tos ▸ prepared.received, prepared.lru, quiet.trans prepared.quiet⟩, result⟩

/-- A packet without a service leaves the tables alone. -/
theorem balancerIngress_unserved
    (unserved : ∀ isIpv6 pckt, receivedPacket xdp = some (isIpv6, pckt) →
      flowService control isIpv6 pckt.flow = none) :
    (balancerIngress ops control arrival adjustHead xdp maps).maps.lru = maps.lru := by
  by_cases version : ∃ isIpv6 : Bool, xdp.context.data + 14 ≤ xdp.context.dataEnd ∧
      xdp.memory.loadWord (xdp.context.data + 12) 2 = if isIpv6 then beEthPIpv6 else beEthPIp
  · obtain ⟨isIpv6, whole, type⟩ := version
    have received := receivedPacket_eq whole type
    rw [← parsePacket_value_eq, parsePacket_value _ _ _ _ zeroCpu maps.cpu] at received
    rw [processPacket_eq ops control arrival adjustHead maps whole type]
    unfold processPacket
    dsimp only
    generalize parsePacket xdp.memory xdp.context.data xdp.context.dataEnd 14 isIpv6 maps.cpu =
      stage at received ⊢
    cases stage with
    | verdict action memory cpu => rfl
    | further parsed cpu =>
        have missing := unserved _ _ received
        dsimp only
        cases lookup : lookupVip control isIpv6 parsed.1 with
        | none => rfl
        | some looked =>
            obtain ⟨vip, vipInfo, routed⟩ := looked
            rw [(lookupVip_service lookup).1] at missing
            cases missing
  · have neither (isIpv6 : Bool) (whole : xdp.context.data + 14 ≤ xdp.context.dataEnd) :
        ¬ xdp.memory.loadWord (xdp.context.data + 12) 2 =
          if isIpv6 then beEthPIpv6 else beEthPIp :=
      fun type => version ⟨isIpv6, whole, type⟩
    unfold balancerIngress
    dsimp only
    split_ifs with short v4 v6
    · rfl
    · exact absurd v4 (neither false (Nat.not_lt.mp short))
    · exact absurd v6 (neither true (Nat.not_lt.mp short))
    · rfl

end Program

/-! ## Where a packet goes -/

section Goes

variable {Tables : Type} {ops : LruOps Tables} {holds : Tables → Prop} {control : Control}
variable {goal : UInt32 → Prop} {adjustHead : Window → Int → Nat × Window}

/-- The packet is dropped as it is if it is too long or if there is no real at the
position, and otherwise sent to the real. -/
def Outcome.GoesTo (control : Control) (position : UInt32) (isIpv6 : Bool) (xdp : Window)
    (outcome : Outcome Tables) : Prop :=
  if maxPcktSize < xdp.context.dataEnd - xdp.context.data ∨ maxReals ≤ position.toNat then
    outcome.verdict = xdpDrop ∧ outcome.window = xdp
  else
    outcome.verdict = xdpTx ∧
      SentTo control.mac (control.reals position.toNat) isIpv6 xdp outcome.window

variable {xdp : Window} {isIpv6 : Bool} {pckt : PacketDescription} {service : Service}
variable {maps : BalancerMaps Tables} {arrival : Arrival}

variable (control adjustHead) in
theorem finish_lru (vipInfo : VipMeta) (originalSport pktBytes : Nat)
    {result : Except (BalancerMaps Tables) (Routed Tables)} (fits : RoutedFits holds goal result) :
    holds (finish control adjustHead xdp isIpv6 vipInfo originalSport pktBytes result).maps.lru := by
  cases result with
  | error after => exact fits.1
  | ok routed =>
      show holds (forward control adjustHead xdp isIpv6 vipInfo originalSport pktBytes
        routed).maps.lru
      unfold forward
      dsimp only
      split_ifs <;> exact fits.1

variable (ops maps arrival adjustHead) in
/-- A packet leaves the tables as the choice of its real does. -/
theorem balancerIngress_holds (received : receivedPacket xdp = some (isIpv6, pckt))
    (found : flowService control isIpv6 pckt.flow = some service) (before : holds maps.lru)
    (chosen : ∀ lruMap started, started.lru = maps.lru →
      RoutedFits holds goal
        (chooseReal ops control arrival xdp.memory xdp.context.data xdp.context.dataEnd isIpv6
          service.vip service.vipInfo lruMap { pckt with flow := service.key } started)) :
    holds (balancerIngress ops control arrival adjustHead xdp maps).maps.lru := by
  have served := balancerIngress_served ops control arrival adjustHead maps received found
  split at served
  · rw [served.2.2]
    exact before
  · obtain ⟨pktBytes, started, lruMap, originalSport, prepared, result⟩ := served
    rw [result]
    exact finish_lru control adjustHead _ _ _ (chosen lruMap started prepared.lru)

/-- A result with a real is sent to it. -/
theorem finish_goesTo (moves : MovesHead adjustHead) (headroom : Headroom xdp 40)
    (whole : xdp.context.data + 14 ≤ xdp.context.dataEnd)
    (short : ¬ maxPcktSize < xdp.context.dataEnd - xdp.context.data) {vipInfo : VipMeta}
    (numbered : vipInfo.vipNum.toNat < maxVips) (originalSport : Nat) {pktBytes : Nat}
    {tos : UInt8} (fields : Received xdp isIpv6 pktBytes tos) {insertions : Tables → Nat}
    {time : UInt64} {result : Except (BalancerMaps Tables) (Routed Tables)}
    (effect : RoutedEffect insertions control time tos maps result)
    (fits : RoutedFits holds goal result) {position : UInt32}
    (only : ∀ pos, goal pos → pos = position) :
    (finish control adjustHead xdp isIpv6 vipInfo originalSport pktBytes result).GoesTo control
      position isIpv6 xdp := by
  unfold Outcome.GoesTo
  cases result with
  | error after =>
      obtain ⟨-, pos, wanted, above⟩ := fits
      rw [if_pos (Or.inr (by rw [← only pos wanted]; exact above))]
      exact ⟨rfl, rfl⟩
  | ok routed =>
      obtain ⟨-, known, kind⟩ := effect
      have same := only _ fits.2
      have below := arrayLookup_lt known
      rw [← kind] at fields
      obtain ⟨verdict, sent⟩ := forward_sentTo control moves headroom whole originalSport fields
        numbered known
      have real : control.reals position.toNat = routed.dst := by
        unfold arrayLookup at known
        rw [if_pos below] at known
        rw [← same]
        exact Option.some.inj known
      rw [if_neg (by rw [← same]; omega), real]
      exact ⟨verdict, sent⟩

variable (ops maps arrival) in
/-- A packet goes to the position that is to be chosen for it. -/
theorem balancerIngress_goes (moves : MovesHead adjustHead) (headroom : Headroom xdp 40)
    (received : receivedPacket xdp = some (isIpv6, pckt))
    (found : flowService control isIpv6 pckt.flow = some service)
    (numbered : service.vipInfo.vipNum.toNat < maxVips)
    (chosen : ∀ lruMap started, started.lru = maps.lru →
      RoutedFits holds goal
        (chooseReal ops control arrival xdp.memory xdp.context.data xdp.context.dataEnd isIpv6
          service.vip service.vipInfo lruMap { pckt with flow := service.key } started)) :
    ∀ position, (∀ pos, goal pos → pos = position) →
      (balancerIngress ops control arrival adjustHead xdp maps).GoesTo control position isIpv6
        xdp := by
  have nothing : Measures ops fun _ => 0 :=
    ⟨fun _ _ _ => rfl, fun _ _ _ _ => rfl, fun _ _ _ _ => Nat.zero_le _⟩
  have served := balancerIngress_served ops control arrival adjustHead maps received found
  intro position only
  by_cases long : maxPcktSize < xdp.context.dataEnd - xdp.context.data
  · rw [if_pos long] at served
    unfold Outcome.GoesTo
    rw [if_pos (Or.inl long)]
    exact ⟨served.1, served.2.1⟩
  · rw [if_neg long] at served
    obtain ⟨pktBytes, started, lruMap, originalSport, prepared, result⟩ := served
    have effect := chooseReal_effect nothing control arrival xdp.memory xdp.context.data
      xdp.context.dataEnd isIpv6 service.vip service.vipInfo lruMap
      { pckt with flow := service.key } started
    rw [result]
    exact finish_goesTo moves headroom (receivedPacket_some received).1 long numbered originalSport
      prepared.received effect (chosen lruMap started prepared.lru) only

end Goes

end UserspaceXdp.Katran
