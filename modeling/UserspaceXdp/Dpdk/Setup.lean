import Mathlib.Algebra.Order.BigOperators.Group.Finset
import Mathlib.Data.BitVec
import UserspaceXdp.Dpdk.Ownership

/-!
Contract: how `main` of `dpdk/main.c` pairs the ports and gives them to the logical
cores.

Owns: `check_port_pair_config`, the two ways of filling `l2fwd_dst_ports`, the
assignment of the ports to `lcore_queue_conf`, and what the main loop relies on
after it: partners, and one core for every port.

Does not own: the initialisation of EAL and of a port. No port has an owner, so
that `RTE_ETH_FOREACH_DEV` visits every valid port.
-/

namespace UserspaceXdp.Dpdk.Setup

open UserspaceXdp.Foundation

/-! ## The set-up -/

/-- What EAL tells: the ports in the order of `RTE_ETH_FOREACH_DEV`, and the
logical cores. -/
structure Eal where
  rteMaxEthports : Nat
  rteMaxLcore : Nat
  devs : List Nat
  rteLcoreIsEnabled : Nat → Bool
  maxEthports_le : rteMaxEthports ≤ 32
  devs_nodup : devs.Nodup
  devs_lt : ∀ port ∈ devs, port < rteMaxEthports

def maxRxQueuePerLcore : Nat := 16

/-- What the options leave in the globals. `l2fwd_parse_nqueue` keeps to the length
of `rx_port_list`. -/
structure Options where
  l2fwdEnabledPortMask : BitVec 32
  l2fwdRxQueuePerLcore : Nat
  portPairParams : Option (List (Nat × Nat))
  rxQueuePerLcore_lt : l2fwdRxQueuePerLcore < maxRxQueuePerLcore

/-- `mask & (1 << portid)`. -/
def inMask (mask : BitVec 32) (portid : Nat) : Bool :=
  mask &&& (1 : BitVec 32) <<< portid ≠ 0

/-- One turn of the inner loop of `check_port_pair_config`. -/
def checkPort (eal : Eal) (mask portPairMask : BitVec 32) (portid : Nat) : Option (BitVec 32) :=
  if inMask mask portid = false then none
  else if portid ∉ eal.devs then none
  else some (portPairMask ||| (1 : BitVec 32) <<< portid)

/-- One turn of the outer loop. -/
def checkPair (eal : Eal) (mask portPairConfigMask : BitVec 32) (pair : Nat × Nat) :
    Option (BitVec 32) := do
  let portPairMask ← [pair.1, pair.2].foldlM (checkPort eal mask) 0
  if portPairConfigMask &&& portPairMask ≠ 0 then none
  else some (portPairConfigMask ||| portPairMask)

/-- The new `l2fwd_enabled_port_mask`. -/
def checkPortPairConfig (eal : Eal) (mask : BitVec 32) (pairs : List (Nat × Nat)) :
    Option (BitVec 32) := do
  let portPairConfigMask ← pairs.foldlM (checkPair eal mask) 0
  some (mask &&& portPairConfigMask)

/-- The loop over `port_pair_params`: two turns for a pair. -/
def populatePair (dstPorts : Nat → Nat) (pair : Nat × Nat) : Nat → Nat :=
  Function.update (Function.update dstPorts pair.1 pair.2) pair.2 pair.1

/-- The variables of the loop that pairs enabled ports in their order. -/
structure Pairing where
  dstPorts : Nat → Nat
  lastPort : Nat
  nbPortsInMask : Nat

def pairPort (pairing : Pairing) (portid : Nat) : Pairing :=
  if pairing.nbPortsInMask % 2 ≠ 0 then
    { pairing with
      dstPorts := Function.update (Function.update pairing.dstPorts portid pairing.lastPort)
        pairing.lastPort portid
      nbPortsInMask := pairing.nbPortsInMask + 1 }
  else
    { pairing with
      lastPort := portid
      nbPortsInMask := pairing.nbPortsInMask + 1 }

/-- `skip ports that are not enabled`. -/
def enabledPorts (eal : Eal) (mask : BitVec 32) : List Nat :=
  eal.devs.filter (inMask mask)

/-- An odd number of enabled ports leaves one without a partner. -/
def closePairing (pairing : Pairing) : Nat → Nat :=
  if pairing.nbPortsInMask % 2 ≠ 0 then
    Function.update pairing.dstPorts pairing.lastPort pairing.lastPort
  else pairing.dstPorts

def pairPorts (ports : List Nat) : Nat → Nat :=
  closePairing (ports.foldl pairPort ⟨fun _ => 0, 0, 0⟩)

/-- The variables of the loop that assigns the ports. A list has as many entries as
its `n_rx_port` says; `qconf` is the core that the pointer designates. -/
structure Queues where
  rxLcoreId : Nat
  rxPortList : Nat → List Nat
  qconf : Option Nat
  nbLcores : Nat

/-- `get the lcore_id for this port`, with as many turns as there are cores left. -/
def getLcore (eal : Eal) (perLcore : Nat) (rxPortList : Nat → List Nat) (rxLcoreId : Nat) :
    Nat → Option Nat
  | 0 => none
  | turns + 1 =>
      if eal.rteLcoreIsEnabled rxLcoreId = false ∨ (rxPortList rxLcoreId).length = perLcore then
        getLcore eal perLcore rxPortList (rxLcoreId + 1) turns
      else some rxLcoreId

def assignPort (eal : Eal) (perLcore : Nat) (queues : Queues) (portid : Nat) : Option Queues := do
  let rxLcoreId ← getLcore eal perLcore queues.rxPortList queues.rxLcoreId
    (eal.rteMaxLcore - queues.rxLcoreId)
  some
    { rxLcoreId := rxLcoreId
      rxPortList := Function.update queues.rxPortList rxLcoreId
        (queues.rxPortList rxLcoreId ++ [portid])
      qconf := some rxLcoreId
      nbLcores := if queues.qconf = some rxLcoreId then queues.nbLcores else queues.nbLcores + 1 }

def assignPorts (eal : Eal) (perLcore : Nat) (ports : List Nat) : Option Queues :=
  ports.foldlM (assignPort eal perLcore) ⟨0, fun _ => [], none, 0⟩

/-- What `main` leaves for the main loop. -/
structure Layout where
  l2fwdEnabledPortMask : BitVec 32
  l2fwdDstPorts : Nat → Nat
  queues : Queues

/-- The mask after `check_port_pair_config`, if there are pairs to check. -/
def checkedMask (eal : Eal) (options : Options) : Option (BitVec 32) :=
  match options.portPairParams with
  | some pairs => checkPortPairConfig eal options.l2fwdEnabledPortMask pairs
  | none => some options.l2fwdEnabledPortMask

/-- `populate destination port details`. -/
def populateDstPorts (options : Options) (ports : List Nat) : Nat → Nat :=
  match options.portPairParams with
  | some pairs => pairs.foldl populatePair fun _ => 0
  | none => pairPorts ports

/-- `l2fwd_enabled_port_mask & ~((1 << nb_ports) - 1)`, on machines that take the
distance of a shift modulo 32. -/
def beyondPorts (mask : BitVec 32) (nbPorts : Nat) : BitVec 32 :=
  mask &&& ~~~((1 : BitVec 32) <<< (nbPorts % 32) - 1)

/-- `main` between the parsing of its arguments and the launch of the cores, none
for `rte_exit`. -/
def setUp (eal : Eal) (options : Options) : Option Layout :=
  if eal.devs.length = 0 then none
  else do
    let mask ← checkedMask eal options
    if beyondPorts mask eal.devs.length ≠ 0 then none
    else
      let ports := enabledPorts eal mask
      let dstPorts := populateDstPorts options ports
      let queues ← assignPorts eal options.l2fwdRxQueuePerLcore ports
      if ports.length = 0 then none else some ⟨mask, dstPorts, queues⟩

/-! ## Masks -/

theorem and_ne_zero_iff {left right : BitVec 32} :
    left &&& right ≠ 0 ↔ ∃ bit, left.getLsbD bit = true ∧ right.getLsbD bit = true := by
  constructor
  · intro common
    by_contra disjoint
    apply common
    apply BitVec.eq_of_getLsbD_eq
    intro bit _
    by_contra set
    apply disjoint
    refine ⟨bit, ?_⟩
    simpa using set
  · rintro ⟨bit, here, there⟩ zero
    have clear := congrArg (fun mask => mask.getLsbD bit) zero
    simp [here, there] at clear

theorem getLsbD_bit (portid bit : Nat) :
    ((1 : BitVec 32) <<< portid).getLsbD bit = true ↔ bit < 32 ∧ bit = portid := by
  rw [BitVec.getLsbD_shiftLeft]
  simp
  omega

theorem inMask_iff (mask : BitVec 32) (portid : Nat) :
    inMask mask portid = true ↔ mask.getLsbD portid = true := by
  rw [inMask, decide_eq_true_iff, and_ne_zero_iff]
  constructor
  · rintro ⟨bit, set, same⟩
    rw [← ((getLsbD_bit portid bit).mp same).2]
    exact set
  · intro set
    exact ⟨portid, set, (getLsbD_bit portid portid).mpr ⟨BitVec.lt_of_getLsbD set, rfl⟩⟩

theorem inMask_zero (portid : Nat) : inMask 0 portid = false := by
  simp [inMask]

@[simp] theorem inMask_or (left right : BitVec 32) (portid : Nat) :
    inMask (left ||| right) portid = (inMask left portid || inMask right portid) := by
  rw [Bool.eq_iff_iff]
  simp [inMask_iff]

@[simp] theorem inMask_and (left right : BitVec 32) (portid : Nat) :
    inMask (left &&& right) portid = (inMask left portid && inMask right portid) := by
  rw [Bool.eq_iff_iff]
  simp [inMask_iff]

theorem inMask_bit {portid : Nat} (below : portid < 32) (other : Nat) :
    inMask ((1 : BitVec 32) <<< portid) other = decide (other = portid) := by
  rw [Bool.eq_iff_iff, inMask_iff, getLsbD_bit, decide_eq_true_iff]
  omega

theorem meet_iff {left right : BitVec 32} :
    left &&& right ≠ 0 ↔ ∃ portid, inMask left portid = true ∧ inMask right portid = true := by
  simp only [and_ne_zero_iff, inMask_iff]

/-! ## Pairs of the command line -/

def ends (pair : Nat × Nat) : List Nat :=
  [pair.1, pair.2]

/-- What `check_port_pair_config` lets through. -/
structure Admissible (eal : Eal) (mask : BitVec 32) (pairs : List (Nat × Nat)) : Prop where
  usable : ∀ pair ∈ pairs, ∀ portid ∈ ends pair, inMask mask portid = true ∧ portid ∈ eal.devs
  disjoint : pairs.Pairwise fun pair other => ∀ portid ∈ ends pair, portid ∉ ends other

variable {eal : Eal} {mask : BitVec 32}

theorem checkPort_eq_some_iff {portPairMask next : BitVec 32} {portid : Nat} :
    checkPort eal mask portPairMask portid = some next ↔
      (inMask mask portid = true ∧ portid ∈ eal.devs) ∧
        next = portPairMask ||| (1 : BitVec 32) <<< portid := by
  rw [checkPort]
  cases inMask mask portid with
  | false => simp
  | true =>
      by_cases present : portid ∈ eal.devs
      · simp [present, eq_comm]
      · simp [present]

theorem Eal.devs_below (eal : Eal) {portid : Nat} (present : portid ∈ eal.devs) : portid < 32 :=
  Nat.lt_of_lt_of_le (eal.devs_lt portid present) eal.maxEthports_le

def pairMask (pair : Nat × Nat) : BitVec 32 :=
  0 ||| (1 : BitVec 32) <<< pair.1 ||| (1 : BitVec 32) <<< pair.2

theorem inMask_pairMask {pair : Nat × Nat}
    (usable : ∀ portid ∈ ends pair, inMask mask portid = true ∧ portid ∈ eal.devs)
    (portid : Nat) : inMask (pairMask pair) portid = decide (portid ∈ ends pair) := by
  have first := eal.devs_below (usable pair.1 (by simp [ends])).2
  have second := eal.devs_below (usable pair.2 (by simp [ends])).2
  rw [pairMask, inMask_or, inMask_or, inMask_zero, inMask_bit first, inMask_bit second]
  simp [ends]

/-- Both turns of the inner loop. -/
theorem checkPorts_eq_some_iff {pair : Nat × Nat} {portPairMask : BitVec 32} :
    [pair.1, pair.2].foldlM (checkPort eal mask) 0 = some portPairMask ↔
      (∀ portid ∈ ends pair, inMask mask portid = true ∧ portid ∈ eal.devs) ∧
        portPairMask = pairMask pair := by
  simp only [List.foldlM_cons, List.foldlM_nil, Option.bind_eq_bind, Option.bind_eq_some_iff,
    checkPort_eq_some_iff, Option.pure_def, Option.some.injEq, ends, List.mem_cons,
    List.not_mem_nil, or_false, forall_eq_or_imp, forall_eq]
  constructor
  · rintro ⟨_, ⟨first, rfl⟩, _, ⟨second, rfl⟩, rfl⟩
    exact ⟨⟨first, second⟩, rfl⟩
  · rintro ⟨⟨first, second⟩, rfl⟩
    exact ⟨_, ⟨first, rfl⟩, _, ⟨second, rfl⟩, rfl⟩

/-- A pair is let through if its ports are usable and new. -/
theorem checkPair_eq_some_iff {portPairConfigMask next : BitVec 32} {pair : Nat × Nat} :
    checkPair eal mask portPairConfigMask pair = some next ↔
      (∀ portid ∈ ends pair, inMask mask portid = true ∧ portid ∈ eal.devs) ∧
        (∀ portid ∈ ends pair, inMask portPairConfigMask portid = false) ∧
        next = portPairConfigMask ||| pairMask pair := by
  simp only [checkPair, Option.bind_eq_bind, Option.bind_eq_some_iff, checkPorts_eq_some_iff]
  have fresh (usable : ∀ portid ∈ ends pair, inMask mask portid = true ∧ portid ∈ eal.devs) :
      portPairConfigMask &&& pairMask pair ≠ 0 ↔
        ¬ ∀ portid ∈ ends pair, inMask portPairConfigMask portid = false := by
    rw [meet_iff]
    simp only [inMask_pairMask usable, decide_eq_true_eq, not_forall, Bool.not_eq_false,
      exists_prop]
    exact exists_congr fun portid => and_comm
  constructor
  · rintro ⟨_, ⟨usable, rfl⟩, rest⟩
    by_cases new : ∀ portid ∈ ends pair, inMask portPairConfigMask portid = false
    · rw [if_neg fun common => (fresh usable).mp common new, Option.some.injEq] at rest
      exact ⟨usable, new, rest.symm⟩
    · rw [if_pos ((fresh usable).mpr new)] at rest
      exact absurd rest nofun
  · rintro ⟨usable, new, rfl⟩
    exact ⟨pairMask pair, ⟨usable, rfl⟩, if_neg fun common => (fresh usable).mp common new⟩

/-- The outer loop, from any mask. -/
theorem checkPairs_eq_some_iff {pairs : List (Nat × Nat)} {portPairConfigMask last : BitVec 32} :
    pairs.foldlM (checkPair eal mask) portPairConfigMask = some last ↔
      (Admissible eal mask pairs ∧
        ∀ pair ∈ pairs, ∀ portid ∈ ends pair, inMask portPairConfigMask portid = false) ∧
        last = pairs.foldl (fun accepted pair => accepted ||| pairMask pair) portPairConfigMask := by
  induction pairs generalizing portPairConfigMask with
  | nil =>
      rw [List.foldlM_nil, List.foldl_nil, Option.pure_def, Option.some.injEq]
      constructor
      · intro same
        exact ⟨⟨⟨nofun, List.Pairwise.nil⟩, nofun⟩, same.symm⟩
      · rintro ⟨-, rfl⟩
        rfl
  | cons pair rest inductionHypothesis =>
      rw [List.foldlM_cons, List.foldl_cons, Option.bind_eq_bind, Option.bind_eq_some_iff]
      constructor
      · rintro ⟨next, accepted, later⟩
        obtain ⟨usable, new, rfl⟩ := checkPair_eq_some_iff.mp accepted
        obtain ⟨⟨admissible, newLater⟩, same⟩ := inductionHypothesis.mp later
        simp only [inMask_or, Bool.or_eq_false_iff, inMask_pairMask usable,
          decide_eq_false_iff_not] at newLater
        refine ⟨⟨⟨?_, List.pairwise_cons.mpr ⟨?_, admissible.disjoint⟩⟩, ?_⟩, same⟩
        · exact List.forall_mem_cons.mpr ⟨usable, admissible.usable⟩
        · intro other member portid here there
          exact (newLater other member portid there).2 here
        · exact List.forall_mem_cons.mpr
            ⟨new, fun other member portid here => (newLater other member portid here).1⟩
      · rintro ⟨⟨admissible, new⟩, same⟩
        obtain ⟨usable, usableLater⟩ := List.forall_mem_cons.mp admissible.usable
        obtain ⟨apart, disjoint⟩ := List.pairwise_cons.mp admissible.disjoint
        obtain ⟨newHere, newLater⟩ := List.forall_mem_cons.mp new
        refine ⟨_, checkPair_eq_some_iff.mpr ⟨usable, newHere, rfl⟩, ?_⟩
        refine inductionHypothesis.mpr ⟨⟨⟨usableLater, disjoint⟩, ?_⟩, same⟩
        intro other member portid there
        rw [inMask_or, newLater other member portid there, Bool.false_or, inMask_pairMask usable,
          decide_eq_false_iff_not]
        exact fun here => apart other member portid here there

theorem inMask_acceptedMask {pairs : List (Nat × Nat)} (admissible : Admissible eal mask pairs)
    (start : BitVec 32) (portid : Nat) :
    inMask (pairs.foldl (fun accepted pair => accepted ||| pairMask pair) start) portid = true ↔
      inMask start portid = true ∨ ∃ pair ∈ pairs, portid ∈ ends pair := by
  induction pairs generalizing start with
  | nil => simp
  | cons pair rest inductionHypothesis =>
      obtain ⟨usable, usableLater⟩ := List.forall_mem_cons.mp admissible.usable
      rw [List.foldl_cons, inductionHypothesis ⟨usableLater, admissible.disjoint.of_cons⟩, inMask_or,
        inMask_pairMask usable, Bool.or_eq_true, decide_eq_true_eq, List.exists_mem_cons_iff, or_assoc]

/-- The check passes exactly for admissible pairs, and then enables their ports. -/
theorem checkPortPairConfig_eq_some_iff {pairs : List (Nat × Nat)} {enabled : BitVec 32} :
    checkPortPairConfig eal mask pairs = some enabled ↔
      Admissible eal mask pairs ∧
        enabled = mask &&& pairs.foldl (fun accepted pair => accepted ||| pairMask pair) 0 := by
  simp only [checkPortPairConfig, Option.bind_eq_bind, Option.bind_eq_some_iff,
    checkPairs_eq_some_iff, Option.some.injEq, inMask_zero, implies_true, and_true]
  constructor
  · rintro ⟨_, ⟨admissible, rfl⟩, rfl⟩
    exact ⟨admissible, rfl⟩
  · rintro ⟨admissible, rfl⟩
    exact ⟨_, ⟨admissible, rfl⟩, rfl⟩

/-! ## Partners -/

/-- Two by two in their order, and the last of an odd number with itself. -/
def PairedBy (dstPorts : Nat → Nat) : List Nat → Prop
  | [] => True
  | [port] => dstPorts port = port
  | port :: partner :: rest =>
      dstPorts port = partner ∧ dstPorts partner = port ∧ PairedBy dstPorts rest

theorem PairedBy.partner {dstPorts : Nat → Nat} : ∀ {ports : List Nat},
    PairedBy dstPorts ports → ∀ port ∈ ports,
      dstPorts port ∈ ports ∧ dstPorts (dstPorts port) = port
  | [], _ => nofun
  | [only], paired => by
      intro port member
      rw [List.mem_singleton.mp member]
      rw [PairedBy] at paired
      rw [paired, paired]
      exact ⟨List.mem_singleton_self only, rfl⟩
  | first :: second :: rest, paired => by
      obtain ⟨there, back, later⟩ := paired
      intro port member
      rcases List.mem_cons.mp member with rfl | member
      · rw [there, back]
        exact ⟨by simp, rfl⟩
      rcases List.mem_cons.mp member with rfl | member
      · rw [back, there]
        exact ⟨by simp, rfl⟩
      · obtain ⟨inside, twice⟩ := later.partner port member
        exact ⟨by simp [inside], twice⟩

theorem pairPort_twice {start : Pairing} (even : start.nbPortsInMask % 2 = 0)
    (first second : Nat) :
    pairPort (pairPort start first) second =
      { dstPorts := Function.update (Function.update start.dstPorts second first) first second
        lastPort := first
        nbPortsInMask := start.nbPortsInMask + 2 } := by
  have opened : pairPort start first =
      { start with lastPort := first, nbPortsInMask := start.nbPortsInMask + 1 } :=
    if_neg (by omega)
  rw [opened, pairPort, if_pos (by dsimp only; omega)]

/-- The loop, two turns at a time. -/
theorem pairedBy_from : ∀ (ports : List Nat) (start : Pairing),
    ports.Nodup → start.nbPortsInMask % 2 = 0 →
      PairedBy (closePairing (ports.foldl pairPort start)) ports ∧
        ∀ port ∉ ports, closePairing (ports.foldl pairPort start) port = start.dstPorts port
  | [], start, _, even => by
      rw [List.foldl_nil, closePairing, if_neg (by omega)]
      exact ⟨trivial, fun _ _ => rfl⟩
  | [only], start, _, even => by
      rw [List.foldl_cons, List.foldl_nil, pairPort, if_neg (by omega), closePairing,
        if_pos (by dsimp only; omega)]
      refine ⟨Function.update_self .., fun port outside => ?_⟩
      exact Function.update_of_ne (by simpa using outside) ..
  | first :: second :: rest, start, distinct, even => by
      obtain ⟨new, distinct⟩ := List.nodup_cons.mp distinct
      obtain ⟨newSecond, distinct⟩ := List.nodup_cons.mp distinct
      rw [List.mem_cons, not_or] at new
      rw [List.foldl_cons, List.foldl_cons, pairPort_twice even]
      obtain ⟨paired, others⟩ := pairedBy_from rest
        { dstPorts := Function.update (Function.update start.dstPorts second first) first second
          lastPort := first
          nbPortsInMask := start.nbPortsInMask + 2 } distinct (by dsimp only; omega)
      refine ⟨⟨?_, ?_, paired⟩, ?_⟩
      · rw [others first new.2]
        exact Function.update_self ..
      · rw [others second newSecond]
        exact (Function.update_of_ne (Ne.symm new.1) ..).trans (Function.update_self ..)
      · intro port outside
        rw [List.mem_cons, List.mem_cons, not_or, not_or] at outside
        rw [others port outside.2.2]
        exact (Function.update_of_ne outside.1 ..).trans (Function.update_of_ne outside.2.1 ..)

theorem pairPorts_pairedBy {ports : List Nat} (distinct : ports.Nodup) :
    PairedBy (pairPorts ports) ports :=
  (pairedBy_from ports ⟨fun _ => 0, 0, 0⟩ distinct rfl).1

/-- The pairs of the command line, filled in one after the other. -/
theorem populatePairs_partner {pairs : List (Nat × Nat)}
    (disjoint : pairs.Pairwise fun pair other => ∀ portid ∈ ends pair, portid ∉ ends other)
    (start : Nat → Nat) :
    (∀ pair ∈ pairs, pairs.foldl populatePair start pair.1 = pair.2 ∧
      pairs.foldl populatePair start pair.2 = pair.1) ∧
      ∀ portid, (∀ pair ∈ pairs, portid ∉ ends pair) →
        pairs.foldl populatePair start portid = start portid := by
  induction pairs generalizing start with
  | nil => exact ⟨nofun, fun _ _ => rfl⟩
  | cons pair rest inductionHypothesis =>
      obtain ⟨apart, disjoint⟩ := List.pairwise_cons.mp disjoint
      obtain ⟨paired, others⟩ := inductionHypothesis disjoint (populatePair start pair)
      have kept (portid : Nat) (member : portid ∈ ends pair) :
          rest.foldl populatePair (populatePair start pair) portid =
            populatePair start pair portid :=
        others portid fun other there => apart other there portid member
      refine ⟨List.forall_mem_cons.mpr ⟨?_, paired⟩, ?_⟩
      · rw [List.foldl_cons, kept pair.1 (by simp [ends]), kept pair.2 (by simp [ends])]
        refine ⟨?_, Function.update_self ..⟩
        by_cases same : pair.1 = pair.2
        · rw [populatePair, ← same, Function.update_self]
        · rw [populatePair, Function.update_of_ne same, Function.update_self]
      · intro portid outside
        obtain ⟨here, later⟩ := List.forall_mem_cons.mp outside
        simp only [ends, List.mem_cons, List.not_mem_nil, or_false, not_or] at here
        rw [List.foldl_cons, others portid later, populatePair, Function.update_of_ne here.2,
          Function.update_of_ne here.1]

/-! ## Cores -/

/-- The cores that may poll. -/
def enabledLcores (eal : Eal) : Finset Nat :=
  (Finset.range eal.rteMaxLcore).filter fun lcore => eal.rteLcoreIsEnabled lcore = true

/-- The cores that have something to poll. -/
def pollingLcores (eal : Eal) (rxPortList : Nat → List Nat) : Finset Nat :=
  (Finset.range eal.rteMaxLcore).filter fun lcore => rxPortList lcore ≠ []

/-- The ports that have been given out, in the order of the cores. -/
def polledPorts (eal : Eal) (rxPortList : Nat → List Nat) : List Nat :=
  (List.range eal.rteMaxLcore).flatMap rxPortList

/-- After the ports `done`. Only the core of `rx_lcore_id` may be partly filled. -/
structure Assigned (eal : Eal) (perLcore : Nat) (done : List Nat) (queues : Queues) : Prop where
  ports : polledPorts eal queues.rxPortList = done
  ahead : ∀ lcore, queues.rxLcoreId < lcore → queues.rxPortList lcore = []
  full : ∀ lcore < queues.rxLcoreId, eal.rteLcoreIsEnabled lcore = true →
    (queues.rxPortList lcore).length = perLcore
  room : ∀ lcore, (queues.rxPortList lcore).length ≤ perLcore
  enabled : ∀ lcore, queues.rxPortList lcore ≠ [] → lcore ∈ enabledLcores eal
  current : ∀ lcore, queues.qconf = some lcore ↔
    lcore = queues.rxLcoreId ∧ queues.rxPortList lcore ≠ []
  counted : queues.nbLcores = (pollingLcores eal queues.rxPortList).card

variable {perLcore : Nat} {queues : Queues}

theorem getLcore_some {rxPortList : Nat → List Nat} {rxLcoreId turns found : Nat}
    (search : getLcore eal perLcore rxPortList rxLcoreId turns = some found) :
    rxLcoreId ≤ found ∧ found < rxLcoreId + turns ∧ eal.rteLcoreIsEnabled found = true ∧
      (rxPortList found).length ≠ perLcore ∧
      ∀ lcore, rxLcoreId ≤ lcore → lcore < found → eal.rteLcoreIsEnabled lcore = true →
        (rxPortList lcore).length = perLcore := by
  induction turns generalizing rxLcoreId with
  | zero => exact absurd search nofun
  | succ turns inductionHypothesis =>
      rw [getLcore] at search
      split at search
      case isTrue passed =>
        obtain ⟨after, within, enabled, unfilled, skipped⟩ := inductionHypothesis search
        refine ⟨by omega, by omega, enabled, unfilled, fun lcore reached before running => ?_⟩
        rcases Nat.eq_or_lt_of_le reached with rfl | later
        · exact passed.resolve_left (by simp [running])
        · exact skipped lcore later before running
      case isFalse stopped =>
        rw [not_or, Bool.not_eq_false] at stopped
        obtain rfl := Option.some.inj search
        exact ⟨le_rfl, by omega, stopped.1, stopped.2, fun lcore reached before => by omega⟩

theorem getLcore_none {rxPortList : Nat → List Nat} {rxLcoreId turns : Nat}
    (search : getLcore eal perLcore rxPortList rxLcoreId turns = none) (lcore : Nat)
    (within : rxLcoreId ≤ lcore ∧ lcore < rxLcoreId + turns)
    (running : eal.rteLcoreIsEnabled lcore = true) : (rxPortList lcore).length = perLcore := by
  induction turns generalizing rxLcoreId with
  | zero => omega
  | succ turns inductionHypothesis =>
      rw [getLcore] at search
      split at search
      case isTrue passed =>
        rcases Nat.eq_or_lt_of_le within.1 with rfl | later
        · exact passed.resolve_left (by simp [running])
        · exact inductionHypothesis search ⟨later, by omega⟩
      case isFalse => exact absurd search nofun

/-- A port more at the last list that is not empty. -/
theorem polledPorts_update {rxPortList : Nat → List Nat} {found : Nat}
    (within : found < eal.rteMaxLcore) (ahead : ∀ lcore, found < lcore → rxPortList lcore = [])
    (port : Nat) :
    polledPorts eal (Function.update rxPortList found (rxPortList found ++ [port])) =
      polledPorts eal rxPortList ++ [port] := by
  unfold polledPorts
  generalize eal.rteMaxLcore = count at within ⊢
  induction count with
  | zero => omega
  | succ last inductionHypothesis =>
      rw [List.range_succ, List.flatMap_append, List.flatMap_append, List.flatMap_singleton,
        List.flatMap_singleton]
      rcases Nat.lt_succ_iff_lt_or_eq.mp within with before | rfl
      · rw [inductionHypothesis before, Function.update_of_ne (by omega), ahead last before,
          List.append_nil, List.append_nil]
      · have earlier : (List.range found).flatMap
            (Function.update rxPortList found (rxPortList found ++ [port])) =
              (List.range found).flatMap rxPortList := by
          apply List.flatMap_congr
          intro lcore member
          exact Function.update_of_ne (Nat.ne_of_lt (List.mem_range.mp member)) ..
        rw [earlier, Function.update_self, List.append_assoc]

theorem length_polledPorts (rxPortList : Nat → List Nat) :
    (polledPorts eal rxPortList).length =
      ∑ lcore ∈ Finset.range eal.rteMaxLcore, (rxPortList lcore).length := by
  unfold polledPorts
  induction eal.rteMaxLcore with
  | zero => rfl
  | succ last inductionHypothesis =>
      rw [List.range_succ, Finset.sum_range_succ, ← inductionHypothesis]
      simp

/-- Only enabled cores count. -/
theorem Assigned.length_done {done : List Nat} (held : Assigned eal perLcore done queues) :
    done.length = ∑ lcore ∈ enabledLcores eal, (queues.rxPortList lcore).length := by
  rw [← held.ports, length_polledPorts, enabledLcores, Finset.sum_filter]
  apply Finset.sum_congr rfl
  intro lcore _
  split
  case isTrue => rfl
  case isFalse disabled =>
    by_contra polls
    have enabled := held.enabled lcore (by rintro empty; simp [empty] at polls)
    exact disabled (Finset.mem_filter.mp enabled).2

theorem pollingLcores_update {rxPortList : Nat → List Nat} {found : Nat}
    (within : found < eal.rteMaxLcore) (port : Nat) :
    pollingLcores eal (Function.update rxPortList found (rxPortList found ++ [port])) =
      insert found (pollingLcores eal rxPortList) := by
  ext lcore
  rw [pollingLcores, pollingLcores, Finset.mem_insert, Finset.mem_filter, Finset.mem_filter]
  by_cases same : lcore = found
  · subst same
    simp [within]
  · simp [same]

/-- The count goes up with the first port of a core. -/
theorem Assigned.counted_next {done : List Nat} (held : Assigned eal perLcore done queues)
    {found : Nat} (after : queues.rxLcoreId ≤ found) (within : found < eal.rteMaxLcore)
    (port : Nat) :
    (if queues.qconf = some found then queues.nbLcores else queues.nbLcores + 1) =
      (pollingLcores eal
        (Function.update queues.rxPortList found (queues.rxPortList found ++ [port]))).card := by
  rw [pollingLcores_update within]
  split
  case isTrue same =>
    have polls := ((held.current found).mp same).2
    rw [Finset.insert_eq_of_mem (by simp [pollingLcores, within, polls]), held.counted]
  case isFalse other =>
    have empty : queues.rxPortList found = [] := by
      by_contra polls
      rcases Nat.eq_or_lt_of_le after with same | later
      · exact other ((held.current found).mpr ⟨same.symm, polls⟩)
      · exact polls (held.ahead found later)
    rw [Finset.card_insert_of_notMem (by simp [pollingLcores, empty]), held.counted]

theorem Assigned.step {done : List Nat} (held : Assigned eal perLcore done queues)
    {port : Nat} {next : Queues} (assigned : assignPort eal perLcore queues port = some next) :
    Assigned eal perLcore (done ++ [port]) next := by
  rw [assignPort, Option.bind_eq_bind, Option.bind_eq_some_iff] at assigned
  obtain ⟨found, search, rest⟩ := assigned
  obtain rfl := Option.some.inj rest
  obtain ⟨after, below, running, unfilled, skipped⟩ := getLcore_some search
  have within : found < eal.rteMaxLcore := by omega
  have ahead (lcore : Nat) (later : found < lcore) : queues.rxPortList lcore = [] :=
    held.ahead lcore (by omega)
  have others {lcore : Nat} (other : lcore ≠ found) :
      Function.update queues.rxPortList found (queues.rxPortList found ++ [port]) lcore =
        queues.rxPortList lcore :=
    Function.update_of_ne other ..
  have here : Function.update queues.rxPortList found (queues.rxPortList found ++ [port]) found =
      queues.rxPortList found ++ [port] :=
    Function.update_self ..
  constructor <;> dsimp only
  · rw [polledPorts_update within ahead, held.ports]
  · intro lcore later
    exact (others (Nat.ne_of_gt later)).trans (ahead lcore later)
  · intro lcore before enabled
    rw [others (Nat.ne_of_lt before)]
    by_cases passed : lcore < queues.rxLcoreId
    · exact held.full lcore passed enabled
    · exact skipped lcore (by omega) before enabled
  · intro lcore
    by_cases same : lcore = found
    · rw [same, here, List.length_append, List.length_singleton]
      exact Nat.lt_of_le_of_ne (held.room found) unfilled
    · rw [others same]
      exact held.room lcore
  · intro lcore polls
    by_cases same : lcore = found
    · rw [same]
      exact Finset.mem_filter.mpr ⟨Finset.mem_range.mpr within, running⟩
    · exact held.enabled lcore (others same ▸ polls)
  · intro lcore
    constructor
    · intro current
      obtain rfl := Option.some.inj current
      exact ⟨rfl, by simp⟩
    · rintro ⟨rfl, -⟩
      rfl
  · exact held.counted_next after within port

/-- No core is left when every enabled one is full. -/
theorem Assigned.stuck {done : List Nat} (held : Assigned eal perLcore done queues)
    {port : Nat} (failed : assignPort eal perLcore queues port = none) :
    done.length = perLcore * (enabledLcores eal).card := by
  rw [assignPort, Option.bind_eq_bind, Option.bind_eq_none_iff] at failed
  have search : getLcore eal perLcore queues.rxPortList queues.rxLcoreId
      (eal.rteMaxLcore - queues.rxLcoreId) = none := by
    cases found : getLcore eal perLcore queues.rxPortList queues.rxLcoreId
        (eal.rteMaxLcore - queues.rxLcoreId) with
    | none => rfl
    | some rxLcoreId => exact absurd (failed rxLcoreId found) nofun
  rw [held.length_done, Nat.mul_comm]
  apply Finset.sum_const_nat
  intro lcore member
  obtain ⟨within, enabled⟩ := Finset.mem_filter.mp member
  have below := Finset.mem_range.mp within
  by_cases passed : lcore < queues.rxLcoreId
  · exact held.full lcore passed enabled
  · exact getLcore_none search lcore (by omega) enabled

theorem assigned_start (eal : Eal) (perLcore : Nat) :
    Assigned eal perLcore [] ⟨0, fun _ => [], none, 0⟩ where
  ports := by simp [polledPorts]
  ahead := fun _ _ => rfl
  full := nofun
  room := fun _ => Nat.zero_le _
  enabled := fun _ polls => absurd rfl polls
  current := by simp
  counted := by simp [pollingLcores]

/-- The loop over the ports. -/
theorem Assigned.run {done : List Nat} (held : Assigned eal perLcore done queues)
    (ports : List Nat) :
    match ports.foldlM (assignPort eal perLcore) queues with
    | some last => Assigned eal perLcore (done ++ ports) last
    | none => perLcore * (enabledLcores eal).card < (done ++ ports).length := by
  induction ports generalizing done queues with
  | nil =>
      rw [List.foldlM_nil, List.append_nil]
      exact held
  | cons port rest inductionHypothesis =>
      rw [List.foldlM_cons, Option.bind_eq_bind]
      cases assigned : assignPort eal perLcore queues port with
      | none =>
          rw [Option.bind_none, ← held.stuck assigned]
          simp
      | some next =>
          rw [Option.bind_some]
          have later := inductionHypothesis (held.step assigned)
          rw [List.append_assoc, List.singleton_append] at later
          exact later

/-- The ports find cores exactly if these have room for all of them. -/
theorem assignPorts_isSome_iff (eal : Eal) (perLcore : Nat) (ports : List Nat) :
    (assignPorts eal perLcore ports).isSome ↔
      ports.length ≤ perLcore * (enabledLcores eal).card := by
  have run := (assigned_start eal perLcore).run ports
  rw [assignPorts]
  cases result : ports.foldlM (assignPort eal perLcore) ⟨0, fun _ => [], none, 0⟩ with
  | none =>
      rw [result] at run
      simpa using run
  | some last =>
      rw [result, List.nil_append] at run
      have room := Finset.sum_le_card_nsmul (enabledLcores eal)
        (fun lcore => (last.rxPortList lcore).length) perLcore fun lcore _ => run.room lcore
      rw [smul_eq_mul, Nat.mul_comm, ← run.length_done] at room
      simpa using room

/-! ## What the main loop relies on -/

/-- Ports in pairs, and each of them with one core. -/
structure Serves (eal : Eal) (options : Options) (layout : Layout) : Prop where
  partner : ∀ port ∈ enabledPorts eal layout.l2fwdEnabledPortMask,
    layout.l2fwdDstPorts port ∈ enabledPorts eal layout.l2fwdEnabledPortMask ∧
      layout.l2fwdDstPorts (layout.l2fwdDstPorts port) = port
  assigned : Assigned eal options.l2fwdRxQueuePerLcore
    (enabledPorts eal layout.l2fwdEnabledPortMask) layout.queues
  busy : enabledPorts eal layout.l2fwdEnabledPortMask ≠ []

theorem enabledPorts_nodup (eal : Eal) (mask : BitVec 32) : (enabledPorts eal mask).Nodup :=
  eal.devs_nodup.filter _

theorem mem_enabledPorts {port : Nat} :
    port ∈ enabledPorts eal mask ↔ port ∈ eal.devs ∧ inMask mask port = true :=
  List.mem_filter

/-- The mask that the pairs leave enables their ports only. -/
theorem Admissible.partner {pairs : List (Nat × Nat)} (admissible : Admissible eal mask pairs)
    {port : Nat}
    (enabled : port ∈ enabledPorts eal
      (mask &&& pairs.foldl (fun accepted pair => accepted ||| pairMask pair) 0)) :
    pairs.foldl populatePair (fun _ => 0) port ∈ enabledPorts eal
        (mask &&& pairs.foldl (fun accepted pair => accepted ||| pairMask pair) 0) ∧
      pairs.foldl populatePair (fun _ => 0) (pairs.foldl populatePair (fun _ => 0) port) = port := by
  rw [mem_enabledPorts, inMask_and, Bool.and_eq_true, inMask_acceptedMask admissible] at enabled
  obtain ⟨-, -, zero | ⟨pair, member, isEnd⟩⟩ := enabled
  · rw [inMask_zero] at zero
    exact absurd zero nofun
  have usable (other : Nat) (otherEnd : other ∈ ends pair) : other ∈ enabledPorts eal
      (mask &&& pairs.foldl (fun accepted pair => accepted ||| pairMask pair) 0) := by
    obtain ⟨here, present⟩ := admissible.usable pair member other otherEnd
    rw [mem_enabledPorts, inMask_and, Bool.and_eq_true, inMask_acceptedMask admissible]
    exact ⟨present, here, .inr ⟨pair, member, otherEnd⟩⟩
  obtain ⟨there, back⟩ := (populatePairs_partner admissible.disjoint fun _ => 0).1 pair member
  simp only [ends, List.mem_cons, List.not_mem_nil, or_false] at isEnd
  rcases isEnd with rfl | rfl
  · rw [there, back]
    exact ⟨usable pair.2 (by simp [ends]), rfl⟩
  · rw [back, there]
    exact ⟨usable pair.1 (by simp [ends]), rfl⟩

/-- The cases of the set-up, all of which but one end the program. -/
theorem setUp_eq_some_iff {options : Options} {layout : Layout} :
    setUp eal options = some layout ↔
      ∃ mask queues, checkedMask eal options = some mask ∧
        beyondPorts mask eal.devs.length = 0 ∧
        assignPorts eal options.l2fwdRxQueuePerLcore (enabledPorts eal mask) = some queues ∧
        enabledPorts eal mask ≠ [] ∧
        layout = ⟨mask, populateDstPorts options (enabledPorts eal mask), queues⟩ := by
  rw [setUp]
  constructor
  · intro done
    split at done
    case isTrue => exact absurd done nofun
    case isFalse =>
      simp only [Option.bind_eq_bind, Option.bind_eq_some_iff] at done
      obtain ⟨mask, checked, done⟩ := done
      split at done
      case isTrue => exact absurd done nofun
      case isFalse inRange =>
        obtain ⟨queues, assigned, done⟩ := Option.bind_eq_some_iff.mp done
        split at done
        case isTrue => exact absurd done nofun
        case isFalse busy =>
          rw [List.length_eq_zero_iff] at busy
          exact ⟨mask, queues, checked, not_not.mp inRange, assigned, busy,
            (Option.some.inj done).symm⟩
  · rintro ⟨mask, queues, checked, inRange, assigned, busy, rfl⟩
    have present : eal.devs.length ≠ 0 := by
      intro empty
      rw [List.length_eq_zero_iff] at empty
      simp [enabledPorts, empty] at busy
    rw [if_neg present]
    simp only [Option.bind_eq_bind, Option.bind_eq_some_iff]
    refine ⟨mask, checked, ?_⟩
    rw [if_neg (not_not.mpr inRange), assigned, Option.bind_some,
      if_neg (by rwa [List.length_eq_zero_iff])]

theorem setUp_serves {options : Options} {layout : Layout}
    (done : setUp eal options = some layout) : Serves eal options layout := by
  obtain ⟨mask, queues, checked, -, assigned, busy, rfl⟩ := setUp_eq_some_iff.mp done
  have run := (assigned_start eal options.l2fwdRxQueuePerLcore).run (enabledPorts eal mask)
  rw [assignPorts] at assigned
  rw [assigned] at run
  refine ⟨?_, run, busy⟩
  intro port enabled
  dsimp only at enabled ⊢
  unfold populateDstPorts
  unfold checkedMask at checked
  cases params : options.portPairParams with
  | none => exact (pairPorts_pairedBy (enabledPorts_nodup eal mask)).partner port enabled
  | some pairs =>
      rw [params] at checked
      obtain ⟨admissible, rfl⟩ := checkPortPairConfig_eq_some_iff.mp checked
      exact admissible.partner enabled

section Distribution

variable {options : Options} {layout : Layout}

theorem Serves.lcore_mem (serves : Serves eal options layout) {lcore : Nat}
    (polls : layout.queues.rxPortList lcore ≠ []) : lcore ∈ List.range eal.rteMaxLcore :=
  List.mem_range.mpr
    (Finset.mem_range.mp (Finset.mem_filter.mp (serves.assigned.enabled lcore polls)).1)

theorem Serves.mem_iff (serves : Serves eal options layout) {port : Nat} :
    port ∈ enabledPorts eal layout.l2fwdEnabledPortMask ↔
      ∃ lcore, port ∈ layout.queues.rxPortList lcore := by
  rw [← serves.assigned.ports, polledPorts, List.mem_flatMap]
  constructor
  · rintro ⟨lcore, -, polls⟩
    exact ⟨lcore, polls⟩
  · rintro ⟨lcore, polls⟩
    exact ⟨lcore, serves.lcore_mem (List.ne_nil_of_mem polls), polls⟩

/-- The lists of the cores have no port twice and none in common. -/
theorem Serves.lists_nodup (serves : Serves eal options layout) :
    (∀ lcore ∈ List.range eal.rteMaxLcore, (layout.queues.rxPortList lcore).Nodup) ∧
      (List.range eal.rteMaxLcore).Pairwise
        (Function.onFun List.Disjoint layout.queues.rxPortList) := by
  have distinct := enabledPorts_nodup eal layout.l2fwdEnabledPortMask
  rwa [← serves.assigned.ports, polledPorts, List.nodup_flatMap] at distinct

/-- No port is polled twice. -/
theorem Serves.polled_once (serves : Serves eal options layout) {port left right : Nat}
    (here : port ∈ layout.queues.rxPortList left)
    (there : port ∈ layout.queues.rxPortList right) : left = right := by
  by_contra different
  have symmetric : Std.Symm (Function.onFun List.Disjoint layout.queues.rxPortList) :=
    ⟨fun _ _ disjoint => disjoint.symm⟩
  have apart := serves.lists_nodup.2.forall (serves.lcore_mem (List.ne_nil_of_mem here))
    (serves.lcore_mem (List.ne_nil_of_mem there)) different
  exact apart here there

/-- The TX buffers that a core drains are those of the partners of its ports. -/
theorem Serves.drains_iff (serves : Serves eal options layout) {port lcore : Nat}
    (enabled : port ∈ enabledPorts eal layout.l2fwdEnabledPortMask) :
    port ∈ (layout.queues.rxPortList lcore).map layout.l2fwdDstPorts ↔
      layout.l2fwdDstPorts port ∈ layout.queues.rxPortList lcore := by
  rw [List.mem_map]
  constructor
  · rintro ⟨polled, member, rfl⟩
    rwa [(serves.partner polled (serves.mem_iff.mpr ⟨lcore, member⟩)).2]
  · intro member
    exact ⟨_, member, (serves.partner port enabled).2⟩

end Distribution

/-- Forwarding is symmetric, and each enabled port has one core that polls it and
one that drains its TX buffer. -/
structure Distributed (eal : Eal) (options : Options) (layout : Layout) : Prop where
  partner : ∀ port ∈ enabledPorts eal layout.l2fwdEnabledPortMask,
    layout.l2fwdDstPorts port ∈ enabledPorts eal layout.l2fwdEnabledPortMask ∧
      layout.l2fwdDstPorts (layout.l2fwdDstPorts port) = port
  polled : ∀ port ∈ enabledPorts eal layout.l2fwdEnabledPortMask,
    ∃! lcore, port ∈ layout.queues.rxPortList lcore
  drained : ∀ port ∈ enabledPorts eal layout.l2fwdEnabledPortMask,
    ∃! lcore, port ∈ (layout.queues.rxPortList lcore).map layout.l2fwdDstPorts
  distinct : ∀ lcore, (layout.queues.rxPortList lcore).Nodup
  room : ∀ lcore, (layout.queues.rxPortList lcore).length ≤ options.l2fwdRxQueuePerLcore
  inBounds : ∀ lcore, (layout.queues.rxPortList lcore).length < maxRxQueuePerLcore
  enabled : ∀ lcore, layout.queues.rxPortList lcore ≠ [] → lcore ∈ enabledLcores eal
  counted : layout.queues.nbLcores = (pollingLcores eal layout.queues.rxPortList).card

/-- What every set-up that does not end the program leaves. -/
theorem setUp_distributes {options : Options} {layout : Layout}
    (done : setUp eal options = some layout) : Distributed eal options layout := by
  have serves := setUp_serves done
  have once (port : Nat) (enabled : port ∈ enabledPorts eal layout.l2fwdEnabledPortMask) :
      ∃! lcore, port ∈ layout.queues.rxPortList lcore := by
    obtain ⟨lcore, polls⟩ := serves.mem_iff.mp enabled
    exact ⟨lcore, polls, fun _ other => serves.polled_once other polls⟩
  refine ⟨serves.partner, once, fun port enabled => ?_, fun lcore => ?_, serves.assigned.room,
    fun lcore => Nat.lt_of_le_of_lt (serves.assigned.room lcore) options.rxQueuePerLcore_lt,
    serves.assigned.enabled, serves.assigned.counted⟩
  · simp only [serves.drains_iff enabled]
    exact once _ (serves.partner port enabled).1
  · by_cases polls : layout.queues.rxPortList lcore = []
    · rw [polls]
      exact List.nodup_nil
    · exact serves.lists_nodup.1 lcore (serves.lcore_mem polls)

/-- Four ports and two cores. -/
def board : Eal :=
  { rteMaxEthports := 32
    rteMaxLcore := 128
    devs := [0, 1, 2, 3]
    rteLcoreIsEnabled := fun lcore => lcore == 0 || lcore == 5
    maxEthports_le := by decide
    devs_nodup := by decide
    devs_lt := by decide }

/-- `-p f -q 2 --portmap="(0,2)(1,3)"`. -/
def crossed : Options :=
  { l2fwdEnabledPortMask := 15
    l2fwdRxQueuePerLcore := 2
    portPairParams := some [(0, 2), (1, 3)]
    rxQueuePerLcore_lt := by decide }

theorem crossed_distributed :
    ∃ layout, setUp board crossed = some layout ∧ Distributed board crossed layout := by
  have running : (setUp board crossed).isSome = true := by decide +kernel
  obtain ⟨layout, done⟩ := Option.isSome_iff_exists.mp running
  exact ⟨layout, done, setUp_distributes done⟩

/-! ## Launch -/

/-- What one core finds when it enters the main loop. -/
def Serves.config {options : Options} {layout : Layout} (serves : Serves eal options layout)
    (lcore : Nat) (entryProg : Option Runtime.XdpProgram) (txBurst : Nat → Nat → Nat) :
    Config where
  rteMaxEthports := eal.rteMaxEthports
  enabled := fun port => decide (port ∈ enabledPorts eal layout.l2fwdEnabledPortMask)
  l2fwdDstPorts := layout.l2fwdDstPorts
  rxPortList := layout.queues.rxPortList lcore
  entryProg := entryProg
  txBurst := txBurst
  enabled_lt := fun port enabled =>
    eal.devs_lt port (mem_enabledPorts.mp (of_decide_eq_true enabled)).1
  rxPortList_enabled := fun _ polls => decide_eq_true (serves.mem_iff.mpr ⟨lcore, polls⟩)
  dstPort_enabled := fun port enabled =>
    decide_eq_true (serves.partner port (of_decide_eq_true enabled)).1

/-- Each core keeps its books in every run of its loop. -/
theorem Serves.run_mainLoop {options : Options} {layout : Layout}
    (serves : Serves eal options layout) (lcore : Nat) (entryProg : Option Runtime.XdpProgram)
    (txBurst : Nat → Nat → Nat) (memory : Memory) (turns : List Turn) :
    Run (serves.config lcore entryProg txBurst)
      (l2fwdMainLoop (serves.config lcore entryProg txBurst) (initial memory) turns) [] :=
  Dpdk.run_mainLoop _ memory turns

/-! ## Which command lines are accepted -/

theorem beyondPorts_eq_zero_iff {nbPorts : Nat} (few : nbPorts < 32) :
    beyondPorts mask nbPorts = 0 ↔ ∀ port, inMask mask port = true → port < nbPorts := by
  have low (port : Nat) : ((1 : BitVec 32) <<< (nbPorts % 32) - 1).getLsbD port = true ↔
      port < nbPorts := by
    have value : ((1 : BitVec 32) <<< (nbPorts % 32) - 1).toNat = 2 ^ nbPorts - 1 := by
      have bound : 2 ^ nbPorts < 2 ^ 32 := Nat.pow_lt_pow_right (by decide) few
      have positive : 0 < 2 ^ nbPorts := Nat.two_pow_pos nbPorts
      rw [BitVec.toNat_sub, BitVec.toNat_shiftLeft, Nat.mod_eq_of_lt few, Nat.shiftLeft_eq]
      show (2 ^ 32 - 1 + 1 * 2 ^ nbPorts % 2 ^ 32) % 2 ^ 32 = _
      rw [Nat.one_mul, Nat.mod_eq_of_lt bound]
      omega
    rw [BitVec.getLsbD, value, Nat.testBit_two_pow_sub_one, decide_eq_true_iff]
  constructor
  · intro zero port set
    by_contra beyond
    apply absurd zero
    rw [inMask_iff] at set
    rw [beyondPorts, ← ne_eq, and_ne_zero_iff]
    refine ⟨port, set, ?_⟩
    rw [BitVec.getLsbD_not, Bool.eq_false_iff.mpr (mt (low port).mp beyond),
      decide_eq_true (BitVec.lt_of_getLsbD set)]
    rfl
  · intro within
    by_contra nonzero
    rw [beyondPorts, ← ne_eq, and_ne_zero_iff] at nonzero
    obtain ⟨port, set, clear⟩ := nonzero
    rw [BitVec.getLsbD_not, (low port).mpr (within port ((inMask_iff mask port).mpr set))] at clear
    simp at clear

/-- The mask that is in force once the pairs have been checked. -/
def Options.effectiveMask (options : Options) : BitVec 32 :=
  match options.portPairParams with
  | some pairs =>
      options.l2fwdEnabledPortMask &&&
        pairs.foldl (fun accepted pair => accepted ||| pairMask pair) 0
  | none => options.l2fwdEnabledPortMask

theorem checkedMask_eq_some_iff {options : Options} :
    checkedMask eal options = some mask ↔
      (∀ pairs, options.portPairParams = some pairs →
        Admissible eal options.l2fwdEnabledPortMask pairs) ∧ mask = options.effectiveMask := by
  unfold checkedMask Options.effectiveMask
  cases options.portPairParams with
  | none => simp [eq_comm]
  | some pairs =>
      rw [checkPortPairConfig_eq_some_iff]
      simp

/-- The program gets to its main loop exactly if the pairs are admissible, the mask
has no port that is not there, some port is enabled, and the enabled cores have room
for all enabled ports. -/
theorem setUp_isSome_iff (eal : Eal) (options : Options) (few : eal.devs.length < 32) :
    (setUp eal options).isSome ↔
      (∀ pairs, options.portPairParams = some pairs →
        Admissible eal options.l2fwdEnabledPortMask pairs) ∧
        (∀ port, inMask options.effectiveMask port = true → port < eal.devs.length) ∧
        enabledPorts eal options.effectiveMask ≠ [] ∧
        (enabledPorts eal options.effectiveMask).length ≤
          options.l2fwdRxQueuePerLcore * (enabledLcores eal).card := by
  rw [Option.isSome_iff_exists]
  constructor
  · rintro ⟨layout, done⟩
    obtain ⟨mask, queues, checked, inRange, assigned, busy, -⟩ := setUp_eq_some_iff.mp done
    obtain ⟨admissible, rfl⟩ := checkedMask_eq_some_iff.mp checked
    refine ⟨admissible, (beyondPorts_eq_zero_iff few).mp inRange, busy, ?_⟩
    exact (assignPorts_isSome_iff eal _ _).mp (Option.isSome_iff_exists.mpr ⟨queues, assigned⟩)
  · rintro ⟨admissible, inRange, busy, room⟩
    obtain ⟨queues, assigned⟩ :=
      Option.isSome_iff_exists.mp ((assignPorts_isSome_iff eal _ _).mpr room)
    exact ⟨_, setUp_eq_some_iff.mpr ⟨_, queues, checkedMask_eq_some_iff.mpr ⟨admissible, rfl⟩,
      (beyondPorts_eq_zero_iff few).mpr inRange, assigned, busy, rfl⟩⟩

theorem crossed_accepted : (setUp board crossed).isSome := by
  refine (setUp_isSome_iff board crossed (by decide)).mpr ⟨?_, ?_, by decide, ?_⟩
  · intro pairs given
    obtain rfl := Option.some.inj given
    exact ⟨by decide, by decide⟩
  · exact (beyondPorts_eq_zero_iff (by decide)).mp (by decide)
  · have two : {0, 5} ⊆ enabledLcores board := by decide
    exact Nat.mul_le_mul_left 2 (Finset.card_le_card two)

end UserspaceXdp.Dpdk.Setup
