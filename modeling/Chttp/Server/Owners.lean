import Chttp.Server.Buffer
import Mathlib.Algebra.Order.Monoid.Unbundled.Basic
import Mathlib.Tactic.SplitIfs

/-!
# Owner lanes

`chttp_server_owner_topology_configure` deals out the connections of a server to
owner lanes, each a range of the array of connections.  The lanes are prepared
aside and put in place when nothing can fail any more.  What may fail before
that is a parameter of the call, and a pointer to a lane is the index of the
lane.
-/

namespace Chttp.Server

/-- `chttp_server_owner_lane`, without its storage. -/
structure OwnerLane where
  connectionBegin : Nat
  connectionCount : Nat
  fileTransferCapacity : Nat
  deriving DecidableEq, Repr

/-- `chttp_server_owner_connection_end`. -/
def OwnerLane.connectionEnd (lane : OwnerLane) : Nat :=
  lane.connectionBegin + lane.connectionCount

/-- What a call gets from its environment: how large its arrays may get, and
what the steps return which may fail. -/
structure OwnerSteps where
  sizeMax : Nat
  maxLanes : Nat
  maxHints : Nat
  maxTransfers : Nat
  /-- The array of additional lanes is allocated. -/
  additional : Bool
  /-- The array of placement hints is allocated. -/
  hints : Bool
  /-- What `cnet_handoff_init` returns for a lane. -/
  handoff : Nat → Status
  /-- The three arrays of a lane are allocated. -/
  storage : Nat → Bool

/-- The parts of `chttp_server_impl` which the lanes are made of; an array of
connections which could not be allocated is empty. -/
structure OwnerTopology where
  connectionCapacity : Nat
  enableHttp2 : Bool
  h2StreamCapacity : Nat
  owners : List OwnerLane
  connections : List (Option Nat)
  deriving DecidableEq, Repr

namespace OwnerTopology

variable (topology : OwnerTopology)

/-- The lane which `chttp_server_owner_storage_prepare` fills in. -/
def lane (count index : Nat) : OwnerLane :=
  let base := topology.connectionCapacity / count
  let remainder := topology.connectionCapacity % count
  let connectionCount := base + if index < remainder then 1 else 0
  { connectionBegin := base * index + if index <
    remainder then index else remainder
    connectionCount := connectionCount
    fileTransferCapacity :=
      if topology.enableHttp2 then connectionCount * topology.h2StreamCapacity
      else connectionCount }

/-- `chttp_server_owner_storage_prepare`. -/
def prepare (steps : OwnerSteps) (count index : Nat) : Status :=
  let lane := topology.lane count index
  if count = 0 ∨ count ≤ index then .einval
  else if lane.connectionCount = 0 ∨
    topology.connectionCapacity < lane.connectionBegin ∨
      topology.connectionCapacity - lane.connectionBegin <
        lane.connectionCount then .einval
  else if topology.enableHttp2 ∧
    steps.sizeMax < lane.fileTransferCapacity then .erange
  else if lane.fileTransferCapacity = 0 ∨
    steps.maxTransfers < lane.fileTransferCapacity then
    .erange
  else if steps.handoff index ≠ .ok then steps.handoff index
  else if !steps.storage index then .enomem
  else .ok

/-- The lanes in front of an index are prepared one after another. -/
def prepareAll (topology : OwnerTopology) (steps : OwnerSteps) (count : Nat) :
    Nat → Status
  | 0 => .ok
  | index + 1 =>
    let status := topology.prepareAll steps count index
    if status ≠ .ok then status else topology.prepare steps count index

/-- The loop which sets the owner of the connections of a lane. -/
def assign (connections : List (Option Nat)) (owner : OwnerLane × Nat) :
    List (Option Nat) :=
  connections.mapIdx fun index field =>
    if owner.1.connectionBegin ≤ index ∧
      index < owner.1.connectionEnd then some owner.2 else field

/-- `chttp_server_owner_topology_configure`. -/
def configure (count : Nat) (steps : OwnerSteps) : Status × OwnerTopology :=
  let status := topology.prepareAll steps count count
  let owners := (List.range count).map (topology.lane count)
  if count = 0 ∨ topology.connectionCapacity < count then (.einval, topology)
  else if 1 < count ∧ steps.maxLanes < count - 1 then (.erange, topology)
  else if 1 < count ∧ !steps.additional then (.enomem, topology)
  else if steps.maxHints < count then (.erange, topology)
  else if !steps.hints then (.enomem, topology)
  else if status ≠ .ok then (status, topology)
  else
    (.ok, { topology with
      owners := owners
      connections := owners.zipIdx.foldl assign topology.connections })

/-- Calls one after another, and the number of owners of the last one which
succeeded. -/
def run (topology : OwnerTopology) (last : Option Nat) :
    List (Nat × OwnerSteps) → Option Nat × OwnerTopology
  | [] => (last, topology)
  | (count, steps) :: calls =>
    let done := topology.configure count steps
    done.2.run (if done.1 = .ok then some count else last) calls

/--
Nothing fails in a call: the arrays are small enough and are allocated, and
every lane gets its handoff and its storage.
-/
structure Succeeds (count : Nat) (steps : OwnerSteps) : Prop where
  additional : 1 < count → count - 1 ≤ steps.maxLanes ∧ steps.additional
  hints : count ≤ steps.maxHints ∧ steps.hints
  transfers : ∀ index < count,
    0 < (topology.lane count index).fileTransferCapacity ∧
      (topology.lane count index).fileTransferCapacity ≤ steps.maxTransfers ∧
      (topology.enableHttp2 →
        (topology.lane count index).fileTransferCapacity ≤ steps.sizeMax)
  handoff : ∀ index < count, steps.handoff index = .ok
  storage : ∀ index < count, steps.storage index

/-- The lanes cut the connections into even parts, and every connection names
the lane it belongs to. -/
structure Partitioned (topology : OwnerTopology) (count : Nat) : Prop where
  length : topology.owners.length = count
  /-- The ranges follow each other, from the first connection to the last. -/
  ranges : ∃ start : Nat → Nat, start 0 = 0 ∧
    start count = topology.connectionCapacity ∧
    ∀ index lane, topology.owners[index]? = some lane →
      lane.connectionBegin = start index ∧
        lane.connectionEnd = start (index + 1)
  even : ∀ lane ∈ topology.owners, 0 < lane.connectionCount ∧
    ∀ lane' ∈ topology.owners, lane.connectionCount ≤ lane'.connectionCount + 1
  owned : ∀ connection field, topology.connections[connection]? = some field →
    connection < topology.connectionCapacity → ∃ owner lane,
      field = some owner ∧
      topology.owners[owner]? = some lane ∧
        lane.connectionBegin ≤ connection ∧ connection < lane.connectionEnd

variable {topology : OwnerTopology} {count : Nat}

theorem connectionBegin_lane_zero :
    (topology.lane count 0).connectionBegin = 0 := by
  simp only [lane, Nat.mul_zero, Nat.zero_add]
  split_ifs <;> omega

theorem connectionEnd_lane (index : Nat) :
    (topology.lane count index).connectionEnd =
    (topology.lane count (index + 1)).connectionBegin := by
  simp only [OwnerLane.connectionEnd, lane, Nat.mul_succ]
  split_ifs <;> omega

theorem connectionBegin_lane_count (positive : 0 < count) :
    (topology.lane count count).connectionBegin =
      topology.connectionCapacity := by
  have small := Nat.mod_lt topology.connectionCapacity positive
  simp only [lane, if_neg (Nat.not_lt.mpr small.le)]
  exact Nat.div_add_mod' _ _

/-- Of at most as many lanes as connections every lane is an inhabited range. -/
theorem lane_inhabited (few : count ≤ topology.connectionCapacity) {index : Nat}
    (below : index < count) :
    0 < (topology.lane count index).connectionCount ∧
      (topology.lane count index).connectionEnd ≤
        topology.connectionCapacity := by
  have positive : 0 < count := Nat.zero_lt_of_lt below
  have filled : 0 < topology.connectionCapacity / count :=
    Nat.div_pos few positive
  refine ⟨Nat.add_pos_left filled _, ?_⟩
  -- The lanes follow each other, and the last one ends with the connections.
  have ends : ∀ rest, (topology.lane count index).connectionEnd ≤
      (topology.lane count (index + 1 + rest)).connectionBegin := by
    intro rest
    induction rest with
    | zero => exact (connectionEnd_lane index).le
    | succ rest ih =>
      rw [← Nat.add_assoc, ← connectionEnd_lane]
      exact ih.trans (Nat.le_add_right _ _)
  have last := ends (count - (index + 1))
  rwa [show index + 1 + (count - (index + 1)) = count by omega,
    connectionBegin_lane_count positive] at last

/-- A lane is prepared exactly if none of its steps fails. -/
theorem prepare_eq_ok_iff (few : count ≤ topology.connectionCapacity)
    {steps : OwnerSteps} {index : Nat} (below : index < count) :
    topology.prepare steps count index = .ok ↔
      (0 < (topology.lane count index).fileTransferCapacity ∧
        (topology.lane count index).fileTransferCapacity ≤ steps.maxTransfers ∧
        (topology.enableHttp2 →
          (topology.lane count index).fileTransferCapacity ≤ steps.sizeMax)) ∧
        steps.handoff index = .ok ∧ steps.storage index := by
  obtain ⟨inhabited, fits⟩ := lane_inhabited few below
  rw [OwnerLane.connectionEnd] at fits
  simp only [prepare]
  rw [if_neg (by omega), if_neg (by omega)]
  split_ifs with large unfit refused full
  · simp only [false_iff]
    exact fun all => absurd (all.1.2.2 large.1) (Nat.not_le.mpr large.2)
  · simp only [false_iff]
    omega
  · simp [refused]
  · simp_all
  · simp only [Bool.not_eq_true', Bool.not_eq_false] at full
    simp only [not_and, Nat.not_lt] at large
    simp only [true_iff]
    exact ⟨⟨by omega, by omega, large⟩, not_not.mp refused, full⟩

/-- All lanes are prepared exactly if each of them is. -/
theorem prepareAll_eq_ok_iff {steps : OwnerSteps} {bound : Nat} :
    topology.prepareAll steps count bound = .ok ↔
      ∀ index < bound, topology.prepare steps count index = .ok := by
  induction bound with
  | zero => simp [prepareAll]
  | succ bound ih =>
    simp only [prepareAll, Nat.lt_succ_iff_lt_or_eq, or_imp, forall_and,
      forall_eq, ← ih]
    split_ifs with failed <;> simp_all

/-- A call succeeds exactly for a possible count, if none of its steps fails. -/
theorem configure_eq_ok_iff (topology : OwnerTopology) (count : Nat)
    (steps : OwnerSteps) :
    (topology.configure count steps).1 = .ok ↔
      1 ≤ count ∧ count ≤ topology.connectionCapacity ∧
        topology.Succeeds count steps := by
  by_cases possible : 1 ≤ count ∧ count ≤ topology.connectionCapacity
  · have lanes := @prepareAll_eq_ok_iff topology count steps count
    simp +contextual only [prepare_eq_ok_iff possible.2] at lanes
    simp only [configure]
    rw [if_neg (by omega)]
    -- The steps are taken in the order of the checks.
    split_ifs with long missing short absent failed <;>
      simp only [false_iff, true_iff]
    · exact fun all => absurd (all.2.2.additional long.1).1 (by omega)
    · exact fun all => by simp [(all.2.2.additional missing.1).2] at missing
    · exact fun all => absurd all.2.2.hints.1 (by omega)
    · exact fun all => by simp [all.2.2.hints.2] at absent
    · exact iff_of_false failed fun all => failed
        (lanes.mpr fun index below => ⟨all.2.2.transfers index below,
          all.2.2.handoff index below, all.2.2.storage index below⟩)
    · have prepared := lanes.mp (not_not.mp failed)
      refine ⟨possible.1, possible.2, fun several => ?_, ?_,
        fun index below => (prepared index below).1,
        fun index below => (prepared index below).2.1,
        fun index below => (prepared index below).2.2⟩
      · exact ⟨by omega, by simpa [several] using missing⟩
      · exact ⟨by omega, by simpa using absent⟩
  · rw [configure, if_pos (by omega)]
    simp only [reduceCtorEq, false_iff]
    exact fun all => possible ⟨all.1, all.2.1⟩

theorem exists_owner {connections : List (Option Nat)} {index connection : Nat}
    {field : Option Nat}
    (present :
      (((List.range index).map (topology.lane count)).zipIdx.foldl assign
      connections)[connection]? = some field)
    (inside : connection < (topology.lane count index).connectionBegin) :
    ∃ owner < index, field = some owner ∧
      (topology.lane count owner).connectionBegin ≤ connection ∧
        connection < (topology.lane count owner).connectionEnd := by
  induction index generalizing field with
  | zero =>
    rw [connectionBegin_lane_zero] at inside
    omega
  | succ index ih =>
    rw [List.range_succ, List.map_append, List.zipIdx_append,
      List.foldl_append] at present
    simp only [List.map_cons, List.map_nil, List.zipIdx_cons, List.zipIdx_nil,
      List.length_map,
      List.length_range, List.foldl_cons, List.foldl_nil, assign,
      List.getElem?_mapIdx,
      Option.map_eq_some_iff] at present
    obtain ⟨earlier, there, rfl⟩ := present
    rw [← connectionEnd_lane] at inside
    split_ifs with own
    · exact ⟨index, Nat.lt_succ_self index, by simp, own⟩
    · obtain ⟨owner, below, found⟩ := ih there (by omega)
      exact ⟨owner, Nat.lt_succ_of_lt below, found⟩

/-- A call puts the lanes in place, or leaves everything as it is. -/
theorem configure_cases (topology : OwnerTopology) (count : Nat)
    (steps : OwnerSteps) :
    ((topology.configure count steps).1 = .ok ∧
        (topology.configure count steps).2.Partitioned count) ∨
      (topology.configure count steps).1 ≠ .ok ∧
        (topology.configure count steps).2 = topology := by
  simp only [configure]
  split_ifs with range _ _ _ _ failed
  iterate 5 exact .inr ⟨by simp, rfl⟩
  · exact .inr ⟨failed, rfl⟩
  have positive : 0 < count := Nat.pos_of_ne_zero fun zero => range (.inl zero)
  have filled : 0 < topology.connectionCapacity / count :=
    Nat.div_pos (Nat.le_of_not_lt fun long => range (.inr long)) positive
  let start := fun index => (topology.lane count index).connectionBegin
  refine .inl ⟨rfl, by simp,
    ⟨start, connectionBegin_lane_zero, connectionBegin_lane_count positive,
    fun index lane there => ?_⟩, ?_, fun connection field there inside => ?_⟩
  · simp only [List.getElem?_map, Option.map_eq_some_iff,
      List.getElem?_eq_some_iff,
      List.getElem_range] at there
    obtain ⟨_, ⟨-, rfl⟩, rfl⟩ := there
    exact ⟨rfl, connectionEnd_lane index⟩
  · simp only [List.mem_map, List.mem_range, lane]
    rintro _ ⟨index, -, rfl⟩
    refine ⟨Nat.add_pos_left filled _, ?_⟩
    rintro _ ⟨index', -, rfl⟩
    dsimp only
    split_ifs <;> omega
  · rw [← connectionBegin_lane_count positive] at inside
    obtain ⟨owner, below, rfl, found⟩ := exists_owner there inside
    exact ⟨owner, topology.lane count owner, rfl, by simp [below], found⟩

theorem run_partitioned {last : Option Nat} {calls : List (Nat × OwnerSteps)}
    (kept : last = some count → topology.Partitioned count)
    (ended : (topology.run last calls).1 = some count) :
    (topology.run last calls).2.Partitioned count := by
  induction calls generalizing topology last with
  | nil => exact kept ended
  | cons call calls ih =>
    refine ih (fun same => ?_) ended
    obtain ⟨done, partitioned⟩ | ⟨failed, unchanged⟩ :=
      topology.configure_cases call.1 call.2
    · rw [if_pos done] at same
      cases same
      exact partitioned
    · rw [if_neg failed] at same
      rw [unchanged]
      exact kept same

/--
After any calls the lanes are a partition for the count which was accepted last.
A call is accepted for every possible count if none of its steps fails, and
leaves everything as it was if one does.
-/
theorem owner_lanes_partition (topology : OwnerTopology)
    (calls : List (Nat × OwnerSteps)) :
    (∀ count, (topology.run none calls).1 = some count →
      (topology.run none calls).2.Partitioned count) ∧
      ∀ count steps,
        ((topology.configure count steps).1 = .ok ↔
          1 ≤ count ∧ count ≤ topology.connectionCapacity ∧
            topology.Succeeds count steps) ∧
          ((topology.configure count steps).1 ≠ .ok →
            (topology.configure count steps).2 = topology) := by
  refine ⟨fun count => run_partitioned (by simp), fun count steps =>
    ⟨topology.configure_eq_ok_iff count steps, fun failed => ?_⟩⟩
  obtain ⟨done, -⟩ | ⟨-, same⟩ := topology.configure_cases count steps
  · exact absurd done failed
  · exact same

/-- Steps which succeed for small arrays. -/
def ampleSteps : OwnerSteps where
  sizeMax := 1000
  maxLanes := 1000
  maxHints := 1000
  maxTransfers := 1000
  additional := true
  hints := true
  handoff _ := .ok
  storage _ := true

/-- A server with five connections, not yet dealt out. -/
def fiveConnections : OwnerTopology where
  connectionCapacity := 5
  enableHttp2 := true
  h2StreamCapacity := 8
  owners := []
  connections := List.replicate 5 none

/-- Two calls succeed, and the lanes of the second one are in place. -/
theorem owner_lanes_partition_twice :
    let ran := fiveConnections.run none [(2, ampleSteps), (3, ampleSteps)]
    ran.1 = some 3 ∧ ran.2.Partitioned 3 ∧
      ran.2.connections = [some 0, some 0, some 1, some 1, some 2] :=
  ⟨rfl, (owner_lanes_partition fiveConnections _).1 3 rfl, by decide⟩

end OwnerTopology

end Chttp.Server
