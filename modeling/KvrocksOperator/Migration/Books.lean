import KvrocksOperator.Migration.Resume

/-!
# The books of a migration

After the slots of an entry have been moved, `ensureReBalanceTopo` takes as many slots from the front of the source's
list as the entry has, whichever slots were moved, and leaves the list of the target as it is.  The topology that is
persisted next is therefore wrong after every entry that moves a slot.
-/

namespace KvrocksOperator.Migration

open Interaction Resources Cluster

/-! ## What a topology records -/

/-- The record of the node at a position. -/
def recordAt (topo : List KVRocksTopoPartitions) (shard index : ℕ) : Option KVRocksTopology :=
  (topo.find? fun partition ↦ partition.shard == shard).bind (·.topology[index]?)

/-- The slots of a record. -/
def slotsOf (record : KVRocksTopology) : List ℤ := Kvrocks.slotsToInt record.slots

/-- The slots of all masters. -/
def masterSlots (topo : List KVRocksTopoPartitions) : List ℤ :=
  (topo.flatMap (·.topology)).flatMap fun record ↦ if record.role = .master then slotsOf record else []

/-- The topology that `ensureStatusTopoMsg` makes of a matrix. -/
def topoOf (instanceName : String) (matrix : Matrix) : List KVRocksTopoPartitions :=
  statusTopo instanceName (matrix.map (·.map some))

/-- How the entry with these slots should change the topology: the source, which owned `owned`, has all but the slots
of the entry, the masters of the target have them in addition, and together the masters own what they owned. -/
structure Booked (shard index : ℕ) (owned : List ℤ) (entry : Kvrocks.MigrateMsg)
    (before after : List KVRocksTopoPartitions) : Prop where
  source : ∃ record, recordAt after shard index = some record ∧
    (slotsOf record).Perm (owned.filter fun slot ↦ decide (slot ∉ entry.slots))
  target : ∀ (target position : ℕ) (old : KVRocksTopology), (target : ℤ) = entry.shard →
    recordAt before target position = some old → old.role = .master →
      ∃ new, recordAt after target position = some new ∧ (slotsOf new).Perm (slotsOf old ++ entry.slots)
  whole : (masterSlots after).Perm (masterSlots before)

/-- The topologies persisted one after the other, each after one more entry, are as they should be. -/
def Books (shard index : ℕ) : List ℤ → List Kvrocks.MigrateMsg → List KVRocksTopoPartitions →
    List (List KVRocksTopoPartitions) → Prop
  | _, _, _, [] => True
  | _, [], _, _ :: _ => False
  | owned, entry :: entries, before, after :: later =>
    Booked shard index owned entry before after ∧
      Books shard index (owned.filter fun slot ↦ decide (slot ∉ entry.slots)) entries after later

/-- Every slot is moved.  An update of the object stores its topology, or fails where that may happen. -/
def answers (mayFail : Prop) : Program.Answers operator (List (List KVRocksTopoPartitions))
  | .http _ (.migrateSlotAndData _ _ _), persisted, reply, later =>
    reply = .ok ⟨statusOK, .ok ()⟩ ∧ later = persisted
  | .updateKVRocks instance_, persisted, reply, later =>
    match reply with
    | .ok _ => later = persisted ++ [instance_.status.topo]
    | .error _ => mayFail ∧ later = persisted
  | _, persisted, _, later => later = persisted

/-- All calls that matter here succeed. -/
def served : (request : Call) → List (List KVRocksTopoPartitions) → request.Reply × List (List KVRocksTopoPartitions)
  | .http _ (.migrateSlotAndData _ _ _), persisted => (.ok ⟨statusOK, .ok ()⟩, persisted)
  | .updateKVRocks instance_, persisted => (.ok 0, persisted ++ [instance_.status.topo])
  | request, persisted => (request.failure, persisted)

/-- Whatever updates fail, `ensureReBalanceTopo` does not panic, and what it persists after the entries is as it
should be. -/
def KeepsBooks (src : ℤ) (shard index : ℕ) (owned : List ℤ) (entries : List Kvrocks.MigrateMsg) (h : Handler)
    (persisted : List (List KVRocksTopoPartitions)) : Prop :=
  ∀ outcome later added,
    Exec (answers True) ((ensureReBalanceTopo src shard index entries).on h) persisted (outcome, later)
      (persisted ++ added) →
    outcome ≠ .panic ∧ Books shard index owned entries (topoOf h.instance_.name h.stsNodes) added

/-! ## Topology and matrix -/

section Matrix

variable {matrix : Matrix} {shard index : ℕ} {node : Node}

theorem find_statusTopoFrom (instanceName : String) (matrix : Matrix) (start shard : ℕ) :
    (statusTopoFrom instanceName start (matrix.map (·.map some))).find?
        (fun partition ↦ partition.shard == start + shard) =
      (matrix[shard]?.filter fun nodes ↦ decide (nodes ≠ [])).map fun nodes ↦
        partitionOf instanceName (start + shard) (nodes.map some) := by
  induction matrix generalizing start shard with
  | nil => rfl
  | cons nodes matrix ih =>
    have hfilled : nodes.map some = [] ↔ nodes = [] := List.map_eq_nil_iff
    rw [List.map_cons, statusTopoFrom_cons]
    cases shard with
    | zero =>
      have hlater : (statusTopoFrom instanceName (start + 1) (matrix.map (·.map some))).find?
          (fun partition ↦ partition.shard == start) = none := by
        rw [List.find?_eq_none]
        intro partition hpartition
        have := le_shard_of_mem_statusTopoFrom hpartition
        simp only [beq_iff_eq]
        omega
      by_cases hempty : nodes = []
      · rw [if_pos (hfilled.mpr hempty), Nat.add_zero, hlater, hempty]
        rfl
      · simp [hempty, partitionOf]
    | succ shard =>
      have hrest := ih (start + 1) shard
      rw [show start + 1 + shard = start + (shard + 1) by omega] at hrest
      rw [List.getElem?_cons_succ, ← hrest]
      by_cases hempty : nodes = []
      · rw [if_pos (hfilled.mpr hempty)]
      · have hfirst : (partitionOf instanceName start (nodes.map some)).shard ≠ start + (shard + 1) := by
          simp [partitionOf]
        rw [if_neg (mt hfilled.mp hempty), List.find?_cons, beq_eq_false_iff_ne.mpr hfirst]

theorem recordAt_topoOf (instanceName : String) (matrix : Matrix) (shard index : ℕ) :
    recordAt (topoOf instanceName matrix) shard index =
      (nodeAt matrix shard index).map (topologyOf (getStatefulSetName instanceName shard) index) := by
  have hfind := find_statusTopoFrom instanceName matrix 0 shard
  rw [Nat.zero_add] at hfind
  change ((statusTopoFrom instanceName 0 (matrix.map (·.map some))).find? _).bind _ = _
  rw [hfind]
  unfold nodeAt
  cases matrix[shard]? with
  | none => rfl
  | some nodes =>
    cases nodes with
    | nil => rfl
    | cons node nodes =>
      change (shardTopology _ ((node :: nodes).map some))[index]? = ((node :: nodes)[index]?).map _
      rw [shardTopology_some, List.getElem?_map, List.getElem?_zipIdx, Option.map_map, Nat.zero_add]
      rfl

/-- The records of all nodes, in order. -/
theorem flatMap_topoOf {β : Type} (instanceName : String) (matrix : Matrix)
    {view : KVRocksTopology → List β} {viewNode : Node → List β}
    (h : ∀ partitionName index node, view (topologyOf partitionName index node) = viewNode node) :
    ((topoOf instanceName matrix).flatMap (·.topology)).flatMap view = matrix.flatten.flatMap viewNode := by
  have hfrom (start : ℕ) : ((statusTopoFrom instanceName start (matrix.map (·.map some))).flatMap
      (·.topology)).flatMap view = matrix.flatten.flatMap viewNode := by
    induction matrix generalizing start with
    | nil => rfl
    | cons nodes matrix ih =>
      have hshard : (shardTopology (getStatefulSetName instanceName start) (nodes.map some)).flatMap view =
          nodes.flatMap viewNode := by
        rw [shardTopology_some, List.flatMap_map]
        calc nodes.zipIdx.flatMap (fun entry ↦
              view (topologyOf (getStatefulSetName instanceName start) entry.2 entry.1))
          _ = (nodes.zipIdx.map Prod.fst).flatMap viewNode := by
            rw [List.flatMap_map]
            exact List.flatMap_congr fun entry _ ↦ h _ entry.2 entry.1
          _ = nodes.flatMap viewNode := by rw [List.zipIdx_map_fst]
      have hfilled : nodes.map some = [] ↔ nodes = [] := List.map_eq_nil_iff
      rw [List.map_cons, statusTopoFrom_cons, List.flatten_cons, List.flatMap_append]
      by_cases hempty : nodes = []
      · rw [if_pos (hfilled.mpr hempty), ih, hempty]
        rfl
      · rw [if_neg (mt hfilled.mp hempty), List.flatMap_cons, List.flatMap_append, ih (start + 1)]
        exact congrArg (· ++ _) hshard
  exact hfrom 0

theorem masterSlots_topoOf (instanceName : String) (matrix : Matrix) :
    masterSlots (topoOf instanceName matrix) = matrix.flatten.flatMap fun node ↦
      if node.role = .master then Kvrocks.slotsToInt (Kvrocks.slotsToString node.slots) else [] :=
  flatMap_topoOf instanceName matrix fun _ _ _ ↦ rfl

/-- A change of one node is seen at its place among all nodes. -/
theorem flatten_modifyNode (change : Node → Node) (h : nodeAt matrix shard index = some node) :
    ∃ front back, matrix.flatten = front ++ node :: back ∧
      (modifyNode shard index change matrix).flatten = front ++ change node :: back := by
  obtain ⟨nodes, hnodes, hnode⟩ := Option.bind_eq_some_iff.mp h
  obtain ⟨hshard, rfl⟩ := List.getElem?_eq_some_iff.mp hnodes
  obtain ⟨hindex, rfl⟩ := List.getElem?_eq_some_iff.mp hnode
  refine ⟨(matrix.take shard).flatten ++ matrix[shard].take index,
    matrix[shard].drop (index + 1) ++ (matrix.drop (shard + 1)).flatten, ?_, ?_⟩
  · have hrow : matrix[shard] = matrix[shard].take index ++ matrix[shard][index] ::
        matrix[shard].drop (index + 1) := by rw [List.getElem_cons_drop, List.take_append_drop]
    calc matrix.flatten
      _ = (matrix.take shard ++ matrix[shard] :: matrix.drop (shard + 1)).flatten := by
        rw [List.getElem_cons_drop, List.take_append_drop]
      _ = (matrix.take shard).flatten ++ (matrix[shard] ++ (matrix.drop (shard + 1)).flatten) := by
        rw [List.flatten_append, List.flatten_cons]
      _ = (matrix.take shard).flatten ++ ((matrix[shard].take index ++ matrix[shard][index] ::
          matrix[shard].drop (index + 1)) ++ (matrix.drop (shard + 1)).flatten) := by rw [← hrow]
      _ = _ := by simp only [List.append_assoc, List.cons_append]
  · unfold modifyNode
    rw [List.modify_eq_take_cons_drop hshard, List.modify_eq_take_cons_drop hindex]
    simp

/-- A node elsewhere stays as it is. -/
theorem nodeAt_modifyNode_of_ne (change : Node → Node) {target position : ℕ}
    (h : ¬(target = shard ∧ position = index)) :
    nodeAt (modifyNode shard index change matrix) target position = nodeAt matrix target position := by
  unfold nodeAt modifyNode
  by_cases htarget : shard = target
  · subst htarget
    have hposition : index ≠ position := fun hsame ↦ h ⟨rfl, hsame.symm⟩
    rw [List.getElem?_modify_eq]
    cases matrix[shard]? with
    | none => rfl
    | some nodes => exact List.getElem?_modify_ne change _ hposition
  · rw [List.getElem?_modify_ne _ _ htarget]

end Matrix

/-! ## One entry -/

section Run

variable {mayFail : Prop} {fail crash : List (List KVRocksTopoPartitions) → Prop} {h : Handler} {src : ℤ}
  {shard index : ℕ} {node : Node} {entry : Kvrocks.MigrateMsg} {entries : List Kvrocks.MigrateMsg}
  {persisted : List (List KVRocksTopoPartitions)}

theorem moveSlot_ends (client : Controller.Client) (dest slot : ℤ) (retries : ℕ) :
    (moveSlot client src dest slot retries).Ends (.sequential (answers mayFail)) fail crash
      (fun _ final ↦ final = persisted) persisted := by
  have hsend {fail : List (List KVRocksTopoPartitions) → Prop} :
      (Controller.migrateSlotAndData client src dest slot).Ends (.sequential (answers mayFail)) fail crash
        (fun _ final ↦ final = persisted) persisted := by
    have hask : (Controller.send client (.migrateSlotAndData client.ns client.clusterName ⟨src, dest, slot⟩)).Ends
        (.sequential (answers mayFail)) fail crash
        (fun response final ↦ response.statusCode = statusOK ∧ final = persisted) persisted := by
      apply ends_attempt
      rintro reply final ⟨rfl, rfl⟩
      exact ⟨rfl, rfl⟩
    refine hask.bind fun response final hresponse ↦ ?_
    rw [if_neg (not_not.mpr hresponse.1)]
    exact ends_pure hresponse.2
  have hattempt : (Controller.migrateSlotAndData client src dest slot).handle.Ends (.sequential (answers mayFail))
      fail crash (fun result final ↦ result = .ok () ∧ final = persisted) persisted := by
    apply ends_handle
    exact hsend.mono (fun _ hfail ↦ hfail) (fun _ hcrash ↦ hcrash) fun _ _ hfinal ↦ ⟨rfl, hfinal⟩
  cases retries with
  | zero =>
    refine hattempt.bind fun result final hresult ↦ ?_
    rw [hresult.1]
    exact ends_pure hresult.2
  | succ retries =>
    refine hattempt.bind fun result final hresult ↦ ?_
    rw [hresult.1]
    exact ends_pure hresult.2

/-- What a turn of the loop leaves behind: as many slots have gone from the front of the source's list as the entry
has. -/
theorem reBalanceEntry_ends (hnode : nodeAt h.stsNodes shard index = some node)
    (hentry : node.migrate.head? = some entry) :
    (reBalanceEntry src shard index).Ends (.sequential (answers mayFail)) (fun final ↦ mayFail ∧ final = persisted)
      (fun _ ↦ node.slots.length < entry.slots.length)
      (fun _ later final ↦ entry.slots.length ≤ node.slots.length ∧ later.instance_.name = h.instance_.name ∧
        later.stsNodes = (modifyNode shard index (withoutEntry entry.slots.length) h.stsNodes).map (·.map sortSlots) ∧
        final = persisted ++ [topoOf later.instance_.name later.stsNodes]) h persisted := by
  apply ends_get_bind
  have hfound : ((h.stsNodes[shard]?.bind (·[index]?)).bind (·.migrate.head?)) = some entry := by
    change (nodeAt h.stsNodes shard index).bind _ = _
    rw [hnode]
    exact hentry
  rw [hfound]
  apply Method.ends_some_bind
  have hmoves : (forEach (fun slot ↦ moveSlot h.controllerClient src entry.shard slot slotRetries)
      entry.slots : Go Unit).Ends (.sequential (answers mayFail)) (fun final ↦ mayFail ∧ final = persisted)
      (fun _ ↦ node.slots.length < entry.slots.length) (fun _ final ↦ final = persisted) persisted := by
    refine ends_forEach_const (· = persisted) rfl fun slot _ current hcurrent ↦ ?_
    rw [hcurrent]
    exact moveSlot_ends h.controllerClient entry.shard slot slotRetries
  refine ends_lift_bind hmoves fun _ current hcurrent ↦ ?_
  rw [hcurrent]
  have hdrop : (dropEntry shard index entry.slots.length).Ends (.sequential (answers mayFail))
      (fun final ↦ mayFail ∧ final = persisted) (fun _ ↦ node.slots.length < entry.slots.length)
      (fun _ later final ↦ entry.slots.length ≤ node.slots.length ∧ final = persisted ∧
        later = { h with stsNodes := modifyNode shard index (withoutEntry entry.slots.length) h.stsNodes })
      h persisted := by
    apply ends_get_bind
    change (Method.lift (Fallible.ofOption (nodeAt h.stsNodes shard index)) >>= _).Ends _ _ _ _ _ _
    rw [hnode]
    apply Method.ends_some_bind
    by_cases hlength : node.slots.length < entry.slots.length
    · rw [if_pos hlength]
      exact Method.ends_lift (ends_panic hlength)
    · rw [if_neg hlength]
      exact ends_modify ⟨not_lt.mp hlength, rfl, rfl⟩
  refine hdrop.bind fun _ later current hlater ↦ ?_
  obtain ⟨hlength, rfl, rfl⟩ := hlater
  apply ensureStatusTopoMsg_ends
  intro reply final hreply
  cases reply with
  | ok resourceVersion =>
    refine ⟨hlength, rfl, rfl, ?_⟩
    rw [hreply, topoOf, statusTopo_sortSlots]
    rfl
  | error error => exact hreply

end Run

/-! ## The books -/

/-- All nodes own slots that the codec can carry. -/
def Slotted (matrix : Matrix) : Prop := ∀ node ∈ matrix.flatten, ∀ slot ∈ node.slots, Kvrocks.IsSlot slot

/-- The matrix after a turn of the loop. -/
def turned (shard index count : ℕ) (matrix : Matrix) : Matrix :=
  (modifyNode shard index (withoutEntry count) matrix).map (·.map sortSlots)

section Turn

variable {matrix : Matrix} {shard index count : ℕ} {node : Node} {entry : Kvrocks.MigrateMsg}

theorem topoOf_turned (instanceName : String) (matrix : Matrix) (shard index count : ℕ) :
    topoOf instanceName (turned shard index count matrix) =
      topoOf instanceName (modifyNode shard index (withoutEntry count) matrix) :=
  statusTopo_sortSlots instanceName _

theorem nodeAt_turned (hnode : nodeAt matrix shard index = some node) :
    nodeAt (turned shard index count matrix) shard index = some (sortSlots (withoutEntry count node)) := by
  rw [turned, nodeAt_map, nodeAt_modifyNode, hnode]
  rfl

theorem Slotted.turned (hslotted : Slotted matrix) (hnode : nodeAt matrix shard index = some node) :
    Slotted (turned shard index count matrix) := by
  obtain ⟨front, back, hmatrix, hmodified⟩ := flatten_modifyNode (withoutEntry count) hnode
  have hmodify : Slotted (modifyNode shard index (withoutEntry count) matrix) := by
    unfold Slotted at hslotted ⊢
    rw [hmatrix, List.forall_mem_append, List.forall_mem_cons] at hslotted
    rw [hmodified, List.forall_mem_append, List.forall_mem_cons]
    exact ⟨hslotted.1, fun slot hslot ↦ hslotted.2.1 slot (List.mem_of_mem_drop hslot), hslotted.2.2⟩
  intro later hlater slot hslot
  rw [Migration.turned, ← List.map_flatten] at hlater
  obtain ⟨before, hbefore, rfl⟩ := List.mem_map.mp hlater
  exact hmodify before hbefore slot (Kvrocks.mem_sortInts.mp hslot)

/-- Together the masters have lost as many slots as the entry has. -/
theorem length_masterSlots_turned (instanceName : String) (hslotted : Slotted matrix)
    (hnode : nodeAt matrix shard index = some node) (hrole : node.role = .master) (hcount : count ≤ node.slots.length) :
    (masterSlots (topoOf instanceName (turned shard index count matrix))).length + count =
      (masterSlots (topoOf instanceName matrix)).length := by
  obtain ⟨front, back, hmatrix, hmodified⟩ := flatten_modifyNode (withoutEntry count) hnode
  have hslots : ∀ slot ∈ node.slots, Kvrocks.IsSlot slot :=
    hslotted node (hmatrix ▸ List.mem_append_right front List.mem_cons_self)
  have hbefore : (Kvrocks.slotsToInt (Kvrocks.slotsToString node.slots)).length = node.slots.length := by
    rw [Kvrocks.slotsToInt_slotsToString hslots, Kvrocks.length_sortInts]
  have hafter : (Kvrocks.slotsToInt (Kvrocks.slotsToString (node.slots.drop count))).length =
      node.slots.length - count := by
    rw [Kvrocks.slotsToInt_slotsToString fun slot hslot ↦ hslots slot (List.mem_of_mem_drop hslot),
      Kvrocks.length_sortInts, List.length_drop]
  have hrole' : (withoutEntry count node).role = .master := hrole
  rw [topoOf_turned, masterSlots_topoOf, masterSlots_topoOf, hmatrix, hmodified]
  simp only [List.flatMap_append, List.flatMap_cons, List.length_append, if_pos hrole, if_pos hrole']
  change _ + ((Kvrocks.slotsToInt (Kvrocks.slotsToString (node.slots.drop count))).length + _) + count = _
  omega

theorem slotsOf_topologyOf (partitionName : String) (position : ℕ) (hslots : ∀ slot ∈ node.slots, Kvrocks.IsSlot slot) :
    (slotsOf (topologyOf partitionName position node)).Perm node.slots := by
  change (Kvrocks.slotsToInt (Kvrocks.slotsToString node.slots)).Perm node.slots
  rw [Kvrocks.slotsToInt_slotsToString hslots]
  exact List.perm_insertionSort (· ≤ ·) node.slots

/-- An entry without slots is booked as it should be. -/
theorem booked_of_empty (instanceName : String) {owned : List ℤ} (hslotted : Slotted matrix)
    (hnode : nodeAt matrix shard index = some node) (howned : node.slots.Perm owned) (hentry : entry.slots = []) :
    Booked shard index owned entry (topoOf instanceName matrix)
      (topoOf instanceName (turned shard index 0 matrix)) := by
  have hslots (target position : ℕ) :
      (nodeAt (modifyNode shard index (withoutEntry 0) matrix) target position).map (·.slots) =
        (nodeAt matrix target position).map (·.slots) := by
    by_cases hplace : target = shard ∧ position = index
    · rw [hplace.1, hplace.2, nodeAt_modifyNode, Option.map_map]
      rfl
    · rw [nodeAt_modifyNode_of_ne _ hplace]
  have hrecorded (target position : ℕ) :
      (recordAt (topoOf instanceName (modifyNode shard index (withoutEntry 0) matrix)) target position).map slotsOf =
        (recordAt (topoOf instanceName matrix) target position).map slotsOf := by
    have hview (matrix : Matrix) : (recordAt (topoOf instanceName matrix) target position).map slotsOf =
          ((nodeAt matrix target position).map (·.slots)).map fun slots ↦
            Kvrocks.slotsToInt (Kvrocks.slotsToString slots) := by
      rw [recordAt_topoOf, Option.map_map, Option.map_map]
      rfl
    rw [hview, hview, hslots]
  obtain ⟨front, back, hmatrix, hmodified⟩ := flatten_modifyNode (withoutEntry 0) hnode
  have hmem : node ∈ matrix.flatten := hmatrix ▸ List.mem_append_right front List.mem_cons_self
  rw [topoOf_turned]
  constructor
  · refine ⟨topologyOf (getStatefulSetName instanceName shard) index (withoutEntry 0 node), ?_, ?_⟩
    · rw [recordAt_topoOf, nodeAt_modifyNode, hnode]
      rfl
    · have hall : owned.filter (fun slot ↦ decide (slot ∉ entry.slots)) = owned := by simp [hentry]
      rw [hall]
      exact (slotsOf_topologyOf (getStatefulSetName instanceName shard) index (hslotted node hmem)).trans howned
  · intro target position old _ hold _
    have hsame := hrecorded target position
    rw [hold, Option.map_some, Option.map_eq_some_iff] at hsame
    obtain ⟨new, hnew, hslotsOf⟩ := hsame
    refine ⟨new, hnew, ?_⟩
    rw [hslotsOf, hentry, List.append_nil]
  · rw [masterSlots_topoOf, masterSlots_topoOf, hmatrix, hmodified, List.flatMap_append, List.flatMap_append,
      List.flatMap_cons, List.flatMap_cons]
    rfl

end Turn

/-- How many slots the entries have. -/
def sizes (entries : List Kvrocks.MigrateMsg) : List ℕ := entries.map (·.slots.length)

/-- The entries that are left have the sizes they had, although their slots have been sorted. -/
theorem sizes_turned {node : Node} {entry : Kvrocks.MigrateMsg} {entries : List Kvrocks.MigrateMsg}
    (h : sizes node.migrate = sizes (entry :: entries)) (count : ℕ) :
    sizes (sortSlots (withoutEntry count node)).migrate = sizes entries := by
  have hsorted : sizes (sortSlots (withoutEntry count node)).migrate = sizes node.migrate.tail := by
    change (node.migrate.tail.map _).map _ = node.migrate.tail.map _
    rw [List.map_map]
    exact List.map_congr_left fun later _ ↦ Kvrocks.length_sortInts later.slots
  calc sizes (sortSlots (withoutEntry count node)).migrate
    _ = sizes node.migrate.tail := hsorted
    _ = (sizes node.migrate).tail := List.map_tail
    _ = sizes entries := by
      rw [h]
      rfl

section Loop

variable {h : Handler} {src : ℤ} {shard index : ℕ} {node : Node} {entry : Kvrocks.MigrateMsg}
  {entries : List Kvrocks.MigrateMsg} {owned : List ℤ} {persisted : List (List KVRocksTopoPartitions)}

/-- A turn of the loop, for the entry that the loop has reached. -/
theorem reBalanceEntry_turned (mayFail : Prop) (src : ℤ) (persisted : List (List KVRocksTopoPartitions))
    (hnode : nodeAt h.stsNodes shard index = some node) (hsizes : sizes node.migrate = sizes (entry :: entries)) :
    (reBalanceEntry src shard index).Ends (.sequential (answers mayFail))
      (fun final ↦ mayFail ∧ final = persisted) (fun _ ↦ node.slots.length < entry.slots.length)
      (fun _ later final ↦ entry.slots.length ≤ node.slots.length ∧ later.instance_.name = h.instance_.name ∧
        later.stsNodes = turned shard index entry.slots.length h.stsNodes ∧
        final = persisted ++ [topoOf later.instance_.name later.stsNodes]) h persisted := by
  cases hmigrate : node.migrate with
  | nil =>
    rw [hmigrate] at hsizes
    cases hsizes
  | cons reached rest =>
    rw [hmigrate] at hsizes
    have hsize : reached.slots.length = entry.slots.length := (List.cons.inj hsizes).1
    have hhead : node.migrate.head? = some reached := by
      rw [hmigrate]
      rfl
    rw [← hsize]
    exact reBalanceEntry_ends hnode hhead

/-- Entries without slots are booked as they should be, up to the first update that fails. -/
theorem books_of_empty (src : ℤ) (persisted : List (List KVRocksTopoPartitions)) (hslotted : Slotted h.stsNodes)
    (hnode : nodeAt h.stsNodes shard index = some node) (hsizes : sizes node.migrate = sizes entries)
    (howned : node.slots.Perm owned) (hempty : ∀ entry ∈ entries, entry.slots = []) :
    (ensureReBalanceTopo src shard index entries).Ends (.sequential (answers True))
      (fun final ↦ ∃ added, final = persisted ++ added ∧
        Books shard index owned entries (topoOf h.instance_.name h.stsNodes) added)
      (fun _ ↦ False)
      (fun _ _ final ↦ ∃ added, final = persisted ++ added ∧
        Books shard index owned entries (topoOf h.instance_.name h.stsNodes) added) h persisted := by
  induction entries generalizing h node owned persisted with
  | nil => exact Method.ends_pure ⟨[], (List.append_nil persisted).symm, trivial⟩
  | cons entry entries ih =>
    rw [List.forall_mem_cons] at hempty
    have hsize : entry.slots.length = 0 := by
      rw [hempty.1]
      rfl
    have hturn := (reBalanceEntry_turned True src persisted hnode hsizes).mono
      (fun final hfail ↦ (⟨[], hfail.2.trans (List.append_nil persisted).symm, trivial⟩ :
        ∃ added, final = persisted ++ added ∧
          Books shard index owned (entry :: entries) (topoOf h.instance_.name h.stsNodes) added))
      (fun _ hshort ↦ Nat.not_lt_zero _ (hsize ▸ hshort)) fun _ _ _ hpost ↦ hpost
    refine hturn.bind fun _ later final hlater ↦ ?_
    obtain ⟨-, hname, hmatrix, rfl⟩ := hlater
    rw [hsize] at hmatrix
    have hbooked := booked_of_empty h.instance_.name hslotted hnode howned hempty.1
    have hall : owned.filter (fun slot ↦ decide (slot ∉ entry.slots)) = owned := by simp [hempty.1]
    have hnode' : nodeAt later.stsNodes shard index = some (sortSlots (withoutEntry 0 node)) := by
      rw [hmatrix]
      exact nodeAt_turned hnode
    have hslotted' : Slotted later.stsNodes := by
      rw [hmatrix]
      exact hslotted.turned hnode
    have howned' : (sortSlots (withoutEntry 0 node)).slots.Perm owned :=
      (List.perm_insertionSort (· ≤ ·) node.slots).trans howned
    have hbooks (final : List (List KVRocksTopoPartitions))
        (hadded : ∃ added, final = persisted ++ [topoOf later.instance_.name later.stsNodes] ++ added ∧
          Books shard index owned entries (topoOf later.instance_.name later.stsNodes) added) :
        ∃ added, final = persisted ++ added ∧
          Books shard index owned (entry :: entries) (topoOf h.instance_.name h.stsNodes) added := by
      obtain ⟨added, rfl, hrest⟩ := hadded
      refine ⟨topoOf later.instance_.name later.stsNodes :: added, by simp, ?_, ?_⟩
      · rw [hname, hmatrix]
        exact hbooked
      · rw [hall]
        exact hrest
    exact (ih _ hslotted' hnode' (sizes_turned hsizes 0) howned' hempty.2).mono hbooks (fun _ hcrash ↦ hcrash)
      fun _ _ final hfinal ↦ hbooks final hfinal

theorem answers_served (request : Call) (persisted : List (List KVRocksTopoPartitions)) :
    answers False request persisted (served request persisted).1 (served request persisted).2 := by
  cases request with
  | updateKVRocks instance_ => exact rfl
  | http endPoint request => cases request <;> first | exact ⟨rfl, rfl⟩ | exact rfl
  | _ => exact rfl

theorem answers_mono (request : Call) (before : List (List KVRocksTopoPartitions)) (reply : request.Reply)
    (after : List (List KVRocksTopoPartitions)) (h : answers False request before reply after) :
    answers True request before reply after := by
  cases request with
  | updateKVRocks instance_ =>
    cases reply with
    | ok resourceVersion => exact h
    | error error => exact h.1.elim
  | http endPoint request => cases request <;> exact h
  | _ => exact h

/-- What has been persisted stays. -/
theorem exec_extends {α : Type} {mayFail : Prop} {program : Program operator α} {value : α}
    {final : List (List KVRocksTopoPartitions)} (hexec : Exec (answers mayFail) program persisted value final) :
    ∃ added, final = persisted ++ added := by
  have hkeep (request : Call) (before : List (List KVRocksTopoPartitions)) (reply : request.Reply)
      (after : List (List KVRocksTopoPartitions)) (hstep : answers mayFail request before reply after)
      (hbefore : persisted <+: before) : persisted <+: after := by
    have hafter : before <+: after := by
      cases request with
      | updateKVRocks instance_ =>
        cases reply with
        | ok resourceVersion => exact hstep ▸ List.prefix_append before _
        | error error => exact hstep.2 ▸ List.prefix_rfl
      | http endPoint request =>
        cases request with
        | migrateSlotAndData ns cluster option => exact hstep.2 ▸ List.prefix_rfl
        | _ => exact hstep ▸ List.prefix_rfl
      | _ => exact hstep ▸ List.prefix_rfl
    exact hbefore.trans hafter
  obtain ⟨added, hadded⟩ := (ensures_iff_exec _ _ _).mp
    (Program.ensures_of_keeps hkeep program List.prefix_rfl) value final hexec
  exact ⟨added, hadded.symm⟩

/-- Books that are kept have no entry with slots. -/
theorem empty_of_keepsBooks (hslotted : Slotted h.stsNodes) (hnode : nodeAt h.stsNodes shard index = some node)
    (hrole : node.role = .master) (hsizes : sizes node.migrate = sizes entries)
    (hkeeps : KeepsBooks src shard index owned entries h persisted) : ∀ entry ∈ entries, entry.slots = [] := by
  induction entries generalizing h node owned persisted with
  | nil => exact fun _ hentry ↦ (List.not_mem_nil hentry).elim
  | cons entry entries ih =>
    have hexec := exec_run answers_served ((reBalanceEntry src shard index).on h) persisted
    generalize ((reBalanceEntry src shard index).on h).run served persisted = result at hexec
    obtain ⟨⟨outcome, later⟩, final⟩ := result
    simp only at hexec
    have hturn := (reBalanceEntry_turned False src persisted hnode hsizes).exec hexec
    have hreal : Exec (answers True) ((reBalanceEntry src shard index).on h) persisted (outcome, later)
        final := hexec.mono answers_mono
    cases outcome with
    | err error => exact hturn.1.elim
    | panic =>
      obtain ⟨added, rfl⟩ := exec_extends hexec
      have hpanic := hkeeps .panic later added (Method.exec_bind_iff.mpr (.inr (.inr ⟨later, rfl, hreal⟩)))
      exact absurd rfl hpanic.1
    | ok _ =>
      obtain ⟨hlength, hname, hmatrix, hfinal⟩ := hturn
      have hrest {result : Outcome GoError Unit} {last : Handler} {added : List (List KVRocksTopoPartitions)}
          (hlater : Exec (answers True) ((ensureReBalanceTopo src shard index entries).on later)
            (persisted ++ [topoOf later.instance_.name later.stsNodes]) (result, last)
            (persisted ++ [topoOf later.instance_.name later.stsNodes] ++ added)) :
          result ≠ .panic ∧ Books shard index owned (entry :: entries) (topoOf h.instance_.name h.stsNodes)
            (topoOf later.instance_.name later.stsNodes :: added) := by
        have happend : persisted ++ [topoOf later.instance_.name later.stsNodes] ++ added =
            persisted ++ topoOf later.instance_.name later.stsNodes :: added := by simp
        rw [happend] at hlater
        exact hkeeps result last _ (Method.exec_bind_iff.mpr (.inl ⟨_, later, _, hfinal ▸ hreal, hlater⟩))
      have hbooked : Booked shard index owned entry (topoOf h.instance_.name h.stsNodes)
          (topoOf later.instance_.name later.stsNodes) := by
        have hlast := exec_run answers_served ((ensureReBalanceTopo src shard index entries).on later)
          (persisted ++ [topoOf later.instance_.name later.stsNodes])
        obtain ⟨added, hadded⟩ := exec_extends hlast
        rw [hadded] at hlast
        exact (hrest (hlast.mono answers_mono)).2.1
      have hlost := length_masterSlots_turned h.instance_.name hslotted hnode hrole hlength
      rw [← hmatrix, ← hname, hbooked.whole.length_eq, hname] at hlost
      have hempty : entry.slots = [] := List.length_eq_zero_iff.mp (by omega)
      rw [hempty, List.length_nil] at hmatrix
      have hnode' : nodeAt later.stsNodes shard index = some (sortSlots (withoutEntry 0 node)) := by
        rw [hmatrix]
        exact nodeAt_turned hnode
      have hslotted' : Slotted later.stsNodes := by
        rw [hmatrix]
        exact hslotted.turned hnode
      have hkeeps' : KeepsBooks src shard index (owned.filter fun slot ↦ decide (slot ∉ entry.slots)) entries later
          (persisted ++ [topoOf later.instance_.name later.stsNodes]) := by
        intro result last added hlater
        have hboth := hrest hlater
        exact ⟨hboth.1, hboth.2.2⟩
      exact List.forall_mem_cons.mpr ⟨hempty, ih hslotted' hnode' hrole (sizes_turned hsizes 0) hkeeps'⟩

end Loop

/-- For every master of the matrix: the books are kept exactly if its entries move no slots. -/
theorem ensureReBalanceTopo_keepsBooks_iff (h : Handler) (src : ℤ) (shard index : ℕ) (node : Node)
    (hslotted : Slotted h.stsNodes) (hnode : nodeAt h.stsNodes shard index = some node)
    (hrole : node.role = .master) (persisted : List (List KVRocksTopoPartitions)) :
    KeepsBooks src shard index node.slots node.migrate h persisted ↔ ∀ entry ∈ node.migrate, entry.slots = [] := by
  constructor
  · exact empty_of_keepsBooks hslotted hnode hrole rfl
  · intro hempty outcome later added hexec
    have hends := (books_of_empty src persisted hslotted hnode rfl (List.Perm.refl _) hempty).exec hexec
    have hbooks (hadded : ∃ others, persisted ++ added = persisted ++ others ∧
        Books shard index node.slots node.migrate (topoOf h.instance_.name h.stsNodes) others) :
        Books shard index node.slots node.migrate (topoOf h.instance_.name h.stsNodes) added := by
      obtain ⟨others, hothers, hbooks⟩ := hadded
      rwa [List.append_cancel_left hothers]
    cases outcome with
    | panic => exact hends.elim
    | ok _ => exact ⟨nofun, hbooks hends⟩
    | err error => exact ⟨nofun, hbooks hends⟩

/-! ## Two shards -/

/-- A master with slots and entries. -/
def owner (ip : String) (slots : List ℤ) (migrate : List Kvrocks.MigrateMsg) : Node :=
  { Kvrocks.Node.fresh ip 0 with role := .master, slots := slots, migrate := migrate }

/-- The first shard has the slots 0 to 3 and the second one 4 and 5. -/
def rebalancing (migrate : List Kvrocks.MigrateMsg) : Handler :=
  { newKVRocksClusterHandler migrating.instance_.key migrating.instance_ Controller.newClient with
    stsNodes := [[owner "10.0.0.1" [0, 1, 2, 3] migrate], [owner "10.0.0.2" [4, 5] []]] }

theorem slotted_rebalancing (migrate : List Kvrocks.MigrateMsg) : Slotted (rebalancing migrate).stsNodes := by
  have hslots : ∀ slots ∈ ([[0, 1, 2, 3], [4, 5]] : List (List ℤ)), ∀ slot ∈ slots,
      0 ≤ slot ∧ slot ≤ Text.maxInt := by decide
  intro node hnode
  have hcases : node = owner "10.0.0.1" [0, 1, 2, 3] migrate ∨ node = owner "10.0.0.2" [4, 5] [] := by
    simpa [rebalancing] using hnode
  rcases hcases with rfl | rfl
  · exact hslots _ List.mem_cons_self
  · exact hslots _ (List.mem_cons_of_mem _ List.mem_cons_self)

/-- An entry without slots leaves the books in order. -/
theorem empty_entry_keepsBooks : KeepsBooks 0 0 0 [0, 1, 2, 3] [⟨1, []⟩] (rebalancing [⟨1, []⟩]) [] :=
  (ensureReBalanceTopo_keepsBooks_iff (rebalancing [⟨1, []⟩]) 0 0 0 (owner "10.0.0.1" [0, 1, 2, 3] [⟨1, []⟩])
    (slotted_rebalancing _) rfl rfl []).mpr (by simp [owner])

/-- Slot 2 is moved to the second shard: then slot 0 is missing from the first shard's record instead, and the second
shard's record is as it was. -/
theorem middle_slot_misbooked :
    (((ensureReBalanceTopo 0 0 0 [⟨1, [2]⟩]).on (rebalancing [⟨1, [2]⟩])).run served []).2.map (fun topo ↦
        ((recordAt topo 0 0).map slotsOf, (recordAt topo 1 0).map slotsOf)) = [(some [1, 2, 3], some [4, 5])] ∧
      ¬ KeepsBooks 0 0 0 [0, 1, 2, 3] [⟨1, [2]⟩] (rebalancing [⟨1, [2]⟩]) [] := by
  have hexec := (exec_run answers_served ((ensureReBalanceTopo 0 0 0 [⟨1, [2]⟩]).on
    (rebalancing [⟨1, [2]⟩])) []).mono answers_mono
  have hrun : (((ensureReBalanceTopo 0 0 0 [⟨1, [2]⟩]).on (rebalancing [⟨1, [2]⟩])).run served []).2.map
      (fun topo ↦ ((recordAt topo 0 0).map slotsOf, (recordAt topo 1 0).map slotsOf)) =
      [(some [1, 2, 3], some [4, 5])] := by
    decide +kernel
  refine ⟨hrun, fun hkeeps ↦ ?_⟩
  generalize ((ensureReBalanceTopo 0 0 0 [⟨1, [2]⟩]).on (rebalancing [⟨1, [2]⟩])).run served [] = result at hexec hrun
  obtain ⟨⟨outcome, later⟩, persisted⟩ := result
  have hbooks := (hkeeps outcome later persisted hexec).2
  cases persisted with
  | nil => cases hrun
  | cons topo persisted =>
    obtain ⟨record, hrecord, hperm⟩ := hbooks.1.source
    have hslots : slotsOf record = [1, 2, 3] := by
      have hfirst : (recordAt topo 0 0).map slotsOf = some [1, 2, 3] := congrArg Prod.fst (List.cons.inj hrun).1
      rw [hrecord] at hfirst
      exact Option.some.inj hfirst
    rw [hslots] at hperm
    exact absurd hperm (by decide)

end KvrocksOperator.Migration
