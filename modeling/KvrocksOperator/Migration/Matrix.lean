import KvrocksOperator.Client.Slots
import KvrocksOperator.Cluster.Handle
import KvrocksOperator.Cluster.Identity
import KvrocksOperator.Sequences.Positions

/-!
# Migrations in the node matrix

Which node a pass migrates slots from, how that changes when an entry has been carried out, and that the migrations of
a matrix come back unchanged when the matrix is persisted, restored and identified again.
-/

namespace KvrocksOperator.Migration

open Cluster Sequences

/-! ## The first master with entries -/

/-- What `ensureMigrate` looks at. -/
def mark (node : Node) : Role × List Kvrocks.MigrateMsg := (node.role, node.migrate)

def marks (matrix : Matrix) : List (List (Role × List Kvrocks.MigrateMsg)) := matrix.map (·.map mark)

/-- The first master with entries is the node at a position, and it is the master with the number of its own shard. -/
def Leads (matrix : Matrix) (shard index : ℕ) (entries : List Kvrocks.MigrateMsg) :
    Prop :=
  ∃ node, (masters matrix).zipIdx.find? (fun ((node, _, _), _) ↦ node.migrate ≠ []) =
    some ((node, shard, index), shard) ∧ node.migrate = entries

/-- The masters of a matrix of marks. -/
def markedMasters (rows : List (List (Role × List Kvrocks.MigrateMsg))) : List (List Kvrocks.MigrateMsg × ℕ × ℕ) :=
  rows.zipIdx.flatMap fun (row, shard) ↦ row.zipIdx.filterMap fun ((role, migrate), index) ↦
      if role = .master then some (migrate, shard, index) else none

theorem masters_marks (matrix : Matrix) :
    (masters matrix).map (fun (node, shard, index) ↦ (node.migrate, shard, index)) = markedMasters (marks matrix) := by
  unfold masters markedMasters marks
  rw [List.map_flatMap, List.zipIdx_map, List.flatMap_map]
  congr 1
  funext ⟨members, shard⟩
  change _ = List.filterMap _ (members.map mark).zipIdx
  rw [List.map_filterMap, List.zipIdx_map, List.filterMap_map]
  congr 1
  funext ⟨node, index⟩
  by_cases hmaster : node.role = .master <;> simp [mark, hmaster]

theorem leads_iff {matrix : Matrix} {shard index : ℕ} {entries : List Kvrocks.MigrateMsg} :
    Leads matrix shard index entries ↔
      (markedMasters (marks matrix)).zipIdx.find? (fun ((migrate, _, _), _) ↦ migrate ≠ []) =
        some ((entries, shard, index), shard) := by
  rw [← masters_marks, List.zipIdx_map, List.find?_map, Option.map_eq_some_iff]
  constructor
  · rintro ⟨node, hfind, rfl⟩
    exact ⟨_, hfind, rfl⟩
  · rintro ⟨⟨⟨node, shard', index'⟩, source⟩, hfind, hentry⟩
    cases hentry
    exact ⟨node, hfind, rfl⟩

theorem markedMasters_modify (rows : List (List (Role × List Kvrocks.MigrateMsg))) (shard index : ℕ)
    (change : List Kvrocks.MigrateMsg → List Kvrocks.MigrateMsg) :
    markedMasters (rows.modify shard (·.modify index fun (role, migrate) ↦ (role, change migrate))) =
      (markedMasters rows).map fun (migrate, shard', index') ↦
        (if shard' = shard ∧ index' = index then change migrate else migrate, shard', index') := by
  unfold markedMasters
  rw [zipIdx_modify, List.flatMap_map, List.map_flatMap]
  congr 1
  funext ⟨row, shard'⟩
  by_cases hshard : shard' = shard
  · simp only [hshard, if_true]
    rw [zipIdx_modify, List.filterMap_map, List.map_filterMap]
    congr 1
    funext ⟨⟨role, migrate⟩, index'⟩
    by_cases hindex : index' = index <;> by_cases hmaster : role = .master <;> simp [hindex, hmaster]
  · simp only [hshard, if_false]
    rw [List.map_filterMap]
    congr 1
    funext ⟨⟨role, migrate⟩, index'⟩
    by_cases hmaster : role = .master <;> simp [hmaster, hshard]

theorem marks_modifyNode_withoutEntry (matrix : Matrix) (shard index count : ℕ) :
    marks (modifyNode shard index (withoutEntry count) matrix) =
      (marks matrix).modify shard (·.modify index fun (role, migrate) ↦ (role, migrate.tail)) := by
  apply map_modify
  intro members
  apply map_modify
  intro node
  rfl

/-- Carrying out the first entry leaves the node in the lead as long as it has another one. -/
theorem Leads.tail {matrix : Matrix} {shard index : ℕ} {entry : Kvrocks.MigrateMsg}
    {entries : List Kvrocks.MigrateMsg} (h : Leads matrix shard index (entry :: entries)) (hne : entries ≠ [])
    (count : ℕ) : Leads (modifyNode shard index (withoutEntry count) matrix) shard index entries := by
  rw [leads_iff] at h ⊢
  obtain ⟨_, front, back, hsplit, hfront⟩ := List.find?_eq_some_iff_append.mp h
  rw [marks_modifyNode_withoutEntry, markedMasters_modify, List.zipIdx_map, List.find?_map, Option.map_eq_some_iff]
  refine ⟨((entry :: entries, shard, index), shard), ?_, by simp⟩
  refine List.find?_eq_some_iff_append.mpr ⟨by simpa using hne, front, back, hsplit, ?_⟩
  -- the masters before it had no entries, and have none now
  rintro ⟨⟨migrate, shard', index'⟩, source⟩ hmem
  have hnil : migrate = [] := by simpa using hfront _ hmem
  simp [hnil]

theorem leads_congr {first second : Matrix} (h : marks first = marks second) (shard index : ℕ)
    (entries : List Kvrocks.MigrateMsg) : Leads first shard index entries ↔ Leads second shard index entries := by
  rw [leads_iff, leads_iff, h]

/-- The node at a position of the matrix. -/
def nodeAt (matrix : Matrix) (shard index : ℕ) : Option Node := matrix[shard]?.bind (·[index]?)

theorem mem_masters {matrix : Matrix} {node : Node} {shard index : ℕ} :
    (node, shard, index) ∈ masters matrix ↔ nodeAt matrix shard index = some node ∧ node.role = .master := by
  unfold masters nodeAt
  rw [List.mem_flatMap, Option.bind_eq_some_iff]
  constructor
  · rintro ⟨⟨members, position⟩, hmembers, hmaster⟩
    obtain ⟨⟨master, place⟩, hplace, hsome⟩ := List.mem_filterMap.mp hmaster
    obtain ⟨hrole, hentry⟩ := Option.ite_none_right_eq_some.mp hsome
    cases hentry
    exact ⟨⟨members, List.mem_zipIdx_iff_getElem?.mp hmembers, List.mem_zipIdx_iff_getElem?.mp hplace⟩, hrole⟩
  · rintro ⟨⟨members, hmembers, hplace⟩, hrole⟩
    refine ⟨(members, shard), List.mem_zipIdx_iff_getElem?.mpr hmembers, List.mem_filterMap.mpr ?_⟩
    exact ⟨(node, index), List.mem_zipIdx_iff_getElem?.mpr hplace, if_pos hrole⟩

theorem Leads.node {matrix : Matrix} {shard index : ℕ} {entries : List Kvrocks.MigrateMsg}
    (h : Leads matrix shard index entries) :
    ∃ node, nodeAt matrix shard index = some node ∧ node.migrate = entries := by
  obtain ⟨node, hfind, hentries⟩ := h
  have hmem := List.fst_mem_of_mem_zipIdx (List.mem_of_find?_eq_some hfind)
  exact ⟨node, (mem_masters.mp hmem).1, hentries⟩

theorem Leads.ne_nil {matrix : Matrix} {shard index : ℕ} {entries : List Kvrocks.MigrateMsg}
    (h : Leads matrix shard index entries) : entries ≠ [] := by
  obtain ⟨node, hfind, rfl⟩ := h
  simpa using List.find?_some hfind

/-! ## Persisting and restoring -/

/-- The records do not depend on the order of the slots. -/
theorem statusTopo_sortSlots (instanceName : String) (matrix : Matrix) :
    statusTopo instanceName ((matrix.map (·.map sortSlots)).map (·.map some)) =
      statusTopo instanceName (matrix.map (·.map some)) := by
  have htopology : ∀ partitionName index node,
      topologyOf partitionName index (sortSlots node) = topologyOf partitionName index node := by
    intro partitionName index node
    have hslots : ∀ slots, Kvrocks.slotsToString (Kvrocks.sortInts slots) = Kvrocks.slotsToString slots := by
      intro slots
      unfold Kvrocks.slotsToString
      rw [Kvrocks.sortInts_sortInts]
    unfold topologyOf sortSlots
    rw [List.map_map]
    simp only [hslots, Function.comp_def]
  unfold statusTopo
  rw [List.zipIdx_map, List.zipIdx_map, List.zipIdx_map, List.filterMap_map, List.filterMap_map, List.filterMap_map]
  congr 1
  funext ⟨members, shard⟩
  change (if (members.map sortSlots).map some = [] then none else
      some (partitionOf instanceName shard ((members.map sortSlots).map some))) =
    if members.map some = [] then none else some (partitionOf instanceName shard (members.map some))
  have hshard : ∀ partitionName, shardTopology partitionName ((members.map sortSlots).map some) =
      shardTopology partitionName (members.map some) := by
    intro partitionName
    rw [shardTopology_some, shardTopology_some, List.zipIdx_map, List.map_map]
    exact List.map_congr_left fun entry _ ↦ htopology partitionName entry.2 entry.1
  unfold partitionOf
  rw [hshard]
  simp only [List.map_eq_nil_iff]

/-- A matrix of the given pods, in which the controller's roles are known and the entries are sorted lists of slots.
-/
structure Tidy (pods : Matrix) (nodes : List (List Controller.Node)) (matrix : Matrix) : Prop where
  stubs : matrix.map (·.map stub) = pods
  roles : ∀ shard members, matrix[shard]? = some members → ∀ node ∈ members, ∀ slotRanges,
    (identify ⟨nodes.getD shard [], slotRanges⟩ node).role = node.role
  sorted : ∀ members ∈ matrix, ∀ node ∈ members, ∀ entry ∈ node.migrate, entry.slots.Pairwise (· ≤ ·)
  valid : ∀ members ∈ matrix, ∀ node ∈ members, ∀ entry ∈ node.migrate, ∀ slot ∈ entry.slots, Kvrocks.IsSlot slot

/-- Restoring keeps the pods. -/
theorem restoreShard_stub {topology : List KVRocksTopology} {nodes restored : List Node}
    (h : restoreShard topology nodes = some restored) : restored.map stub = nodes.map stub := by
  apply List.ext_getElem?
  intro index
  rw [List.getElem?_map, List.getElem?_map, restoreShard_getElem? h, Option.map_map]
  congr 1
  funext node
  change stub (restoreAt topology index node) = stub node
  unfold restoreAt
  split <;> rfl

variable {pods restored : Matrix} {topo : List KVRocksTopoPartitions}

theorem restoreTopo_stub (h : restoreTopo topo pods = some restored) :
    restored.map (·.map stub) = pods.map (·.map stub) := by
  have hfits := (restoreTopo_isSome_iff topo pods).mp (by rw [h]; rfl)
  apply List.ext_getElem?
  intro shard
  rw [List.getElem?_map, List.getElem?_map, restoreTopo_getElem? h]
  cases hshard : pods[shard]? with
  | none => rfl
  | some members =>
    have hsome : (restoreShard (recordsAt topo shard) members).isSome := by
      have hlength := hfits shard
      rw [List.getD_eq_getElem?_getD, hshard] at hlength
      exact (restoreShard_isSome_iff _ members).mpr hlength
    obtain ⟨restoredShard, hrestored⟩ := Option.isSome_iff_exists.mp hsome
    rw [Option.bind_some, hrestored, Option.map_some, Option.map_some, restoreShard_stub hrestored]

/-- Restored entries hold only slots. -/
theorem restoreTopo_valid (hpods : ∀ members ∈ pods, ∀ node ∈ members, node.migrate = [])
    (h : restoreTopo topo pods = some restored) :
    ∀ members ∈ restored, ∀ node ∈ members, ∀ entry ∈ node.migrate, ∀ slot ∈ entry.slots, Kvrocks.IsSlot slot := by
  intro members hmembers node hnode entry hentry slot hslot
  obtain ⟨shard, hshard⟩ := List.mem_iff_getElem?.mp hmembers
  obtain ⟨index, hindex⟩ := List.mem_iff_getElem?.mp hnode
  have hrestored := restoreTopo_node h shard index
  rw [List.getD_eq_getElem?_getD, hshard, Option.getD_some, hindex] at hrestored
  obtain ⟨pod, hpod, hnode⟩ := Option.map_eq_some_iff.mp hrestored.symm
  have hempty : pod.migrate = [] := by
    cases hold : pods[shard]? with
    | none =>
      rw [List.getD_eq_getElem?_getD, hold] at hpod
      cases hpod
    | some old =>
      rw [List.getD_eq_getElem?_getD, hold] at hpod
      exact hpods old (List.mem_of_getElem? hold) pod (List.mem_of_getElem? hpod)
  rw [← hnode] at hentry
  unfold restoreAt at hentry
  split at hentry
  · change entry ∈ pod.migrate ++ _ at hentry
    rw [hempty, List.nil_append] at hentry
    obtain ⟨recorded, _, rfl⟩ := List.mem_map.mp hentry
    exact Kvrocks.isSlot_of_mem_slotsToInt hslot
  · rw [hempty] at hentry
    cases hentry

/-- What a pass makes of the persisted topology is tidy. -/
theorem tidy_of_restored (hpods : ∀ members ∈ pods, ∀ node ∈ members, node = stub node)
    (h : restoreTopo topo pods = some restored) (nodes : List (List Controller.Node)) (slotRanges : ℕ → List String) :
    Tidy pods nodes ((identifyAll (fun shard ↦ ⟨nodes.getD shard [], slotRanges shard⟩)
      restored).map (·.map sortSlots)) := by
  have hmember : ∀ shard members, ((identifyAll (fun shard ↦
      ⟨nodes.getD shard [], slotRanges shard⟩) restored).map (·.map sortSlots))[shard]? = some members →
      ∀ node ∈ members, ∃ old ∈ restored.getD shard [],
        node = sortSlots (identify ⟨nodes.getD shard [], slotRanges shard⟩ old) := by
    intro shard members hmembers node hnode
    rw [List.getElem?_map, getElem?_identifyAll, Option.map_map, Option.map_eq_some_iff] at hmembers
    obtain ⟨row, hrow, rfl⟩ := hmembers
    obtain ⟨identified, hidentified, rfl⟩ := List.mem_map.mp hnode
    obtain ⟨old, hold, rfl⟩ := List.mem_map.mp hidentified
    rw [List.getD_eq_getElem?_getD, hrow]
    exact ⟨old, hold, rfl⟩
  have hrestored : ∀ shard, ∀ old ∈ restored.getD shard [], ∀ entry ∈ old.migrate,
      ∀ slot ∈ entry.slots, Kvrocks.IsSlot slot := by
    intro shard old hold
    cases hrow : restored[shard]? with
    | none =>
      rw [List.getD_eq_getElem?_getD, hrow] at hold
      cases hold
    | some row =>
      rw [List.getD_eq_getElem?_getD, hrow] at hold
      refine restoreTopo_valid (fun members hmembers node hnode ↦ ?_) h row (List.mem_of_getElem? hrow) old hold
      rw [hpods members hmembers node hnode]
      rfl
  constructor
  · have hsame : pods.map (·.map stub) = pods := by
      refine (List.map_congr_left fun members hmembers ↦ ?_).trans (List.map_id _)
      exact (List.map_congr_left fun node hnode ↦ (hpods members hmembers node hnode).symm).trans (List.map_id _)
    rw [← hsame, ← restoreTopo_stub h]
    apply List.ext_getElem?
    intro shard
    rw [List.getElem?_map, List.getElem?_map, List.getElem?_map, getElem?_identifyAll, Option.map_map, Option.map_map]
    congr 1
    funext members
    change ((members.map _).map sortSlots).map stub = members.map stub
    rw [List.map_map, List.map_map]
    exact List.map_congr_left fun node _ ↦ stub_identify _ node
  · intro shard members hmembers node hnode ranges
    obtain ⟨old, _, rfl⟩ := hmember shard members hmembers node hnode
    have hsorted : (identify ⟨nodes.getD shard [], ranges⟩ (sortSlots
        (identify ⟨nodes.getD shard [], slotRanges shard⟩ old))).role =
        (identify ⟨nodes.getD shard [], ranges⟩
          (identify ⟨nodes.getD shard [], slotRanges shard⟩ old)).role := identify_role_congr rfl rfl rfl
    have hidem : (identify ⟨nodes.getD shard [], ranges⟩ (identify ⟨nodes.getD shard [], slotRanges shard⟩ old)).role =
        (identify ⟨nodes.getD shard [], slotRanges shard⟩ old).role := identify_role_idem _ _ _ old
    exact hsorted.trans hidem
  · intro members hmembers node hnode entry hentry
    obtain ⟨shard, hshard⟩ := List.mem_iff_getElem?.mp hmembers
    obtain ⟨old, _, rfl⟩ := hmember shard members hshard node hnode
    obtain ⟨unsorted, _, rfl⟩ := List.mem_map.mp hentry
    exact Kvrocks.pairwise_sortInts unsorted.slots
  · intro members hmembers node hnode entry hentry slot hslot
    obtain ⟨shard, hshard⟩ := List.mem_iff_getElem?.mp hmembers
    obtain ⟨old, hold, rfl⟩ := hmember shard members hshard node hnode
    obtain ⟨unsorted, hunsorted, rfl⟩ := List.mem_map.mp hentry
    rw [identify_migrate] at hunsorted
    exact hrestored shard old hold unsorted hunsorted slot (Kvrocks.mem_sortInts.mp hslot)

/-- Carrying out an entry and sorting the rest keeps a matrix tidy. -/
theorem Tidy.tail {nodes : List (List Controller.Node)} {matrix : Matrix}
    (h : Tidy pods nodes matrix) (shard index count : ℕ) :
    Tidy pods nodes ((modifyNode shard index (withoutEntry count) matrix).map (·.map sortSlots)) := by
  -- every node of the new matrix comes from one of the old matrix
  have hmember : ∀ (position : ℕ) members, ((modifyNode shard index (withoutEntry count) matrix).map
      (·.map sortSlots))[position]? = some members → ∃ row, matrix[position]? = some row ∧
      ∀ node ∈ members, ∃ old ∈ row, node = sortSlots old ∨ node = sortSlots (withoutEntry count old) := by
    intro position members hmembers
    unfold modifyNode at hmembers
    rw [List.getElem?_map, List.getElem?_modify, Option.map_eq_map, Option.map_map, Option.map_eq_some_iff] at hmembers
    obtain ⟨row, hrow, rfl⟩ := hmembers
    refine ⟨row, hrow, fun node hnode ↦ ?_⟩
    obtain ⟨changed, hchanged, rfl⟩ := List.mem_map.mp hnode
    by_cases hposition : shard = position
    · simp only [hposition, if_true] at hchanged
      obtain ⟨place, hplace⟩ := List.mem_iff_getElem?.mp hchanged
      rw [List.getElem?_modify, Option.map_eq_map, Option.map_eq_some_iff] at hplace
      obtain ⟨old, hold, rfl⟩ := hplace
      refine ⟨old, List.mem_of_getElem? hold, ?_⟩
      split_ifs
      · exact Or.inr rfl
      · exact Or.inl rfl
    · simp only [hposition, if_false] at hchanged
      exact ⟨changed, hchanged, Or.inl rfl⟩
  have hentry : ∀ members ∈ (modifyNode shard index (withoutEntry count) matrix).map
      (·.map sortSlots), ∀ node ∈ members, ∀ entry ∈ node.migrate, ∃ row ∈ matrix, ∃ old ∈ row,
        ∃ unsorted ∈ old.migrate, entry.slots = Kvrocks.sortInts unsorted.slots := by
    intro members hmembers node hnode entry hentry
    obtain ⟨position, hposition⟩ := List.mem_iff_getElem?.mp hmembers
    obtain ⟨row, hrow, hrows⟩ := hmember position members hposition
    obtain ⟨old, hold, hnode⟩ := hrows node hnode
    refine ⟨row, List.mem_of_getElem? hrow, old, hold, ?_⟩
    rcases hnode with rfl | rfl
    · obtain ⟨unsorted, hunsorted, rfl⟩ := List.mem_map.mp hentry
      exact ⟨unsorted, hunsorted, rfl⟩
    · obtain ⟨unsorted, hunsorted, rfl⟩ := List.mem_map.mp hentry
      exact ⟨unsorted, List.mem_of_mem_tail hunsorted, rfl⟩
  constructor
  · rw [← h.stubs, List.map_map]
    have hsort : ((fun members ↦ members.map stub) ∘ fun members ↦ members.map sortSlots) =
        fun members : List Node ↦ members.map stub := by
      funext members
      change (members.map sortSlots).map stub = members.map stub
      rw [List.map_map]
      rfl
    have hkeep : (modifyNode shard index (withoutEntry count) matrix).map (·.map stub) =
        (matrix.map (·.map stub)).modify shard (·.modify index id) := by
      apply map_modify
      intro members
      apply map_modify
      intro node
      rfl
    have hid : ∀ members : List Node, members.modify index id = members := fun members ↦ List.modify_id index members
    rw [hsort, hkeep, funext hid]
    exact List.modify_id shard _
  · intro position members hmembers node hnode ranges
    obtain ⟨row, hrow, hrows⟩ := hmember position members hmembers
    obtain ⟨old, hold, hnode⟩ := hrows node hnode
    have hold := h.roles position row hrow old hold ranges
    have hsame : node.ip = old.ip ∧ node.role = old.role := by
      rcases hnode with rfl | rfl <;> exact ⟨rfl, rfl⟩
    rw [hsame.2, ← hold]
    exact identify_role_congr rfl hsame.1 hsame.2
  · intro members hmembers node hnode entry hmem
    obtain ⟨_, _, _, _, unsorted, _, hslots⟩ := hentry members hmembers node hnode entry hmem
    rw [hslots]
    exact Kvrocks.pairwise_sortInts unsorted.slots
  · intro members hmembers node hnode entry hmem slot hslot
    obtain ⟨row, hrow, old, hold, unsorted, hunsorted, hslots⟩ := hentry members hmembers node hnode entry hmem
    rw [hslots] at hslot
    exact h.valid row hrow old hold unsorted hunsorted slot (Kvrocks.mem_sortInts.mp hslot)

/-- The encoding of the status does not change sorted slots. -/
theorem recodeSlots_of_sorted {slots : List ℤ} (hsorted : slots.Pairwise (· ≤ ·))
    (hvalid : ∀ slot ∈ slots, Kvrocks.IsSlot slot) : recodeSlots slots = slots := by
  unfold recodeSlots
  rw [Kvrocks.slotsToInt_slotsToString hvalid, Kvrocks.sortInts_of_pairwise hsorted]

/-- The migrations of a tidy matrix survive persisting, restoring and identifying. -/
theorem Tidy.marks_eq {nodes : List (List Controller.Node)} {matrix : Matrix}
    (h : Tidy pods nodes matrix) (slotRanges : ℕ → List String) :
    marks ((identifyAll (fun shard ↦ ⟨nodes.getD shard [], slotRanges shard⟩)
      (matrix.map (·.map recode))).map (·.map sortSlots)) = marks matrix := by
  have hmark : ∀ entry ∈ matrix.zipIdx, ∀ node ∈ entry.1,
      mark (sortSlots (identify ⟨nodes.getD entry.2 [], slotRanges entry.2⟩ (recode node))) = mark node := by
    intro ⟨members, shard⟩ hmembers node hnode
    have hshard : matrix[shard]? = some members := List.mem_zipIdx_iff_getElem?.mp hmembers
    have hmem : members ∈ matrix := List.mem_of_getElem? hshard
    have hrole := h.roles shard members hshard node hnode (slotRanges shard)
    have hmigrate : (recode node).migrate = node.migrate := by
      refine (List.map_congr_left fun entry hentry ↦ ?_).trans (List.map_id _)
      rw [recodeSlots_of_sorted (h.sorted members hmem node hnode entry hentry)
        (h.valid members hmem node hnode entry hentry)]
      rfl
    have hsorted : (node.migrate.map fun migrate ↦
        { migrate with slots := Kvrocks.sortInts migrate.slots }) = node.migrate := by
      refine (List.map_congr_left fun entry hentry ↦ ?_).trans (List.map_id _)
      rw [Kvrocks.sortInts_of_pairwise (h.sorted members hmem node hnode entry hentry)]
      rfl
    refine Prod.ext ?_ ?_
    · have hrecode : (identify ⟨nodes.getD shard [], slotRanges shard⟩ (recode node)).role =
          (identify ⟨nodes.getD shard [], slotRanges shard⟩ node).role :=
        identify_role_congr rfl rfl rfl
      exact hrecode.trans hrole
    · change (identify _ (recode node)).migrate.map _ = node.migrate
      rw [identify_migrate, hmigrate, hsorted]
  have hplain : marks matrix = matrix.zipIdx.map fun entry ↦ entry.1.map mark := by
    calc
      marks matrix = (matrix.zipIdx.map Prod.fst).map (·.map mark) := by
        rw [List.zipIdx_map_fst]
        rfl
      _ = matrix.zipIdx.map fun entry ↦ entry.1.map mark := by
        rw [List.map_map]
        rfl
  rw [hplain]
  unfold marks identifyAll
  rw [List.zipIdx_map, List.map_map, List.map_map, List.map_map]
  refine List.map_congr_left fun entry hentry ↦ ?_
  change ((((entry.1.map recode).map _).map sortSlots).map mark) = entry.1.map mark
  rw [List.map_map, List.map_map, List.map_map]
  exact List.map_congr_left fun node hnode ↦ hmark entry hentry node hnode

/-- Sorting the entries that a tidy matrix has left changes no mark. -/
theorem Tidy.marks_tail {nodes : List (List Controller.Node)} {matrix : Matrix}
    (h : Tidy pods nodes matrix) (shard index count : ℕ) :
    marks ((modifyNode shard index (withoutEntry count) matrix).map (·.map sortSlots)) =
      marks (modifyNode shard index (withoutEntry count) matrix) := by
  have hsorted : matrix.map (·.map (mark ∘ sortSlots)) = marks matrix := by
    refine List.map_congr_left fun members hmembers ↦ List.map_congr_left fun node hnode ↦ ?_
    refine Prod.ext rfl ?_
    refine (List.map_congr_left fun entry hentry ↦ ?_).trans (List.map_id _)
    rw [Kvrocks.sortInts_of_pairwise (h.sorted members hmembers node hnode entry hentry)]
    rfl
  have hmodify : (modifyNode shard index (withoutEntry count) matrix).map (·.map (mark ∘ sortSlots)) =
      (matrix.map (·.map (mark ∘ sortSlots))).modify shard
        (·.modify index fun (role, migrate) ↦ (role, migrate.tail)) := by
    apply map_modify
    intro members
    apply map_modify
    intro node
    exact Prod.ext rfl List.map_tail
  rw [marks_modifyNode_withoutEntry, ← hsorted, ← hmodify]
  unfold marks
  rw [List.map_map]
  refine List.map_congr_left fun members _ ↦ ?_
  exact List.map_map

theorem nodeAt_map (change : Node → Node) (matrix : Matrix) (shard index : ℕ) :
    nodeAt (matrix.map (·.map change)) shard index = (nodeAt matrix shard index).map change := by
  unfold nodeAt
  rw [List.getElem?_map]
  cases matrix[shard]? with
  | none => rfl
  | some members => exact List.getElem?_map

theorem nodeAt_modifyNode (change : Node → Node) (matrix : Matrix) (shard index : ℕ) :
    nodeAt (modifyNode shard index change matrix) shard index = (nodeAt matrix shard index).map change := by
  unfold nodeAt modifyNode
  rw [List.getElem?_modify_eq]
  cases matrix[shard]? with
  | none => rfl
  | some members => exact List.getElem?_modify_eq change index members

/-- The marks of a matrix give the entries of its nodes. -/
theorem nodeAt_migrate_congr {first second : Matrix} (h : marks first = marks second)
    (shard index : ℕ) : (nodeAt first shard index).map (·.migrate) = (nodeAt second shard index).map (·.migrate) := by
  have hread (matrix : Matrix) : (nodeAt matrix shard index).map (·.migrate) =
      ((marks matrix)[shard]?.bind (·[index]?)).map Prod.snd := by
    unfold nodeAt marks
    rw [List.getElem?_map]
    cases matrix[shard]? with
    | none => rfl
    | some members =>
      rw [Option.map_some, Option.bind_some, Option.bind_some, List.getElem?_map, Option.map_map]
      rfl
  rw [hread, hread, h]

theorem nodeAt_identifyAll (shardData : ℕ → ShardData) (matrix : Matrix) (shard index : ℕ) :
    nodeAt (identifyAll shardData matrix) shard index =
      (nodeAt matrix shard index).map (identify (shardData shard)) := by
  unfold nodeAt
  rw [getElem?_identifyAll]
  cases matrix[shard]? with
  | none => rfl
  | some members => exact List.getElem?_map

/-- A node that the controller knows has the slots of its shard. -/
theorem identify_slots {shardData : ShardData} {node : Node}
    (h : ∃ member ∈ shardData.nodes, simplyIp member.addr = node.ip) :
    (identify shardData node).slots = Kvrocks.slotsToInt shardData.slotRanges := by
  obtain ⟨member, hmember, hip⟩ := h
  have hfind : (shardData.nodes.find? fun shard ↦ simplyIp shard.addr == node.ip).isSome :=
    List.find?_isSome.mpr ⟨member, hmember, beq_iff_eq.mpr hip⟩
  obtain ⟨found, hfound⟩ := Option.isSome_iff_exists.mp hfind
  unfold identify
  rw [hfound]
  by_cases hmaster : found.role = .master <;> simp [hmaster]

end KvrocksOperator.Migration
