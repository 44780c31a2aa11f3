import KvrocksOperator.Cluster.Kvrocks
import KvrocksOperator.Controller.Store
import KvrocksOperator.Sequences.Positions

/-!
# Convergence of `updateCluster`

Whatever shards the controller has, one `updateCluster` brings them to the wanted node matrix, and a second one
changes nothing.  The three loops of the function are taken one after the other: after the first no shard has a node
too many, after the second none is missing, and the third cuts off the shards that are not wanted.
-/

namespace KvrocksOperator.Cluster

open Interaction Text Controller Sequences

/-! ## Addresses -/

/-- The node is registered under an address `ip:port`. -/
def HasIp (node : Controller.Node) (ip : String) : Prop := ':' ∉ ip.toList ∧ ∃ port, node.addr = ip ++ ":" ++ port

theorem simplyIp_append {ip : String} (h : ':' ∉ ip.toList) (port : String) : simplyIp (ip ++ ":" ++ port) = ip := by
  have haddr : ip ++ ":" ++ port = ip ++ String.singleton ':' ++ port := rfl
  unfold simplyIp
  rw [haddr, split_append h]
  rfl

theorem HasIp.simplyIp_addr {node : Controller.Node} {ip : String} (h : HasIp node ip) : simplyIp node.addr = ip := by
  obtain ⟨hip, port, haddr⟩ := h
  rw [haddr, simplyIp_append hip]

theorem simplyIp_nodeAddr {node : Kvrocks.Node} (h : ':' ∉ node.ip.toList) : simplyIp (nodeAddr node) = node.ip :=
  simplyIp_append h (itoa Kvrocks.kvrocksPort)

/-- The addresses of a shard without their ports. -/
def shardIps (shard : ShardData) : List String := shard.nodes.map fun node ↦ simplyIp node.addr

/-- The addresses of the wanted nodes of a shard. -/
def wantedIps (nodes : List Kvrocks.Node) : List String := nodes.map (·.ip)

theorem mem_shardIps_iff {shard : ShardData} (h : ∀ node ∈ shard.nodes, ∃ ip, HasIp node ip) (ip : String) :
    ip ∈ shardIps shard ↔ ∃ node ∈ shard.nodes, HasIp node ip := by
  unfold shardIps
  rw [List.mem_map]
  constructor
  · rintro ⟨node, hnode, rfl⟩
    obtain ⟨ip, hip⟩ := h node hnode
    exact ⟨node, hnode, by rwa [hip.simplyIp_addr]⟩
  · rintro ⟨node, hnode, hip⟩
    exact ⟨node, hnode, hip.simplyIp_addr⟩

/-! ## The state of the shards -/

/-- Shards as a controller keeps them: ids tell the nodes of a shard apart, and every node has an address with a port.
-/
def WellKept (shards : List ShardData) : Prop :=
  ∀ (index : ℕ) (shard : ShardData), shards[index]? = some shard →
    shard.Identified ∧ ∀ node ∈ shard.nodes, ∃ ip, HasIp node ip

/-- The first `count` shards have no unwanted address. -/
def NoneTooMany (stsNodes : Matrix) (count : ℕ) (shards : List ShardData) : Prop :=
  count ≤ shards.length ∧ ∀ (index : ℕ) shard nodes, index < count → shards[index]? = some shard →
    stsNodes[index]? = some nodes → shardIps shard ⊆ wantedIps nodes

/-- The first `count` shards have every wanted address. -/
def NoneMissing (stsNodes : Matrix) (count : ℕ) (shards : List ShardData) : Prop :=
  ∀ (index : ℕ) shard nodes, index < count → shards[index]? = some shard →
    stsNodes[index]? = some nodes → wantedIps nodes ⊆ shardIps shard

/-- The controller's shards are the wanted ones. -/
def Converged (stsNodes : Matrix) (shards : List ShardData) : Prop :=
  shards.length = stsNodes.length ∧ ∀ (index : ℕ) (shard : ShardData) nodes, shards[index]? = some shard →
    stsNodes[index]? = some nodes →
    ∀ ip, (∃ node ∈ shard.nodes, HasIp node ip) ↔ ip ∈ wantedIps nodes

/-- No wanted address contains a colon. -/
def ColonFree (stsNodes : Matrix) : Prop := ∀ nodes ∈ stsNodes, ∀ node ∈ nodes, ':' ∉ node.ip.toList

variable {shards : List ShardData}

theorem WellKept.set (h : WellKept shards) {index : ℕ} {shard : ShardData} (hids : shard.Identified)
    (haddrs : ∀ node ∈ shard.nodes, ∃ ip, HasIp node ip) : WellKept (shards.set index shard) := by
  intro position other hother
  rw [List.getElem?_set] at hother
  split_ifs at hother with hposition hlt
  · cases hother
    exact ⟨hids, haddrs⟩
  · exact h position other hother

theorem WellKept.append (h : WellKept shards) {shard : ShardData} (hids : shard.Identified)
    (haddrs : ∀ node ∈ shard.nodes, ∃ ip, HasIp node ip) : WellKept (shards ++ [shard]) := by
  intro position other hother
  rw [List.getElem?_append] at hother
  split_ifs at hother
  · exact h position other hother
  · have hlast := List.mem_of_getElem? hother
    rw [List.mem_singleton.mp hlast]
    exact ⟨hids, haddrs⟩

theorem WellKept.take (h : WellKept shards) (count : ℕ) : WellKept (shards.take count) := by
  intro position other hother
  rw [List.getElem?_take] at hother
  split_ifs at hother
  exact h position other hother

/-! ## The first loop -/

/-- Whether a node of the controller has the address of a wanted node. -/
def isWanted (wanted : List Kvrocks.Node) (node : Controller.Node) : Bool :=
  wanted.any fun kept ↦ simplyIp node.addr == kept.ip

theorem isWanted_iff {wanted : List Kvrocks.Node} {node : Controller.Node} :
    isWanted wanted node = true ↔ simplyIp node.addr ∈ wantedIps wanted := by
  unfold isWanted wantedIps
  rw [List.any_eq_true, List.mem_map]
  constructor
  · rintro ⟨kept, hkept, heq⟩
    exact ⟨kept, hkept, (eq_of_beq heq).symm⟩
  · rintro ⟨kept, hkept, heq⟩
    exact ⟨kept, hkept, beq_iff_eq.mpr heq.symm⟩

variable {fail : Store → Prop}

/-- The nodes of a shard that are not wanted are deleted one by one. -/
theorem deleteUnwanted_yields (client : Controller.Client) (wanted : List Kvrocks.Node) {index : ℕ}
    {shard : ShardData} {store : Store} (hshard : (store.shards client.clusterKey)[index]? = some shard)
    (hids : shard.Identified) :
    (forEach (fun node ↦ if isWanted wanted node then pure ()
        else Controller.deleteNode client index node.id) shard.nodes).Yields served fail
      (fun _ store' ↦ store'.shards client.clusterKey = (store.shards client.clusterKey).set index
        { shard with nodes := shard.nodes.filter (isWanted wanted) }) store := by
  have hindex : index < (store.shards client.clusterKey).length := (List.getElem?_eq_some_iff.mp hshard).1
  refine Fallible.Yields.imp (yields_forEach (fun front store' ↦ ∀ rest, shard.nodes = front ++ rest →
        store'.shards client.clusterKey = (store.shards client.clusterKey).set index
          { shard with nodes := front.filter (isWanted wanted) ++ rest }) ?_ ?_) ?_
  · intro rest hrest
    have hsame : (⟨[].filter (isWanted wanted) ++ rest, shard.slotRanges⟩ : ShardData) = shard := by
      rw [List.filter_nil, ← hrest]
    rw [hsame, set_of_getElem? hshard]
  · intro front node back store' hsplit hinv
    have hcurrent := hinv (node :: back) hsplit
    split_ifs with hwanted
    · refine ends_pure fun rest hrest ↦ ?_
      have hback : back = rest := by
        rw [hsplit, List.append_assoc, List.append_cancel_left_eq] at hrest
        exact List.tail_eq_of_cons_eq hrest
      rw [hcurrent, List.filter_append, List.filter_cons_of_pos hwanted, List.filter_nil, List.append_assoc, hback]
      rfl
    · have hfront : ∀ earlier ∈ front.filter (isWanted wanted), ¬ (earlier.id == node.id) = true := by
        intro earlier hearlier hsame
        have hnodup := hids
        unfold ShardData.Identified at hnodup
        rw [hsplit, List.map_append, List.nodup_append] at hnodup
        refine hnodup.2.2 earlier.id (List.mem_map_of_mem (List.mem_of_mem_filter hearlier))
          node.id (List.mem_map_of_mem List.mem_cons_self) (eq_of_beq hsame)
      have herase : (front.filter (isWanted wanted) ++ node :: back).eraseP (·.id == node.id) =
          front.filter (isWanted wanted) ++ back := by
        rw [List.eraseP_append_right _ hfront]
        simp
      have hget : (store'.shards client.clusterKey)[index]? =
          some { shard with nodes := front.filter (isWanted wanted) ++ node :: back } := by
        rw [hcurrent, List.getElem?_set_self hindex]
      have hmem : node ∈ front.filter (isWanted wanted) ++ node :: back := by simp
      refine (Controller.deleteNode_yields client hget hmem).imp fun _ final hfinal rest hrest ↦ ?_
      have hback : back = rest := by
        rw [hsplit, List.append_assoc, List.append_cancel_left_eq] at hrest
        exact List.tail_eq_of_cons_eq hrest
      rw [hfinal, hcurrent, List.set_set, herase, List.filter_append,
        List.filter_cons_of_neg hwanted, List.filter_nil, List.append_nil, hback]
  · intro _ store' hstore'
    have hfinal := hstore' [] (List.append_nil _).symm
    rwa [List.append_nil] at hfinal

theorem shardIps_filter_subset (wanted : List Kvrocks.Node) (shard : ShardData) :
    shardIps { shard with nodes := shard.nodes.filter (isWanted wanted) } ⊆ wantedIps wanted := by
  intro ip hip
  obtain ⟨node, hnode, rfl⟩ := List.mem_map.mp hip
  exact isWanted_iff.mp (List.mem_filter.mp hnode).2

variable {stsNodes : Matrix}

/-- One turn of the first loop. -/
theorem removeStaleNodes_yields (client : Controller.Client) (password : String) (hfree : ColonFree stsNodes)
    {index : ℕ} {nodes : List Kvrocks.Node} (hnodes : stsNodes[index]? = some nodes) {store : Store}
    (hkept : WellKept (store.shards client.clusterKey))
    (hfew : NoneTooMany stsNodes index (store.shards client.clusterKey)) :
    (removeStaleNodes client password (nodes, index)).Yields served fail (fun _ store' ↦
      WellKept (store'.shards client.clusterKey) ∧
        NoneTooMany stsNodes (index + 1) (store'.shards client.clusterKey)) store := by
  refine (Controller.getNodes_yields client index).bind fun result asked hresult ↦ ?_
  obtain ⟨rfl, rfl⟩ := hresult
  cases hshard : (store.shards client.clusterKey)[index]? with
  | none =>
    -- the shards so far end here, so the new one takes this index
    have hlength : (store.shards client.clusterKey).length = index :=
      le_antisymm (List.getElem?_eq_none_iff.mp hshard) hfew.1
    refine (Controller.createShard_yields client _ password).imp fun _ final hfinal ↦ ?_
    obtain ⟨shard, hids, haddrs, hshards⟩ := hfinal
    have hcolon : ∀ wanted ∈ nodes, ':' ∉ wanted.ip.toList := hfree nodes (List.mem_of_getElem? hnodes)
    have hall : ∀ node ∈ shard.nodes, ∃ wanted ∈ nodes, node.addr = nodeAddr wanted := by
      intro node hnode
      have hmem : node.addr ∈ nodes.map nodeAddr := by
        rw [← haddrs]
        exact List.mem_map_of_mem hnode
      obtain ⟨wanted, hwanted, heq⟩ := List.mem_map.mp hmem
      exact ⟨wanted, hwanted, heq.symm⟩
    rw [hshards]
    refine ⟨WellKept.append hkept hids fun node hnode ↦ ?_, ?_, ?_⟩
    · obtain ⟨wanted, hwanted, haddr⟩ := hall node hnode
      exact ⟨wanted.ip, hcolon wanted hwanted, _, haddr⟩
    · rw [List.length_append, List.length_singleton]
      change index + 1 ≤ (store.shards client.clusterKey).length + 1
      rw [hlength]
    · intro position other wanted hlt hother hwanted
      rw [List.getElem?_append] at hother
      split_ifs at hother with hposition
      · exact hfew.2 position other wanted (lt_of_lt_of_eq hposition hlength) hother hwanted
      · have hlast : position = index := by
          have hge : (store.shards client.clusterKey).length ≤ position := not_lt.mp hposition
          omega
        subst hlast
        rw [List.mem_singleton.mp (List.mem_of_getElem? hother)]
        cases hnodes.symm.trans hwanted
        intro ip hip
        obtain ⟨node, hnode, rfl⟩ := List.mem_map.mp hip
        obtain ⟨kept, hkept, haddr⟩ := hall node hnode
        rw [haddr, simplyIp_nodeAddr (hcolon kept hkept)]
        exact List.mem_map_of_mem hkept
  | some shard =>
    obtain ⟨hids, haddrs⟩ := hkept index shard hshard
    refine Fallible.Yields.imp (deleteUnwanted_yields client nodes hshard hids) fun _ final hfinal ↦ ?_
    rw [hfinal]
    refine ⟨WellKept.set hkept ?_ ?_, ?_, ?_⟩
    · exact hids.sublist (List.filter_sublist.map _)
    · exact fun node hnode ↦ haddrs node (List.mem_of_mem_filter hnode)
    · rw [List.length_set]
      exact (List.getElem?_eq_some_iff.mp hshard).1
    · intro position other wanted hlt hother hwanted
      rw [List.getElem?_set] at hother
      split_ifs at hother with hposition
      · cases hother
        subst hposition
        cases hnodes.symm.trans hwanted
        exact shardIps_filter_subset nodes shard
      · exact hfew.2 position other wanted (by omega) hother hwanted

/-! ## The second loop -/

/-- Whether the shard lacks the address of a wanted node. -/
def isMissing (shard : ShardData) (wanted : Kvrocks.Node) : Bool :=
  !shard.nodes.any fun node ↦ simplyIp node.addr == wanted.ip

theorem isMissing_eq_false_iff {shard : ShardData} {wanted : Kvrocks.Node} :
    isMissing shard wanted = false ↔ wanted.ip ∈ shardIps shard := by
  unfold isMissing shardIps
  rw [Bool.not_eq_false', List.any_eq_true, List.mem_map]
  constructor
  · rintro ⟨node, hnode, heq⟩
    exact ⟨node, hnode, eq_of_beq heq⟩
  · rintro ⟨node, hnode, heq⟩
    exact ⟨node, hnode, beq_iff_eq.mpr heq⟩

/-- The wanted nodes that a shard lacks are added one by one. -/
theorem addMissing_yields (client : Controller.Client) (password : String) (nodes : List Kvrocks.Node) {index : ℕ}
    {shard : ShardData} {store : Store} (hshard : (store.shards client.clusterKey)[index]? = some shard)
    (hids : shard.Identified) :
    (forEach (fun wanted ↦
        if shard.nodes.any fun node ↦ simplyIp node.addr == wanted.ip then pure ()
        else Controller.addNode client index (nodeAddr wanted) wanted.role password)
        nodes).Yields served fail
      (fun _ store' ↦ ∃ added : List Controller.Node,
        added.map (·.addr) = (nodes.filter (isMissing shard)).map nodeAddr ∧
        ((shard.nodes ++ added).map (·.id)).Nodup ∧
        store'.shards client.clusterKey = (store.shards client.clusterKey).set index
          { shard with nodes := shard.nodes ++ added }) store := by
  have hindex : index < (store.shards client.clusterKey).length := (List.getElem?_eq_some_iff.mp hshard).1
  refine yields_forEach (fun front (store' : Store) ↦ ∃ added : List Controller.Node,
    added.map (·.addr) = (front.filter (isMissing shard)).map nodeAddr ∧
    ((shard.nodes ++ added).map (·.id)).Nodup ∧
    store'.shards client.clusterKey = (store.shards client.clusterKey).set index
      { shard with nodes := shard.nodes ++ added }) ?_ ?_
  · refine ⟨[], rfl, by rwa [List.append_nil], ?_⟩
    rw [List.append_nil, set_of_getElem? hshard]
  · rintro front wanted back store' - ⟨added, haddrs, hnodup, hcurrent⟩
    by_cases hpresent : (shard.nodes.any fun node ↦ simplyIp node.addr == wanted.ip) = true
    · rw [if_pos hpresent]
      have hmissing : ¬ isMissing shard wanted = true := by
        unfold isMissing
        rw [hpresent]
        decide
      refine ends_pure ⟨added, ?_, hnodup, hcurrent⟩
      rw [haddrs, List.filter_append, List.filter_cons_of_neg hmissing, List.filter_nil, List.append_nil]
    · rw [if_neg hpresent]
      have hmissing : isMissing shard wanted = true := by
        unfold isMissing
        rw [Bool.eq_false_iff.mpr hpresent]
        rfl
      have hget : (store'.shards client.clusterKey)[index]? = some { shard with nodes := shard.nodes ++ added } := by
        rw [hcurrent, List.getElem?_set_self hindex]
      refine (Controller.addNode_yields client _ _ password hget).imp fun _ final hfinal ↦ ?_
      obtain ⟨id, hid, hshards⟩ := hfinal
      refine ⟨added ++ [⟨id, nodeAddr wanted, wanted.role⟩], ?_, ?_, ?_⟩
      · rw [List.map_append, haddrs, List.filter_append, List.filter_cons_of_pos hmissing,
          List.filter_nil, List.map_append]
        rfl
      · rw [← List.append_assoc, List.map_append]
        refine List.nodup_append.mpr ⟨hnodup, List.nodup_singleton _, ?_⟩
        intro first hfirst second hsecond hsame
        rw [hsame, List.mem_singleton.mp hsecond] at hfirst
        exact hid hfirst
      · rw [hshards, hcurrent, List.set_set, List.append_assoc]

/-- One turn of the second loop. -/
theorem addMissingNodes_yields (client : Controller.Client) (password : String) (hfree : ColonFree stsNodes)
    {index : ℕ} {nodes : List Kvrocks.Node} (hnodes : stsNodes[index]? = some nodes) {store : Store}
    (hkept : WellKept (store.shards client.clusterKey))
    (hfew : NoneTooMany stsNodes stsNodes.length (store.shards client.clusterKey))
    (hmany : NoneMissing stsNodes index (store.shards client.clusterKey)) :
    (addMissingNodes client password (nodes, index)).Yields served fail (fun _ store' ↦
      WellKept (store'.shards client.clusterKey) ∧
        NoneTooMany stsNodes stsNodes.length (store'.shards client.clusterKey) ∧
        NoneMissing stsNodes (index + 1) (store'.shards client.clusterKey)) store := by
  have hbound : index < stsNodes.length := (List.getElem?_eq_some_iff.mp hnodes).1
  have hcolon : ∀ wanted ∈ nodes, ':' ∉ wanted.ip.toList := hfree nodes (List.mem_of_getElem? hnodes)
  refine (Controller.getNodes_yields client index).bind fun result asked hresult ↦ ?_
  obtain ⟨rfl, rfl⟩ := hresult
  have hindex : index < (store.shards client.clusterKey).length := lt_of_lt_of_le hbound hfew.1
  obtain ⟨shard, hshard⟩ : ∃ shard, (store.shards client.clusterKey)[index]? = some shard :=
    ⟨_, List.getElem?_eq_getElem hindex⟩
  obtain ⟨hids, haddrs⟩ := hkept index shard hshard
  rw [hshard]
  refine Fallible.Yields.imp (addMissing_yields client password nodes hshard hids) fun _ final hfinal ↦ ?_
  obtain ⟨added, hadded, hnodup, hshards⟩ := hfinal
  have hall : ∀ node ∈ added, ∃ wanted ∈ nodes, node.addr = nodeAddr wanted := by
    intro node hnode
    have hmem : node.addr ∈ (nodes.filter (isMissing shard)).map nodeAddr := by
      rw [← hadded]
      exact List.mem_map_of_mem hnode
    obtain ⟨wanted, hwanted, heq⟩ := List.mem_map.mp hmem
    exact ⟨wanted, List.mem_of_mem_filter hwanted, heq.symm⟩
  rw [hshards]
  refine ⟨WellKept.set hkept hnodup fun node hnode ↦ ?_, ⟨?_, ?_⟩, ?_⟩
  · rcases List.mem_append.mp hnode with hold | hnew
    · exact haddrs node hold
    · obtain ⟨wanted, hwanted, haddr⟩ := hall node hnew
      exact ⟨wanted.ip, hcolon wanted hwanted, _, haddr⟩
  · rw [List.length_set]
    exact hfew.1
  · intro position other wanted hlt hother hwanted
    rw [List.getElem?_set] at hother
    split_ifs at hother with hposition
    · cases hother
      subst hposition
      cases hnodes.symm.trans hwanted
      intro ip hip
      obtain ⟨node, hnode, rfl⟩ := List.mem_map.mp hip
      rcases List.mem_append.mp hnode with hold | hnew
      · exact hfew.2 index shard nodes hbound hshard hnodes (List.mem_map.mpr ⟨node, hold, rfl⟩)
      · obtain ⟨kept, hkeep, haddr⟩ := hall node hnew
        rw [haddr, simplyIp_nodeAddr (hcolon kept hkeep)]
        exact List.mem_map_of_mem hkeep
    · exact hfew.2 position other wanted hlt hother hwanted
  · intro position other wanted hlt hother hwanted
    rw [List.getElem?_set] at hother
    split_ifs at hother with hposition
    · cases hother
      subst hposition
      cases hnodes.symm.trans hwanted
      intro ip hip
      obtain ⟨kept, hkeep, rfl⟩ := List.mem_map.mp hip
      cases hmissing : isMissing shard kept with
      | false =>
        obtain ⟨node, hnode, heq⟩ := List.mem_map.mp (isMissing_eq_false_iff.mp hmissing)
        exact List.mem_map.mpr ⟨node, List.mem_append_left added hnode, heq⟩
      | true =>
        have hmem : nodeAddr kept ∈ added.map (·.addr) := by
          rw [hadded]
          exact List.mem_map_of_mem (List.mem_filter.mpr ⟨hkeep, hmissing⟩)
        obtain ⟨node, hnode, haddr⟩ := List.mem_map.mp hmem
        refine List.mem_map.mpr ⟨node, List.mem_append_right shard.nodes hnode, ?_⟩
        rw [haddr, simplyIp_nodeAddr (hcolon kept hkeep)]
    · exact hmany position other wanted (by omega) hother hwanted

/-! ## The third loop -/

/-- Surplus shards are deleted from the back. -/
theorem deleteSurplus_yields (client : Controller.Client) (limit : ℕ) {store : Store}
    (hlimit : limit ≤ (store.shards client.clusterKey).length) :
    (forEach (fun index : ℕ ↦ Controller.deleteShard client index)
        (surplusShards (store.shards client.clusterKey).length limit)).Yields served fail
      (fun _ store' ↦ store'.shards client.clusterKey = (store.shards client.clusterKey).take limit) store := by
  have hlength : (surplusShards (store.shards client.clusterKey).length limit).length =
      (store.shards client.clusterKey).length - limit := by
    simp [surplusShards]
  refine Fallible.Yields.imp (ends_forEach_index (fun count store' ↦ store'.shards client.clusterKey =
      (store.shards client.clusterKey).take ((store.shards client.clusterKey).length - count))
    ?_ ?_) fun _ final hfinal ↦ ?_
  · rw [Nat.sub_zero, List.take_length]
  · intro count index hindex store' hcurrent
    have hcount : count < (store.shards client.clusterKey).length - limit := by
      rw [← hlength]
      exact (List.getElem?_eq_some_iff.mp hindex).1
    have hvalue : index = (store.shards client.clusterKey).length - (count + 1) := by
      unfold surplusShards at hindex
      rw [List.getElem?_reverse (by rw [List.length_drop, List.length_range]; exact hcount),
        List.getElem?_drop, List.length_drop, List.length_range,
        List.getElem?_range (by omega)] at hindex
      have hsum := Option.some.inj hindex
      omega
    have hrange : index < (store'.shards client.clusterKey).length := by
      rw [hcurrent, List.length_take]
      omega
    refine (Controller.deleteShard_yields client hrange).imp fun _ final hfinal ↦ ?_
    rw [hfinal, hcurrent, hvalue]
    have hsucc : (store.shards client.clusterKey).length - count =
        (store.shards client.clusterKey).length - (count + 1) + 1 := by omega
    rw [hsucc, List.eraseIdx_eq_take_drop_succ, List.take_take, List.drop_take]
    simp
  · rw [hfinal, hlength]
    congr 1
    omega

/-! ## The whole update -/

/-- One `updateCluster` leaves exactly the wanted nodes. -/
theorem updateCluster_yields (client : Controller.Client) (password : String) (hfree : ColonFree stsNodes)
    {store : Store} (hkept : WellKept (store.shards client.clusterKey)) :
    (updateCluster client password stsNodes).Yields served fail (fun _ store' ↦
      WellKept (store'.shards client.clusterKey) ∧ Converged stsNodes (store'.shards client.clusterKey)) store := by
  have hlength : stsNodes.zipIdx.length = stsNodes.length := List.length_zipIdx
  refine Fallible.Ends.bind (ends_forEach_index (fun count store' ↦
    WellKept (store'.shards client.clusterKey) ∧ NoneTooMany stsNodes count (store'.shards client.clusterKey)) ?_ ?_)
    fun _ afterFirst hfirst ↦ ?_
  · exact ⟨hkept, Nat.zero_le _, fun _ _ _ hlt ↦ absurd hlt (Nat.not_lt_zero _)⟩
  · rintro position ⟨nodes, index⟩ hentry store' ⟨hstore, hfew⟩
    obtain ⟨hnodes, rfl⟩ := getElem?_of_zipIdx hentry
    exact removeStaleNodes_yields client password hfree hnodes hstore hfew
  rw [hlength] at hfirst
  refine Fallible.Ends.bind (ends_forEach_index (fun count store' ↦ WellKept (store'.shards client.clusterKey) ∧
      NoneTooMany stsNodes stsNodes.length (store'.shards client.clusterKey) ∧
      NoneMissing stsNodes count (store'.shards client.clusterKey)) ?_ ?_)
    fun _ afterSecond hsecond ↦ ?_
  · exact ⟨hfirst.1, hfirst.2, fun _ _ _ hlt ↦ absurd hlt (Nat.not_lt_zero _)⟩
  · rintro position ⟨nodes, index⟩ hentry store' ⟨hstore, hfew, hmany⟩
    obtain ⟨hnodes, rfl⟩ := getElem?_of_zipIdx hentry
    exact addMissingNodes_yields client password hfree hnodes hstore hfew hmany
  rw [hlength] at hsecond
  obtain ⟨hwell, hfew, hmany⟩ := hsecond
  refine (Controller.getShards_yields client).bind fun result asked hresult ↦ ?_
  obtain ⟨rfl, rfl⟩ := hresult
  have hasked : stsNodes.length ≤ ((afterSecond.asked client.endPoint
      (.getShards client.ns client.clusterName)).shards client.clusterKey).length := hfew.1
  refine Fallible.Yields.imp (deleteSurplus_yields client stsNodes.length hasked) fun _ final hfinal ↦ ?_
  rw [hfinal]
  refine ⟨hwell.take _, ?_, fun index shard nodes hshard hnodes ip ↦ ?_⟩
  · rw [List.length_take]
    exact min_eq_left hfew.1
  · have hbound : index < stsNodes.length := (List.getElem?_eq_some_iff.mp hnodes).1
    have hget : (afterSecond.shards client.clusterKey)[index]? = some shard := by
      rw [List.getElem?_take, if_pos hbound] at hshard
      exact hshard
    rw [← mem_shardIps_iff (hwell index shard hget).2]
    exact ⟨fun hip ↦ hfew.2 index shard nodes hbound hget hnodes hip,
      fun hip ↦ hmany index shard nodes hbound hget hnodes hip⟩

/-! ## A second update -/

/-- Nothing has been created, added or deleted since. -/
def Unchanged (store store' : Store) : Prop := store'.shards = store.shards ∧ store'.mutations = store.mutations

theorem unchanged_asked {store store' : Store} (h : Unchanged store store') (endPoint : String) {request : Request}
    (hrequest : Request.mutates request = false) : Unchanged store (store'.asked endPoint request) := by
  refine ⟨h.1, ?_⟩
  rw [← h.2]
  unfold Store.mutations Store.asked
  rw [List.filter_cons_of_neg (by rw [hrequest]; decide)]

/-- The two sides of convergence for one shard. -/
theorem Converged.shardIps_eq (hconverged : Converged stsNodes shards) (hkept : WellKept shards) {index : ℕ}
    {shard : ShardData} {nodes : List Kvrocks.Node} (hshard : shards[index]? = some shard)
    (hnodes : stsNodes[index]? = some nodes) (ip : String) : ip ∈ shardIps shard ↔ ip ∈ wantedIps nodes := by
  rw [mem_shardIps_iff (hkept index shard hshard).2]
  exact hconverged.2 index shard nodes hshard hnodes ip

/-- On shards that are the wanted ones `updateCluster` only reads. -/
theorem updateCluster_unchanged (client : Controller.Client) (password : String) {store : Store}
    (hkept : WellKept (store.shards client.clusterKey))
    (hconverged : Converged stsNodes (store.shards client.clusterKey)) :
    (updateCluster client password stsNodes).Yields served fail (fun _ store' ↦ Unchanged store store') store := by
  have hread (store' : Store) (hstore' : Unchanged store store') {index : ℕ}
      {nodes : List Kvrocks.Node} (hnodes : stsNodes[index]? = some nodes) :
      (Controller.getNodes client index).Yields served fail (fun result final ↦
        Unchanged store final ∧ ∃ shard, result = some shard ∧
          (store.shards client.clusterKey)[index]? = some shard) store' := by
    have hbound : index < (store.shards client.clusterKey).length := by
      rw [hconverged.1]
      exact (List.getElem?_eq_some_iff.mp hnodes).1
    refine (Controller.getNodes_yields client index).imp fun result final hfinal ↦ ?_
    obtain ⟨rfl, rfl⟩ := hfinal
    refine ⟨unchanged_asked hstore' _ rfl, _, ?_, List.getElem?_eq_getElem hbound⟩
    rw [hstore'.1, List.getElem?_eq_getElem hbound]
  refine Fallible.Ends.bind (ends_forEach_const (Unchanged store) ⟨rfl, rfl⟩
    fun entry hentry store' hstore' ↦ ?_) fun _ afterFirst hfirst ↦ ?_
  · obtain ⟨position, hposition⟩ := List.mem_iff_getElem?.mp hentry
    obtain ⟨nodes, index⟩ := entry
    obtain ⟨hnodes, rfl⟩ := getElem?_of_zipIdx hposition
    refine (hread store' hstore' hnodes).bind fun result final hfinal ↦ ?_
    obtain ⟨hunchanged, shard, rfl, hshard⟩ := hfinal
    have hquiet : ∀ node ∈ shard.nodes, isWanted nodes node = true := by
      intro node hnode
      rw [isWanted_iff, ← hconverged.shardIps_eq hkept hshard hnodes]
      exact List.mem_map.mpr ⟨node, hnode, rfl⟩
    have hloop : (forEach (fun node ↦ if isWanted nodes node then pure ()
        else Controller.deleteNode client index node.id) shard.nodes : Go Unit) = pure () :=
      Fallible.forEach_eq_pure fun node hnode ↦ if_pos (hquiet node hnode)
    change (forEach (fun node ↦ if isWanted nodes node then pure ()
      else Controller.deleteNode client index node.id) shard.nodes : Go Unit).Yields _ _ _ _
    rw [hloop]
    exact ends_pure hunchanged
  refine Fallible.Ends.bind (ends_forEach_const (Unchanged store) hfirst
    fun entry hentry store' hstore' ↦ ?_) fun _ afterSecond hsecond ↦ ?_
  · obtain ⟨position, hposition⟩ := List.mem_iff_getElem?.mp hentry
    obtain ⟨nodes, index⟩ := entry
    obtain ⟨hnodes, rfl⟩ := getElem?_of_zipIdx hposition
    refine (hread store' hstore' hnodes).bind fun result final hfinal ↦ ?_
    obtain ⟨hunchanged, shard, rfl, hshard⟩ := hfinal
    have hquiet : ∀ wanted ∈ nodes, (shard.nodes.any fun node ↦ simplyIp node.addr == wanted.ip) = true := by
      intro wanted hwanted
      have hip : wanted.ip ∈ shardIps shard := by
        rw [hconverged.shardIps_eq hkept hshard hnodes]
        exact List.mem_map_of_mem hwanted
      have hfound := isMissing_eq_false_iff.mpr hip
      unfold isMissing at hfound
      rwa [Bool.not_eq_false'] at hfound
    have hloop : (forEach (fun wanted ↦
        if shard.nodes.any fun node ↦ simplyIp node.addr == wanted.ip then pure ()
        else Controller.addNode client index (nodeAddr wanted) wanted.role password)
        nodes : Go Unit) = pure () :=
      Fallible.forEach_eq_pure fun wanted hwanted ↦ if_pos (hquiet wanted hwanted)
    change (forEach _ nodes : Go Unit).Yields _ _ _ _
    rw [hloop]
    exact ends_pure hunchanged
  refine (Controller.getShards_yields client).bind fun result asked hresult ↦ ?_
  obtain ⟨rfl, rfl⟩ := hresult
  have hnone : surplusShards (afterSecond.shards client.clusterKey).length stsNodes.length = [] := by
    rw [hsecond.1, hconverged.1]
    simp [surplusShards]
  rw [hnone]
  exact ends_pure (unchanged_asked hsecond _ rfl)

/-- From any shards that a controller can keep, `updateCluster` returns no error and leaves as many shards as the
wanted matrix has, each with exactly the wanted addresses; a second `updateCluster` then creates, adds and deletes
nothing.  There is always an execution. -/
theorem updateCluster_converges (client : Controller.Client) (password : String)
    (stsNodes : Matrix) (hfree : ColonFree stsNodes) (store : Store)
    (hkept : WellKept (store.shards client.clusterKey)) :
    (∃ outcome final, Exec answers (updateCluster client password stsNodes).program store outcome final) ∧
    (updateCluster client password stsNodes).Yields served (fun _ ↦ False)
      (fun _ final ↦ Converged stsNodes (final.shards client.clusterKey) ∧
        (updateCluster client password stsNodes).Yields served (fun _ ↦ False)
          (fun _ again ↦ Unchanged final again) final) store := by
  constructor
  · exact exists_exec answers_total _ store
  · refine (updateCluster_yields client password hfree hkept).imp fun _ final hfinal ↦ ?_
    exact ⟨hfinal.2, updateCluster_unchanged client password hfinal.1 hfinal.2⟩

/-- A stale node and a surplus shard are removed, and the pod is added. -/
theorem updateCluster_converges_from_stale :
    (updateCluster newClient "secret" [[Kvrocks.Node.fresh "10.0.0.1" 0]]).Yields served (fun _ ↦ False)
      (fun _ final ↦ Converged [[Kvrocks.Node.fresh "10.0.0.1" 0]] (final.shards newClient.clusterKey))
      ⟨fun _ ↦ [⟨[⟨"a", "10.0.0.9:6379", .master⟩], []⟩, ⟨[], []⟩], []⟩ := by
  refine (updateCluster_converges newClient "secret" [[Kvrocks.Node.fresh "10.0.0.1" 0]] ?_ _ ?_).2.imp
    fun _ _ hfinal ↦ hfinal.1
  · unfold ColonFree
    decide
  · intro index shard hshard
    match index with
    | 0 =>
      cases hshard
      refine ⟨List.nodup_singleton _, fun node hnode ↦ ?_⟩
      rw [List.mem_singleton.mp hnode]
      exact ⟨"10.0.0.9", by decide, "6379", by decide⟩
    | 1 =>
      cases hshard
      exact ⟨List.nodup_nil, fun node hnode ↦ by cases hnode⟩
    | index + 2 => cases hshard

end KvrocksOperator.Cluster
