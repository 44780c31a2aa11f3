import Mathlib.Data.List.Induction
import KvrocksOperator.Cluster.Rules
import KvrocksOperator.Cluster.Topology
import KvrocksOperator.Controllers.Footprint
import KvrocksOperator.Controllers.Writers
import KvrocksOperator.Events.Failover

/-!
# The records after a failover

After the controller has moved the master of a shard, `handleFailover` goes over the records of the partition and, for
each of them, over the nodes of the controller.  It sets the mark of a record by its address and its role by its node
id, and both loops write the mark: a record that the controller knows loses a mark that is pending for another
message.  The master id of a record is only written for a slave, so a promoted slave keeps its old one.
-/

namespace KvrocksOperator.Events.Records

open Interaction

/-! ## One record -/

section Record

variable {ip masterID : String} {nodes : List Controller.Node} {topo : KVRocksTopology}

/-- The turn of one node in the loop over a record. -/
def turn (ip masterID : String) (topo current : KVRocksTopology) (node : Controller.Node) : KVRocksTopology :=
  let current :=
    if topo.nodeId = node.id then
      { current with
        failover := false
        role := node.role
        masterId := if node.role = .slave then masterID else current.masterId }
    else current
  if topo.ip = ip then { current with failover := true } else current

/-- The loop over more nodes at its end. -/
theorem failoverRecord_concat (node : Controller.Node) : failoverRecord ip masterID (nodes ++ [node]) topo =
      turn ip masterID topo (failoverRecord ip masterID nodes topo) node := by
  rw [failoverRecord, List.foldl_concat]
  rfl

/-- The nodes of the controller that a record belongs to. -/
def matching (nodes : List Controller.Node) (topo : KVRocksTopology) : List Controller.Node :=
  nodes.filter fun node ↦ decide (topo.nodeId = node.id)

theorem mem_matching {node : Controller.Node} : node ∈ matching nodes topo ↔ node ∈ nodes ∧ node.id = topo.nodeId := by
  rw [matching, List.mem_filter, decide_eq_true_eq, eq_comm (a := topo.nodeId)]

theorem matching_concat (node : Controller.Node) : matching (nodes ++ [node]) topo =
      if topo.nodeId = node.id then matching nodes topo ++ [node] else matching nodes topo := by
  rw [matching, List.filter_append]
  by_cases hid : topo.nodeId = node.id <;> simp [hid, matching]

/-- The role of the last matching node wins. -/
theorem failoverRecord_role :
    (failoverRecord ip masterID nodes topo).role = (((matching nodes topo).getLast?).map (·.role)).getD topo.role := by
  induction nodes using List.reverseRecOn with
  | nil => rfl
  | append_singleton nodes node ih =>
    rw [failoverRecord_concat, matching_concat]
    by_cases hid : topo.nodeId = node.id
    · by_cases hip : topo.ip = ip <;> simp [turn, hid, hip]
    · by_cases hip : topo.ip = ip <;> simp [turn, hid, hip, ih]

/-- The master id is written for a slave only. -/
theorem failoverRecord_masterId : (failoverRecord ip masterID nodes topo).masterId =
      if ∃ node ∈ matching nodes topo, node.role = .slave then masterID else topo.masterId := by
  induction nodes using List.reverseRecOn with
  | nil => simp [matching, failoverRecord]
  | append_singleton nodes node ih =>
    rw [failoverRecord_concat, matching_concat]
    by_cases hid : topo.nodeId = node.id
    · by_cases hrole : node.role = .slave
      · by_cases hip : topo.ip = ip <;> simp [turn, hid, hip, hrole, or_and_right, exists_or]
      · by_cases hip : topo.ip = ip <;> simp [turn, hid, hip, hrole, ih, or_and_right, exists_or]
    · by_cases hip : topo.ip = ip <;> simp [turn, hid, hip, ih]

/-- The record of the failed address is marked, and the marks of records that the controller knows are taken away. -/
theorem failoverRecord_failover (hne : nodes ≠ []) : (failoverRecord ip masterID nodes topo).failover =
      if topo.ip = ip then true else if matching nodes topo = [] then topo.failover else false := by
  by_cases hip : topo.ip = ip
  · rw [if_pos hip, ← List.dropLast_append_getLast hne, failoverRecord_concat]
    simp [turn, hip]
  · rw [if_neg hip]
    clear hne
    induction nodes using List.reverseRecOn with
    | nil => rfl
    | append_singleton nodes node ih =>
      rw [failoverRecord_concat, matching_concat]
      by_cases hid : topo.nodeId = node.id <;> simp [turn, hid, hip, ih]

end Record

/-- What the message and the controller's nodes say of a record. -/
structure Updated (ip : String) (nodes : List Controller.Node) (before after : KVRocksTopology) : Prop where
  role : ∀ node ∈ nodes, node.id = before.nodeId → after.role = node.role
  slave : ∀ node ∈ nodes, node.id = before.nodeId → node.role = .slave →
    ∀ master ∈ nodes, master.role = .master → after.masterId = master.id
  master : ∀ node ∈ nodes, node.id = before.nodeId → node.role = .master → after.masterId = ""
  failed : before.ip = ip → after.failover = true
  others : before.ip ≠ ip → after.failover = before.failover

/-- The records for which the two loops do what they should: the controller has one role for the node, a master had no
master before, and no other message is pending for a node that the controller knows. -/
structure Suitable (ip : String) (nodes : List Controller.Node) (topo : KVRocksTopology) : Prop where
  role : ∀ node ∈ nodes, ∀ other ∈ nodes, node.id = topo.nodeId → other.id = topo.nodeId → node.role = other.role
  master : ∀ node ∈ nodes, node.id = topo.nodeId → node.role = .master → topo.masterId = ""
  pending : topo.ip ≠ ip → topo.failover = true → ∀ node ∈ nodes, node.id ≠ topo.nodeId

instance (ip : String) (nodes : List Controller.Node) (topo : KVRocksTopology) : Decidable (Suitable ip nodes topo) :=
  decidable_of_iff ((∀ node ∈ nodes, ∀ other ∈ nodes, node.id = topo.nodeId → other.id = topo.nodeId →
      node.role = other.role) ∧
      (∀ node ∈ nodes, node.id = topo.nodeId → node.role = .master → topo.masterId = "") ∧
      (topo.ip ≠ ip → topo.failover = true → ∀ node ∈ nodes, node.id ≠ topo.nodeId))
    ⟨fun h ↦ ⟨h.1, h.2.1, h.2.2⟩, fun h ↦ ⟨h.role, h.master, h.pending⟩⟩

/-- The controller's shard has one master. -/
def OneMaster (nodes : List Controller.Node) : Prop := (nodes.filter fun node ↦ decide (node.role = .master)).length = 1

instance (nodes : List Controller.Node) : Decidable (OneMaster nodes) := inferInstanceAs (Decidable (_ = _))

theorem OneMaster.newMasterID {nodes : List Controller.Node} (h : OneMaster nodes) {master : Controller.Node}
    (hmem : master ∈ nodes) (hrole : master.role = .master) : newMasterID nodes = master.id := by
  obtain ⟨only, honly⟩ := List.length_eq_one_iff.mp h
  have hmaster : master = only := by
    have hfilter : master ∈ nodes.filter fun node ↦ decide (node.role = .master) :=
      List.mem_filter.mpr ⟨hmem, decide_eq_true hrole⟩
    rwa [honly, List.mem_singleton] at hfilter
  have hfind : nodes.find? (·.role == .master) = some only := by
    rw [← List.head?_filter]
    exact congrArg List.head? honly
  rw [Events.newMasterID, hfind, hmaster]

theorem updated_iff_suitable {ip : String} {nodes : List Controller.Node} (hone : OneMaster nodes)
    (topo : KVRocksTopology) :
    Updated ip nodes topo (failoverRecord ip (newMasterID nodes) nodes topo) ↔ Suitable ip nodes topo := by
  have hne : nodes ≠ [] := by
    rintro rfl
    cases hone
  have hmark : (failoverRecord ip (newMasterID nodes) nodes topo).failover = _ := failoverRecord_failover hne
  have hmaster : (failoverRecord ip (newMasterID nodes) nodes topo).masterId = _ := failoverRecord_masterId
  constructor
  · intro h
    have hrole (node : Controller.Node) (hnode : node ∈ nodes) (other : Controller.Node) (hother : other ∈ nodes)
        (hid : node.id = topo.nodeId) (hid' : other.id = topo.nodeId) : node.role = other.role :=
      (h.role node hnode hid).symm.trans (h.role other hother hid')
    refine ⟨hrole, fun node hnode hid hmasterRole ↦ ?_, fun hip hpending node hnode hid ↦ ?_⟩
    · have hkept := h.master node hnode hid hmasterRole
      rw [hmaster, if_neg] at hkept
      · exact hkept
      · rintro ⟨slave, hslave, hslaveRole⟩
        obtain ⟨hmem, hslaveId⟩ := mem_matching.mp hslave
        have hsame := hrole node hnode slave hmem hid hslaveId
        rw [hmasterRole, hslaveRole] at hsame
        cases hsame
    · have hkept := h.others hip
      have hfound : matching nodes topo ≠ [] := List.ne_nil_of_mem (mem_matching.mpr ⟨hnode, hid⟩)
      rw [hmark, if_neg hip, if_neg hfound, hpending] at hkept
      cases hkept
  · intro h
    refine ⟨fun node hnode hid ↦ ?_, fun node hnode hid hslave master hmem hrole ↦ ?_,
      fun node hnode hid hrole ↦ ?_, fun hip ↦ ?_, fun hip ↦ ?_⟩
    · have hfound : matching nodes topo ≠ [] := List.ne_nil_of_mem (mem_matching.mpr ⟨hnode, hid⟩)
      obtain ⟨hlast, hlastId⟩ := mem_matching.mp (List.getLast_mem hfound)
      rw [failoverRecord_role, List.getLast?_eq_getLast_of_ne_nil hfound]
      exact h.role _ hlast node hnode hlastId hid
    · rw [hmaster, if_pos ⟨node, mem_matching.mpr ⟨hnode, hid⟩, hslave⟩]
      exact hone.newMasterID hmem hrole
    · rw [hmaster, if_neg]
      · exact h.master node hnode hid hrole
      · rintro ⟨slave, hslave, hslaveRole⟩
        obtain ⟨hmem, hslaveId⟩ := mem_matching.mp hslave
        have hsame := h.role node hnode slave hmem hid hslaveId
        rw [hrole, hslaveRole] at hsame
        cases hsame
    · rw [hmark, if_pos hip]
    · rw [hmark, if_neg hip]
      split_ifs with hfound
      · rfl
      · obtain ⟨node, hnode⟩ := List.exists_mem_of_ne_nil _ hfound
        obtain ⟨hmem, hid⟩ := mem_matching.mp hnode
        cases hpending : topo.failover with
        | false => rfl
        | true => exact absurd hid (h.pending hip hpending node hmem)

/-! ## A message -/

/-- The answers to a message: the instance and the controller's nodes are as given, and every object that is written
is kept. -/
def Answers (msg : EventMessage) (instance_ : KVRocks) (nodes : List Controller.Node) :
    Program.Answers operator (List KVRocks)
  | .getKVRocks key, before, reply, after =>
    after = before ∧ (key = msg.key → ∀ object, reply = .ok object → object = instance_)
  | .http _ (.getNodes _ _ shardIndex), before, reply, after =>
    after = before ∧ ∀ response shard, shardIndex = msg.partition → reply = .ok response →
      response.body = .ok (some shard) → shard.nodes = nodes
  | .updateKVRocks object, before, reply, after =>
    after = before ++ [object] ∨ after = before ∧ ∃ error, reply = .error error
  | _, before, _, after => after = before

/-- The partition of the message has its new records, and the other partitions are as they were. -/
structure Stored (msg : EventMessage) (nodes : List Controller.Node) (before after : KVRocks) : Prop where
  records : List.Forall₂ (Updated msg.ip nodes) (Cluster.recordsAt before.status.topo msg.partition.toNat)
    (Cluster.recordsAt after.status.topo msg.partition.toNat)
  others : ∀ index, index ≠ msg.partition.toNat → after.status.topo[index]? = before.status.topo[index]?

theorem stored_iff {msg : EventMessage} {nodes : List Controller.Node} (hone : OneMaster nodes) (instance_ : KVRocks) :
    Stored msg nodes instance_ (updateTopology msg (newMasterID nodes) nodes instance_) ↔
      ∀ topo ∈ Cluster.recordsAt instance_.status.topo msg.partition.toNat, Suitable msg.ip nodes topo := by
  have hrecords : Cluster.recordsAt (updateTopology msg (newMasterID nodes) nodes instance_).status.topo
      msg.partition.toNat = (Cluster.recordsAt instance_.status.topo msg.partition.toNat).map
        (failoverRecord msg.ip (newMasterID nodes) nodes) := by
    unfold Cluster.recordsAt updateTopology
    rw [List.getElem?_modify_eq]
    cases instance_.status.topo[msg.partition.toNat]? <;> rfl
  have hothers (index : ℕ) (hne : index ≠ msg.partition.toNat) :
      (updateTopology msg (newMasterID nodes) nodes instance_).status.topo[index]? = instance_.status.topo[index]? := by
    simp [updateTopology, hne.symm]
  have hall : List.Forall₂ (Updated msg.ip nodes) (Cluster.recordsAt instance_.status.topo msg.partition.toNat)
      ((Cluster.recordsAt instance_.status.topo msg.partition.toNat).map
        (failoverRecord msg.ip (newMasterID nodes) nodes)) ↔
      ∀ topo ∈ Cluster.recordsAt instance_.status.topo msg.partition.toNat, Suitable msg.ip nodes topo := by
    rw [List.forall₂_map_right_iff, List.forall₂_same]
    exact forall₂_congr fun topo _ ↦ updated_iff_suitable hone topo
  rw [← hall, ← hrecords]
  exact ⟨fun h ↦ h.records, fun h ↦ ⟨h, hothers⟩⟩

section Run

variable {msg : EventMessage} {instance_ : KVRocks} {nodes : List Controller.Node} {written : List KVRocks}
  {client : Controller.Client}

/-- Every object that has been written and is not marked as failed is the one of `updateTopology`. -/
def Recorded (msg : EventMessage) (instance_ : KVRocks) (nodes : List Controller.Node) (written : List KVRocks) :
    Prop :=
  ∀ object ∈ written, object.status.status ≠ .failed → object = updateTopology msg (newMasterID nodes) nodes instance_

theorem Recorded.concat (h : Recorded msg instance_ nodes written) {object : KVRocks}
    (hobject : object.status.status ≠ .failed → object = updateTopology msg (newMasterID nodes) nodes instance_) :
    Recorded msg instance_ nodes (written ++ [object]) := by
  intro other hother
  rcases List.mem_append.mp hother with hbefore | hlast
  · exact h other hbefore
  · exact List.mem_singleton.mp hlast ▸ hobject

theorem answers_eq {request : Call} (hkind : request.kind ≠ .updateKVRocks) {before after : List KVRocks}
    {reply : request.Reply} (h : Answers msg instance_ nodes request before reply after) : after = before := by
  cases request with
  | updateKVRocks object => exact absurd rfl hkind
  | getKVRocks key => exact h.1
  | http endPoint request =>
    cases request with
    | getNodes ns cluster shardIndex => exact h.1
    | _ => exact h
  | _ => exact h

/-- A function that writes no instance. -/
theorem quiet_yields {α : Type} {kinds : List CallKind} {function : Go α} (hmakes : Makes kinds function)
    (hkinds : .updateKVRocks ∉ kinds) (h : Recorded msg instance_ nodes written) :
    function.Yields (.sequential (Answers msg instance_ nodes)) (Recorded msg instance_ nodes)
      (fun _ ↦ Recorded msg instance_ nodes) written := by
  apply Fallible.Returns.keeps hmakes _ written h
  intro request hkind before reply after hanswer hbefore
  rw [answers_eq (fun heq ↦ hkinds (heq ▸ hkind)) hanswer]
  exact hbefore

theorem update_yields {object : KVRocks} (h : Recorded msg instance_ nodes written)
    (hobject : object.status.status ≠ .failed → object = updateTopology msg (newMasterID nodes) nodes instance_) :
    (K8s.updateKVRocks object).Yields (.sequential (Answers msg instance_ nodes)) (Recorded msg instance_ nodes)
      (fun _ ↦ Recorded msg instance_ nodes) written := by
  apply Cluster.updateKVRocks_yields
  intro reply after hanswer
  have hafter : Recorded msg instance_ nodes after := by
    rcases hanswer with rfl | ⟨rfl, -⟩
    · exact h.concat hobject
    · exact h
  cases reply <;> exact hafter

theorem getNodes_yields (h : Recorded msg instance_ nodes written) :
    (Controller.getNodes client msg.partition).Yields (.sequential (Answers msg instance_ nodes))
      (Recorded msg instance_ nodes)
      (fun found final ↦ Recorded msg instance_ nodes final ∧ ∀ shard, found = some shard → shard.nodes = nodes)
      written := by
  have hsend : (Controller.send client (.getNodes client.ns client.clusterName msg.partition)).Yields
      (.sequential (Answers msg instance_ nodes)) (Recorded msg instance_ nodes)
      (fun response final ↦ Recorded msg instance_ nodes final ∧
        ∀ shard, response.body = .ok (some shard) → shard.nodes = nodes) written := by
    apply ends_attempt
    rintro reply after ⟨rfl, hnodes⟩
    cases reply with
    | error error => exact h
    | ok response => exact ⟨h, fun shard hbody ↦ hnodes response shard rfl rfl hbody⟩
  apply hsend.bind
  rintro response reached ⟨hreached, hnodes⟩
  split
  · exact ends_pure ⟨hreached, nofun⟩
  · cases hbody : response.body with
    | error error => exact ends_throw error hreached
    | ok body =>
      cases body with
      | none => exact ends_throw _ hreached
      | some shard =>
        refine ends_pure ⟨hreached, fun found hfound ↦ ?_⟩
        exact Option.some.inj hfound ▸ hnodes shard hbody

theorem storeFailover_yields (h : Recorded msg instance_ nodes written) :
    (storeFailover client msg instance_).Yields (.sequential (Answers msg instance_ nodes))
      (Recorded msg instance_ nodes) (fun _ ↦ Recorded msg instance_ nodes) written := by
  apply (getNodes_yields h).bind
  rintro found reached ⟨hreached, hnodes⟩
  cases found with
  | none => exact ends_panic hreached
  | some shard =>
    obtain rfl := hnodes shard rfl
    apply (update_yields hreached ?_).bind
    · exact fun _ _ hfinal ↦ ends_pure hfinal
    · split
      · exact fun hstatus ↦ absurd rfl hstatus
      · exact fun _ ↦ rfl

theorem recordFailover_yields (h : Recorded msg instance_ nodes written) :
    (recordFailover client msg instance_).Yields (.sequential (Answers msg instance_ nodes))
      (Recorded msg instance_ nodes) (fun _ ↦ Recorded msg instance_ nodes) written := by
  apply (quiet_yields (makes_ofOption _ : Makes [] _) (by decide) h).bind
  intro partition reached hreached
  split
  · apply (quiet_yields (Common.removeMonitorNamed_makes instance_ _) (by decide) hreached).bind
    intro _ removed hremoved
    exact storeFailover_yields hremoved
  · exact storeFailover_yields hreached

theorem failoverBody_yields (h : Recorded msg instance_ nodes written) :
    (failoverBody client msg).Yields (.sequential (Answers msg instance_ nodes))
      (Recorded msg instance_ nodes) (fun _ ↦ Recorded msg instance_ nodes) written := by
  have hread : (K8s.getKVRocks msg.key).handle.Yields (.sequential (Answers msg instance_ nodes))
      (Recorded msg instance_ nodes)
      (fun result final ↦ Recorded msg instance_ nodes final ∧ ∀ found, result = .ok found → found = instance_)
      written := by
    apply yields_handle
    apply ends_attempt
    rintro reply after ⟨rfl, hfound⟩
    cases reply with
    | error error => exact ⟨fun _ ↦ ⟨h, nofun⟩, h⟩
    | ok found => exact ⟨h, fun _ heq ↦ hfound rfl _ (congrArg Except.ok (Except.ok.inj heq))⟩
  apply hread.bind
  rintro result reached ⟨hreached, hfound⟩
  cases result with
  | error error => exact ends_pure hreached
  | ok found =>
    obtain rfl := hfound found rfl
    change (if _ then pure () else _ : Go Unit).Yields _ _ _ _
    split
    · exact ends_pure hreached
    split
    · exact ends_pure hreached
    apply (quiet_yields (Controller.setEndPoint_makes client found.ns) (by decide) hreached).bind
    intro client set hset
    have hfailover : Makes [.http] (Controller.failoverShard client msg.partition).handle :=
      (Controller.sendExpecting_makes _ _ _).handle
    apply (quiet_yields hfailover (by decide) hset).bind
    intro answer asked hasked
    cases answer with
    | error error =>
      exact (update_yields hasked fun hstatus ↦ absurd rfl hstatus).bind fun _ _ hfinal ↦ ends_pure hfinal
    | ok _ => exact recordFailover_yields hasked

theorem handleFailover_recorded {outcome : Outcome GoError Unit}
    (hexec : Exec (Answers msg instance_ nodes) (handleFailover client msg).program [] outcome written) :
    Recorded msg instance_ nodes written := by
  have hempty : Recorded msg instance_ nodes [] := by simp [Recorded]
  have hensures : (handleFailover client msg).program.Ensures (Answers msg instance_ nodes)
      (fun _ ↦ Recorded msg instance_ nodes) [] := by
    rintro ⟨⟩ locked rfl
    change ((failoverBody client msg).program.bind (settle msg)).Ensures _ _ []
    rw [Program.ensures_bind]
    apply Program.Ensures.mono (failoverBody_yields hempty)
    intro outcome reached hends
    have hreached : Recorded msg instance_ nodes reached := by
      cases outcome <;> exact hends
    have hkeep (request : Call) (hkind : OfKind queueKinds request) (before : List KVRocks) (reply : request.Reply)
        (after : List KVRocks) (hanswer : Answers msg instance_ nodes request before reply after)
        (hbefore : Recorded msg instance_ nodes before) : Recorded msg instance_ nodes after := by
      rw [answers_eq (fun heq ↦ absurd (heq ▸ hkind : CallKind.updateKVRocks ∈ queueKinds) (by decide)) hanswer]
      exact hbefore
    exact ((settle_all msg outcome).keeps hkeep hreached).mono fun _ _ hfinal ↦ hfinal.2
  exact (ensures_iff_exec _ _ _).mp hensures outcome written hexec

end Run

/-- For every message, instance and shard of the controller: the object that `handleFailover` writes at its end is
right exactly if every record of the partition is suitable. -/
theorem handleFailover_stored_iff (client : Controller.Client) (msg : EventMessage) (instance_ : KVRocks)
    (nodes : List Controller.Node) (hone : OneMaster nodes) (outcome : Outcome GoError Unit)
    (written : List KVRocks)
    (hexec : Exec (Answers msg instance_ nodes) (handleFailover client msg).program [] outcome written)
    (object : KVRocks) (hobject : object ∈ written) (hstatus : object.status.status ≠ .failed) :
    Stored msg nodes instance_ object ↔
      ∀ topo ∈ Cluster.recordsAt instance_.status.topo msg.partition.toNat, Suitable msg.ip nodes topo := by
  rw [handleFailover_recorded hexec object hobject hstatus]
  exact stored_iff hone instance_

/-! ## The master of a shard fails -/

/-- All calls succeed. -/
def serve (instance_ : KVRocks) (nodes : List Controller.Node) :
    (request : Call) → List KVRocks → request.Reply × List KVRocks
  | .getKVRocks _, written => (.ok instance_, written)
  | .getService _, written => (.ok "10.96.0.1", written)
  | .http _ (.failoverShard _ _ _), written => (.ok ⟨statusOK, .ok ()⟩, written)
  | .http _ (.getNodes _ _ _), written => (.ok ⟨statusOK, .ok (some { nodes := nodes, slotRanges := [] })⟩, written)
  | .updateKVRocks object, written => (.ok 1, written ++ [object])
  | request, written => (request.failure, written)

theorem serve_answers (msg : EventMessage) (instance_ : KVRocks) (nodes : List Controller.Node) (request : Call)
    (written : List KVRocks) :
    Answers msg instance_ nodes request written (serve instance_ nodes request written).1
      (serve instance_ nodes request written).2 := by
  cases request with
  | getKVRocks key => exact ⟨rfl, fun _ object hobject ↦ (Except.ok.inj hobject).symm⟩
  | updateKVRocks object => exact .inl rfl
  | http endPoint request =>
    cases request with
    | getNodes ns cluster shardIndex =>
      refine ⟨rfl, fun response shard _ hresponse hbody ↦ ?_⟩
      obtain rfl := Except.ok.inj hresponse
      obtain rfl := Option.some.inj (Except.ok.inj hbody)
      rfl
    | _ => rfl
  | _ => rfl

def record (name : String) (role : Role) (masterId : String) (failover : Bool) : KVRocksTopology :=
  { pod := name, role := role, nodeId := name, ip := name, port := 6379, slots := [], masterId := masterId,
    migrate := [], failover := failover }

/-- An instance with one shard: the master "a", the slave "b" with a master id, and the slave "c". -/
def demo (masterId : String) (failover : Bool) : KVRocks :=
  let created := KVRocks.created ⟨"default", "kvrocks-cluster-1-demo"⟩
    { image := "kvrocks:2.0", type := .cluster, kvrocksConfig := [], replicas := 3, master := 3,
      password := "secret", resources := true }
  { created with
    status := { created.status with
      status := .running
      topo := [{ partitionName := "kvrocks-cluster-1-demo-0", shard := 0
                 topology := [record "a" .master "" false, record "b" .slave masterId false,
                   record "c" .slave "a" failover] }] } }

/-- "b" is the new master. -/
def promoted : List Controller.Node :=
  [{ id := "a", addr := "a", role := .slave }, { id := "b", addr := "b", role := .master },
    { id := "c", addr := "c", role := .slave }]

def masterDown : EventMessage :=
  { id := 1, ip := "a", port := "6379", key := ⟨"default", "kvrocks-cluster-1-demo"⟩, partition := 0, timeout := 30 }

/-- The instance that is written at the end. -/
def stored (masterId : String) (failover : Bool) : KVRocks :=
  updateTopology masterDown "b" promoted (demo masterId failover)

theorem exec_stored (masterId : String) (failover : Bool) :
    ∃ outcome, Exec (Answers masterDown (demo masterId failover) promoted)
      (handleFailover Controller.newClient masterDown).program [] outcome [stored masterId failover] := by
  have hrun := exec_run (serve_answers masterDown (demo masterId failover) promoted)
    (handleFailover Controller.newClient masterDown).program []
  exact ⟨_, hrun⟩

/-- The promoted node is stored as the master. -/
theorem promotion_stored : Stored masterDown promoted (demo "" false) (stored "" false) := by
  obtain ⟨outcome, hexec⟩ := exec_stored "" false
  apply (handleFailover_stored_iff Controller.newClient masterDown (demo "" false) promoted (by decide) outcome
    [stored "" false] hexec (stored "" false) List.mem_cons_self (by decide)).mpr
  decide

/-- The record of the new master keeps the id of the old one, and the mark of "c", for which a message is pending, is
lost. -/
theorem promotion_keeps_masterId : ∃ outcome, Exec (Answers masterDown (demo "a" true) promoted)
        (handleFailover Controller.newClient masterDown).program [] outcome [stored "a" true] ∧
      (Cluster.recordsAt (demo "a" true).status.topo 0).map (·.failover) = [false, false, true] ∧
      (Cluster.recordsAt (stored "a" true).status.topo 0).map (fun topo ↦ (topo.role, topo.masterId)) =
        [(.slave, "b"), (.master, "a"), (.slave, "b")] ∧
      (Cluster.recordsAt (stored "a" true).status.topo 0).map (·.failover) = [true, false, false] := by
  obtain ⟨outcome, hexec⟩ := exec_stored "a" true
  exact ⟨outcome, hexec, by decide, by decide, by decide⟩

end KvrocksOperator.Events.Records
