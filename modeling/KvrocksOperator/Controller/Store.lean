import Mathlib.Data.List.Nodup
import Mathlib.Logic.Function.Basic
import KvrocksOperator.Client.Controller

/-!
# The kvrocks-controller

What the operator may assume of the controllers it talks to.  A controller keeps a list of shards for each of its
clusters and changes it as it is asked to; which ids it gives to new nodes, and which of them it makes masters, is
left open.  `serves_total` shows that such controllers exist.
-/

namespace KvrocksOperator.Controller

open Interaction

/-- A cluster is addressed by the end point of its controller, a controller namespace and a name. -/
structure ClusterKey where
  endPoint : String
  ns : String
  name : String
  deriving DecidableEq

/-- The cluster that a client works on. -/
def Client.clusterKey (client : Client) : ClusterKey := ⟨client.endPoint, client.ns, client.clusterName⟩

/-- The shards of all clusters, and the requests received so far, latest first. -/
structure Store where
  shards : ClusterKey → List ShardData
  requests : List (String × Request)

/-- The store after a request that leaves one cluster with the given shards. -/
def Store.after (store : Store) (endPoint : String) (request : Request) (key : ClusterKey)
    (shards : List ShardData) : Store :=
  { shards := Function.update store.shards key shards
    requests := (endPoint, request) :: store.requests }

/-- The store after a request that changes nothing. -/
def Store.asked (store : Store) (endPoint : String) (request : Request) : Store :=
  { store with requests := (endPoint, request) :: store.requests }

/-- Requests that create, add or delete something. -/
def Request.mutates : Request → Bool
  | .getShards _ _ => false
  | .getNodes _ _ _ => false
  | _ => true

/-- The requests so far that create, add or delete something. -/
def Store.mutations (store : Store) : List (String × Request) :=
  store.requests.filter fun request ↦ Request.mutates request.2

/-- A shard whose nodes are told apart by their ids. -/
def ShardData.Identified (shard : ShardData) : Prop := (shard.nodes.map (·.id)).Nodup

/-- A request is answered with a status code. -/
def AnsweredWith {β : Type} (statusCode : ℕ) (reply : Except GoError (Response β)) : Prop :=
  ∃ response, reply = .ok response ∧ response.statusCode = statusCode

/-- A request is answered with another status code. -/
def NotAnsweredWith {β : Type} (statusCode : ℕ) (reply : Except GoError (Response β)) : Prop :=
  ∃ response, reply = .ok response ∧ response.statusCode ≠ statusCode

/-- A request about something that may not be there: it is carried out, or refused with another status code. -/
def OnExisting {α β : Type} (found : Option α) (statusCode : ℕ)
    (reply : Except GoError (Response β)) (carriedOut : α → Prop) (refused : Prop) : Prop :=
  match found with
  | some item => AnsweredWith statusCode reply ∧ carriedOut item
  | none => NotAnsweredWith statusCode reply ∧ refused

/-- How a controller answers a request.  Requests for a shard or a node that does not exist are refused and change
nothing; requests that this operator's updates do not use may do anything to their cluster. -/
def Serves (endPoint : String) : (request : Request) → Store → Except GoError (Response request.Body) → Store → Prop
  | .getShards ns cluster, store, reply, store' =>
    reply = .ok ⟨statusOK, .ok (some (store.shards ⟨endPoint, ns, cluster⟩))⟩ ∧
      store' = store.asked endPoint (.getShards ns cluster)
  | .getNodes ns cluster index, store, reply, store' =>
    store' = store.asked endPoint (.getNodes ns cluster index) ∧
      match Go.index (store.shards ⟨endPoint, ns, cluster⟩) index with
      | some shard => reply = .ok ⟨statusOK, .ok (some shard)⟩
      | none => NotAnsweredWith statusOK reply
  | .createShard ns cluster option, store, reply, store' =>
    AnsweredWith statusCreated reply ∧ ∃ shard : ShardData, shard.Identified ∧ shard.nodes.map (·.addr) = option.nodes ∧
      store' = store.after endPoint (.createShard ns cluster option) ⟨endPoint, ns, cluster⟩
        (store.shards ⟨endPoint, ns, cluster⟩ ++ [shard])
  | .deleteShard ns cluster index, store, reply, store' =>
    OnExisting (Go.index (store.shards ⟨endPoint, ns, cluster⟩) index) statusOK reply
      (fun _ ↦ store' = store.after endPoint (.deleteShard ns cluster index) ⟨endPoint, ns, cluster⟩
        ((store.shards ⟨endPoint, ns, cluster⟩).eraseIdx index.toNat))
      (store' = store.asked endPoint (.deleteShard ns cluster index))
  | .deleteNode ns cluster index id, store, reply, store' =>
    OnExisting ((Go.index (store.shards ⟨endPoint, ns, cluster⟩) index).bind
        (·.nodes.find? (·.id == id))) statusOK reply
      (fun _ ↦ store' = store.after endPoint (.deleteNode ns cluster index id) ⟨endPoint, ns, cluster⟩
        ((store.shards ⟨endPoint, ns, cluster⟩).modify index.toNat fun shard ↦
          { shard with nodes := shard.nodes.eraseP (·.id == id) }))
      (store' = store.asked endPoint (.deleteNode ns cluster index id))
  | .addNode ns cluster index option, store, reply, store' =>
    OnExisting (Go.index (store.shards ⟨endPoint, ns, cluster⟩) index) statusCreated reply
      (fun shard ↦ ∃ id, id ∉ shard.nodes.map (·.id) ∧
        store' = store.after endPoint (.addNode ns cluster index option) ⟨endPoint, ns, cluster⟩
          ((store.shards ⟨endPoint, ns, cluster⟩).modify index.toNat fun shard ↦
            { shard with nodes := shard.nodes ++ [⟨id, option.addr, option.role⟩] }))
      (store' = store.asked endPoint (.addNode ns cluster index option))
  | request, store, _, store' => ∃ key shards, store' = store.after endPoint request key shards

/-- The controllers as the surroundings of a program; other calls do not reach them. -/
def answers : Program.Answers operator Store
  | .http endPoint request, store, reply, store' => Serves endPoint request store reply store'
  | _, store, _, store' => store' = store

/-! ## Such controllers exist -/

/-- Any addresses can be given nodes with different ids. -/
theorem exists_identified (addrs : List String) :
    ∃ shard : ShardData, shard.Identified ∧ shard.nodes.map (·.addr) = addrs := by
  refine ⟨⟨addrs.zipIdx.map fun (addr, index) ↦ ⟨Text.itoa index, addr, .slave⟩, []⟩, ?_, ?_⟩
  · unfold ShardData.Identified
    rw [List.map_map]
    have hids : addrs.zipIdx.map ((·.id) ∘ fun (addr, index) ↦ (⟨Text.itoa index, addr, .slave⟩ : Node)) =
          (addrs.zipIdx.map Prod.snd).map fun index : ℕ ↦ Text.itoa index := by
      rw [List.map_map]
      rfl
    rw [hids, List.zipIdx_map_snd]
    exact List.Nodup.map Text.itoa_injective List.nodup_range'
  · rw [List.map_map]
    exact List.zipIdx_map_fst 0 addrs

/-- A new id can always be found. -/
theorem exists_new_id (ids : List String) : ∃ id, id ∉ ids := by
  by_contra hall
  push Not at hall
  have hsub : (List.range (ids.length + 1)).map (fun index : ℕ ↦ Text.itoa index) ⊆ ids := fun id _ ↦ hall id
  have hnodup : ((List.range (ids.length + 1)).map fun index : ℕ ↦ Text.itoa index).Nodup :=
    List.Nodup.map Text.itoa_injective List.nodup_range
  have hlength := (List.subperm_of_subset hnodup hsub).length_le
  rw [List.length_map, List.length_range] at hlength
  omega

theorem exists_answeredWith (β : Type) (statusCode : ℕ) :
    ∃ reply : Except GoError (Response β), AnsweredWith statusCode reply :=
  ⟨.ok ⟨statusCode, .error (.text "")⟩, _, rfl, rfl⟩

theorem exists_notAnsweredWith (β : Type) (statusCode : ℕ) :
    ∃ reply : Except GoError (Response β), NotAnsweredWith statusCode reply :=
  ⟨.ok ⟨statusCode + 1, .error (.text "")⟩, _, rfl, Nat.succ_ne_self statusCode⟩

theorem exists_onExisting {α β : Type} (found : Option α) (statusCode : ℕ) {carriedOut : α → Store → Prop}
    {refused : Store → Prop} (hcarried : ∀ item, ∃ store', carriedOut item store')
    (hrefused : ∃ store', refused store') :
    ∃ (reply : Except GoError (Response β)) (store' : Store),
      OnExisting found statusCode reply (carriedOut · store') (refused store') := by
  cases found with
  | some item =>
    obtain ⟨reply, hreply⟩ := exists_answeredWith β statusCode
    obtain ⟨store', hstore⟩ := hcarried item
    exact ⟨reply, store', hreply, hstore⟩
  | none =>
    obtain ⟨reply, hreply⟩ := exists_notAnsweredWith β statusCode
    obtain ⟨store', hstore⟩ := hrefused
    exact ⟨reply, store', hreply, hstore⟩

/-- Every request has an answer. -/
theorem serves_total (endPoint : String) (request : Request) (store : Store) :
    ∃ reply store', Serves endPoint request store reply store' := by
  cases request with
  | getShards ns cluster => exact ⟨_, _, rfl, rfl⟩
  | getNodes ns cluster index =>
    cases hshard : Go.index (store.shards ⟨endPoint, ns, cluster⟩) index with
    | some shard => exact ⟨.ok ⟨statusOK, .ok (some shard)⟩, _, rfl, by rw [hshard]⟩
    | none =>
      obtain ⟨reply, hreply⟩ := exists_notAnsweredWith _ statusOK
      exact ⟨reply, _, rfl, by rwa [hshard]⟩
  | createShard ns cluster option =>
    obtain ⟨reply, hreply⟩ := exists_answeredWith _ statusCreated
    obtain ⟨shard, hids, haddrs⟩ := exists_identified option.nodes
    exact ⟨reply, _, hreply, shard, hids, haddrs, rfl⟩
  | deleteShard ns cluster index =>
    exact exists_onExisting _ _ (fun _ ↦ ⟨_, rfl⟩) ⟨_, rfl⟩
  | deleteNode ns cluster index id =>
    exact exists_onExisting _ _ (fun _ ↦ ⟨_, rfl⟩) ⟨_, rfl⟩
  | addNode ns cluster index option =>
    refine exists_onExisting _ _ (fun shard ↦ ?_) ⟨_, rfl⟩
    obtain ⟨id, hid⟩ := exists_new_id (shard.nodes.map (·.id))
    exact ⟨_, id, hid, rfl⟩
  | createNamespace ns => exact ⟨.error (.text ""), _, ⟨endPoint, "", ""⟩, [], rfl⟩
  | createCluster ns option => exact ⟨.error (.text ""), _, ⟨endPoint, "", ""⟩, [], rfl⟩
  | failoverShard ns cluster index => exact ⟨.error (.text ""), _, ⟨endPoint, "", ""⟩, [], rfl⟩
  | migrateSlotAndData ns cluster option =>
    exact ⟨.error (.text ""), _, ⟨endPoint, "", ""⟩, [], rfl⟩

/-- Every call is answered. -/
theorem answers_total (request : Call) (store : Store) : ∃ reply store', answers request store reply store' := by
  have hfailure := request.failure
  cases request with
  | http endPoint request => exact serves_total endPoint request store
  | _ => exact ⟨hfailure, store, rfl⟩

/-! ## The client against such controllers -/

/-- The controllers as a meaning of programs. -/
abbrev served : Meaning operator Store := Meaning.sequential answers

section Client

variable (client : Client) {fail : Store → Prop} {store : Store}

theorem send_yields {request : Request} {post : Response request.Body → Store → Prop}
    (h : ∀ reply store', Serves client.endPoint request store reply store' → ∃ response, reply = .ok response ∧
      post response store') :
    (send client request).Yields served fail post store := by
  refine ends_attempt fun reply store' hserves ↦ ?_
  obtain ⟨response, rfl, hpost⟩ := h reply store' hserves
  exact hpost

/-- A request that is answered as expected. -/
theorem sendExpecting_yields {request : Request} {expected : ℕ} {post : Store → Prop}
    (h : ∀ reply store', Serves client.endPoint request store reply store' → AnsweredWith expected reply ∧
      post store') :
    (sendExpecting client request expected).Yields served fail (fun _ ↦ post) store := by
  have hsend : (send client request).Yields served fail
      (fun response store' ↦ response.statusCode = expected ∧ post store') store := by
    refine send_yields client fun reply store' hserves ↦ ?_
    obtain ⟨⟨response, rfl, hcode⟩, hpost⟩ := h reply store' hserves
    exact ⟨response, rfl, hcode, hpost⟩
  refine hsend.bind fun response store' hresponse ↦ ?_
  rw [if_neg (not_not.mpr hresponse.1)]
  exact ends_pure hresponse.2

theorem getNodes_yields (index : ℕ) : (getNodes client index).Yields served fail (fun result store' ↦
      result = (store.shards client.clusterKey)[index]? ∧
      store' = store.asked client.endPoint (.getNodes client.ns client.clusterName index)) store := by
  have hsend : (send client (.getNodes client.ns client.clusterName index)).Yields served fail (fun response store' ↦
        store' = store.asked client.endPoint (.getNodes client.ns client.clusterName index) ∧
        match (store.shards client.clusterKey)[index]? with
        | some shard => response = ⟨statusOK, .ok (some shard)⟩
        | none => response.statusCode ≠ statusOK) store := by
    refine send_yields client fun reply store' hserves ↦ ?_
    obtain ⟨hstore, hreply⟩ := hserves
    rw [Go.index_natCast] at hreply
    change match (store.shards client.clusterKey)[index]? with
      | some shard => reply = .ok ⟨statusOK, .ok (some shard)⟩
      | none => NotAnsweredWith statusOK reply at hreply
    cases hshard : (store.shards client.clusterKey)[index]? with
    | some shard =>
      rw [hshard] at hreply
      exact ⟨_, hreply, hstore, rfl⟩
    | none =>
      rw [hshard] at hreply
      obtain ⟨response, hresponse, hcode⟩ := hreply
      exact ⟨response, hresponse, hstore, hcode⟩
  refine hsend.bind fun response store' hresponse ↦ ?_
  obtain ⟨hstore, hcases⟩ := hresponse
  cases hshard : (store.shards client.clusterKey)[index]? with
  | some shard =>
    rw [hshard] at hcases
    rw [hcases]
    exact ends_pure ⟨rfl, hstore⟩
  | none =>
    rw [hshard] at hcases
    rw [if_pos hcases]
    exact ends_pure ⟨rfl, hstore⟩

theorem getShards_yields : (getShards client).Yields served fail (fun result store' ↦
      result = store.shards client.clusterKey ∧
      store' = store.asked client.endPoint (.getShards client.ns client.clusterName)) store := by
  have hsend : (send client (.getShards client.ns client.clusterName)).Yields served fail (fun response store' ↦
        response = ⟨statusOK, .ok (some (store.shards client.clusterKey))⟩ ∧
        store' = store.asked client.endPoint (.getShards client.ns client.clusterName)) store :=
    send_yields client fun reply store' hserves ↦ ⟨_, hserves.1, rfl, hserves.2⟩
  refine hsend.bind fun response store' hresponse ↦ ?_
  rw [hresponse.1]
  exact ends_pure ⟨rfl, hresponse.2⟩

theorem createShard_yields (nodes : List String) (password : String) :
    (createShard client nodes password).Yields served fail (fun _ store' ↦
      ∃ shard : ShardData, shard.Identified ∧ shard.nodes.map (·.addr) = nodes ∧
        store'.shards client.clusterKey = store.shards client.clusterKey ++ [shard]) store := by
  refine sendExpecting_yields client fun reply store' hserves ↦ ?_
  obtain ⟨hreply, shard, hids, haddrs, rfl⟩ := hserves
  exact ⟨hreply, shard, hids, haddrs, Function.update_self ..⟩

theorem deleteShard_yields {index : ℕ} (h : index < (store.shards client.clusterKey).length) :
    (deleteShard client index).Yields served fail (fun _ store' ↦
      store'.shards client.clusterKey = (store.shards client.clusterKey).eraseIdx index) store := by
  refine sendExpecting_yields client fun reply store' hserves ↦ ?_
  have hcarried : OnExisting (Go.index (store.shards client.clusterKey) (index : ℤ)) statusOK reply
      _ _ := hserves
  rw [Go.index_natCast, List.getElem?_eq_getElem h] at hcarried
  obtain ⟨hreply, rfl⟩ := hcarried
  exact ⟨hreply, Function.update_self ..⟩

/-- A shard of the cluster that was changed. -/
theorem shards_modified {index : ℕ} {shard : ShardData} {request : Request}
    (hshard : (store.shards client.clusterKey)[index]? = some shard) (change : ShardData → ShardData) :
    (store.after client.endPoint request client.clusterKey
      ((store.shards client.clusterKey).modify (index : ℤ).toNat change)).shards client.clusterKey =
    (store.shards client.clusterKey).set index (change shard) := by
  apply (Function.update_self ..).trans
  rw [Int.toNat_natCast, List.modify_eq_set_getElem?, hshard]
  rfl

theorem deleteNode_yields {index : ℕ} {shard : ShardData} {node : Node}
    (hshard : (store.shards client.clusterKey)[index]? = some shard) (hnode : node ∈ shard.nodes) :
    (deleteNode client index node.id).Yields served fail (fun _ store' ↦
      store'.shards client.clusterKey = (store.shards client.clusterKey).set index
        { shard with nodes := shard.nodes.eraseP (·.id == node.id) }) store := by
  refine sendExpecting_yields client fun reply store' hserves ↦ ?_
  have hfind : (shard.nodes.find? (·.id == node.id)).isSome := List.find?_isSome.mpr ⟨node, hnode, beq_self_eq_true _⟩
  obtain ⟨found, hfound⟩ := Option.isSome_iff_exists.mp hfind
  have hcarried : OnExisting ((Go.index (store.shards client.clusterKey) (index : ℤ)).bind
      (·.nodes.find? (·.id == node.id))) statusOK reply _ _ := hserves
  rw [Go.index_natCast, hshard, Option.bind_some, hfound] at hcarried
  obtain ⟨hreply, rfl⟩ := hcarried
  exact ⟨hreply, shards_modified client hshard _⟩

theorem addNode_yields {index : ℕ} {shard : ShardData} (addr : String) (role : Role) (password : String)
    (hshard : (store.shards client.clusterKey)[index]? = some shard) :
    (addNode client index addr role password).Yields served fail (fun _ store' ↦ ∃ id, id ∉ shard.nodes.map (·.id) ∧
        store'.shards client.clusterKey = (store.shards client.clusterKey).set index
          { shard with nodes := shard.nodes ++ [⟨id, addr, role⟩] }) store := by
  refine sendExpecting_yields client fun reply store' hserves ↦ ?_
  have hcarried : OnExisting (Go.index (store.shards client.clusterKey) (index : ℤ)) statusCreated reply _ _ := hserves
  rw [Go.index_natCast, hshard] at hcarried
  obtain ⟨hreply, id, hid, rfl⟩ := hcarried
  exact ⟨hreply, id, hid, shards_modified client hshard _⟩

end Client

end KvrocksOperator.Controller
