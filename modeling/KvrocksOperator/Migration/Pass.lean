import KvrocksOperator.Cluster.Rules
import KvrocksOperator.Migration.Matrix
import KvrocksOperator.Migration.Moves

/-!
# One pass of a slot migration

The phases of a pass that read or write migrations: the persisted topology is put over the pods, ids, roles and slots
are taken from the controller, the topology is persisted, and the first master with entries has them carried out, one
status update after each entry.
-/

namespace KvrocksOperator.Migration

open Interaction Cluster

/-! ## The surroundings of a pass -/

/-- The controller's slots and the nodes of its shards, the persisted instance, and the number of status updates tried
in the current pass. -/
structure World where
  slots : Slots
  nodes : List (List Controller.Node)
  instance_ : KVRocks
  updates : ℕ

/-- The world after a request to move a slot. -/
def World.withSlots (world : World) (slots : Slots) : World := { world with slots := slots }

/-- The world when a pass begins. -/
def World.begun (world : World) : World := { world with updates := 0 }

/-- What goes wrong in a pass: the controller refuses a slot as often as it is asked, or the status update with the
given number fails. -/
inductive Fault where
  | refusal (slot : ℤ)
  | statusUpdate (number : ℕ)
  deriving DecidableEq

/-- The controller carries out a move in a pass. -/
def Carried (fault : Option Fault) (slots : Slots) (move : MigrationOption) : Prop :=
  fault ≠ some (.refusal move.slot) ∧ slots.Accepts move

instance (fault : Option Fault) (slots : Slots) (move : MigrationOption) : Decidable (Carried fault slots move) :=
  inferInstanceAs (Decidable (_ ∧ _))

/-- The controller's answer about a shard. -/
def World.shardData (world : World) (shard : ℕ) : ShardData :=
  ⟨world.nodes.getD shard [], Kvrocks.slotsToString (world.slots.owned shard)⟩

/-- The surroundings of a pass.  Nothing else writes the object. -/
def serve (fault : Option Fault) : (request : Call) → World → request.Reply × World
  | .http _ (.getNodes _ _ index), world =>
    match Go.index world.nodes index with
    | some _ => (.ok ⟨statusOK, .ok (some (world.shardData index.toNat))⟩, world)
    | none => (.ok ⟨404, .ok none⟩, world)
  | .http _ (.migrateSlotAndData _ _ move), world =>
    if Carried fault world.slots move then
      (.ok ⟨statusOK, .ok ()⟩, world.withSlots (world.slots.moved move))
    else (.ok ⟨500, .ok ()⟩, world.withSlots (world.slots.refused move 1))
  | .getKVRocks _, world => (.ok world.instance_, world)
  | .updateKVRocks instance_, world =>
    if fault = some (.statusUpdate world.updates) then
      (.error (.other "failure"), { world with updates := world.updates + 1 })
    else
      (.ok (world.instance_.resourceVersion + 1),
        { world with
          instance_ := { instance_ with resourceVersion := world.instance_.resourceVersion + 1 }
          updates := world.updates + 1 })
  | .getPod key, world =>
    (.ok { ns := key.ns, name := key.name, ip := "", labels := [], deletionTimestamp := false }, world)
  | .updatePod _, world => (.ok (), world)
  | request, world => (request.failure, world)

/-- The phases of a pass that read or write migrations, with the pods that the pass has found. -/
def pass (pods : Matrix) : HandlerM Unit := do
  fixTopo pods
  ensureSetNodeID
  ensureVersion
  ensureStatusTopoMsg
  ensureMigrate

/-- How a pass ends, and what it leaves. -/
def runPass (pods : Matrix) (fault : Option Fault) (world : World) : Outcome GoError Unit × World :=
  ((pass pods).invoke (newKVRocksClusterHandler world.instance_.key world.instance_
    Controller.newClient)).program.run (serve fault) world.begun

/-! ## What a pass works on -/

/-- The matrix of a pass after `ensureSetNodeID`. -/
def World.identified (pods : Matrix) (world : World) : Matrix :=
  identifyAll world.shardData ((restoreTopo world.instance_.status.topo pods).getD [])

/-- The matrix of a pass when it begins to migrate. -/
def World.matrix (pods : Matrix) (world : World) : Matrix := (world.identified pods).map (·.map sortSlots)

/-- The state between two passes: the records fit the pods, every shard of the pods has a master at the controller,
and the node at the given position is known to it. -/
structure Steady (pods : Matrix) (shard index : ℕ) (world : World) : Prop where
  filled : [] ∉ pods
  bare : ∀ members ∈ pods, ∀ node ∈ members, node = stub node
  fits : (restoreTopo world.instance_.status.topo pods).isSome
  mastered : ∀ position < pods.length, ∃ members, world.nodes[position]? = some members ∧ masterID members ≠ ""
  known : ∃ pod, nodeAt pods shard index = some pod ∧
    ∃ member ∈ world.nodes.getD shard [], simplyIp member.addr = pod.ip
  slots : ∀ slot ∈ world.slots.owned shard, Kvrocks.IsSlot slot

/-- Only the persisted topology has changed: it is now that of the matrix. -/
structure Saved (matrix : Matrix) (before after : World) : Prop where
  slots : after.slots = before.slots
  nodes : after.nodes = before.nodes
  updates : after.updates = before.updates + 1
  topo : ∃ instanceName, after.instance_.status.topo = statusTopo instanceName (matrix.map (·.map some))

variable {fail : World → Prop}

section Phases

variable {fault : Option Fault} {h : Handler} {world : World}

/-- A status update persists the topology of the matrix, or it is the fault. -/
theorem statusTopoMsg_yields : ensureStatusTopoMsg.Yields (.deterministic (serve fault))
      (fun final ↦ fault = some (.statusUpdate world.updates) ∧ final = { world with updates := world.updates + 1 })
      (fun _ later final ↦ later.stsNodes = h.stsNodes.map (·.map sortSlots) ∧
        Saved later.stsNodes world final) h world := by
  apply ensureStatusTopoMsg_yields
  unfold Updates
  rw [Meaning.deterministic_perform]
  by_cases hfault : fault = some (.statusUpdate world.updates)
  · have hserve (instance_ : KVRocks) : serve fault (.updateKVRocks instance_) world =
        (.error (.other "failure"), { world with updates := world.updates + 1 }) := if_pos hfault
    rw [hserve]
    exact ⟨hfault, rfl⟩
  · have hserve (instance_ : KVRocks) : serve fault (.updateKVRocks instance_) world =
        (.ok (world.instance_.resourceVersion + 1),
          { world with
            instance_ := { instance_ with resourceVersion := world.instance_.resourceVersion + 1 }
            updates := world.updates + 1 }) := if_neg hfault
    rw [hserve]
    refine ⟨rfl, rfl, rfl, rfl, h.instance_.name, ?_⟩
    exact (statusTopo_sortSlots h.instance_.name h.stsNodes).symm

theorem fixTopo_yields {pods restored : Matrix} (hinstance : h.instance_ = world.instance_)
    (hrestored : restoreTopo world.instance_.status.topo pods = some restored) :
    (fixTopo pods).Yields (.deterministic (serve fault)) fail
      (fun _ later final ↦ later.stsNodes = restored ∧ final = world) h world := by
  apply ends_get_bind
  have hget : (K8s.getKVRocks h.key).Yields (.deterministic (serve fault)) fail
      (fun curInstance final ↦ curInstance = world.instance_ ∧ final = world) world := by
    apply ends_attempt
    rw [Meaning.deterministic_perform]
    exact ⟨rfl, rfl⟩
  refine ends_lift_bind hget fun curInstance final hcur ↦ ?_
  obtain ⟨rfl, rfl⟩ := hcur
  rw [hinstance, if_neg (not_not.mpr rfl), hrestored]
  have hsome : (Fallible.ofOption (some restored) : Go Matrix).Yields
      (.deterministic (serve fault)) fail (fun fixed later ↦ fixed = restored ∧ later = final) final :=
    ends_pure ⟨rfl, rfl⟩
  exact ends_lift_bind hsome fun fixed later hfixed ↦ ends_modify hfixed

/-- Labels do not matter here: every pod can be read and written. -/
theorem updatePodLabels_yields (key : NamespacedName) (role : Role) :
    (updatePodLabels key role).Yields (.deterministic (serve fault)) fail (fun _ final ↦ final = world) world := by
  have hget : (K8s.getPod key).Yields (.deterministic (serve fault)) fail (fun _ final ↦ final = world) world := by
    apply ends_attempt
    rw [Meaning.deterministic_perform]
    rfl
  apply hget.bind
  rintro pod world rfl
  split_ifs
  · apply ends_attempt
    rw [Meaning.deterministic_perform]
    rfl
  · exact ends_pure rfl

theorem getNodes_yields (client : Controller.Client) {shard : ℕ} {members : List Controller.Node}
    (hmembers : world.nodes[shard]? = some members) :
    (Controller.getNodes client shard).Yields (.deterministic (serve fault)) fail
      (fun result final ↦ result = some (world.shardData shard) ∧ final = world) world := by
  have hsend : (Controller.send client (.getNodes client.ns client.clusterName shard)).Yields
      (.deterministic (serve fault)) fail
      (fun response final ↦ response = ⟨statusOK, .ok (some (world.shardData shard))⟩ ∧ final = world) world := by
    have hindex : Go.index world.nodes (shard : ℤ) = some members := by rw [Go.index_natCast, hmembers]
    have hserve : serve fault (.http client.endPoint (.getNodes client.ns client.clusterName shard)) world =
        (.ok ⟨statusOK, .ok (some (world.shardData shard))⟩, world) := by
      simp only [serve, hindex, Int.toNat_natCast]
    apply ends_attempt
    rw [Meaning.deterministic_perform, hserve]
    exact ⟨rfl, rfl⟩
  apply hsend.bind
  rintro _ world ⟨rfl, rfl⟩
  exact ends_pure ⟨rfl, rfl⟩

theorem ensureSetNodeID_identifies
    (hmastered : ∀ shard < h.stsNodes.length, ∃ members, world.nodes[shard]? = some members ∧ masterID members ≠ "") :
    ensureSetNodeID.Yields (.deterministic (serve fault)) fail
      (fun _ later final ↦ later = { h with stsNodes := identifyAll world.shardData h.stsNodes } ∧
        final = world) h world := by
  apply ensureSetNodeID_yields_of (· = world) rfl
  rintro shard nodes hnodes world rfl
  obtain ⟨members, hmembers, hmaster⟩ := hmastered shard (List.getElem?_eq_some_iff.mp hnodes).1
  have hdata : (world.shardData shard).nodes = members := by
    change world.nodes.getD shard [] = members
    rw [List.getD_eq_getElem?_getD, hmembers, Option.getD_some]
  rw [← hdata] at hmaster
  apply identifyShard_yields_of (getNodes_yields h.controllerClient hmembers) hmaster
  rintro node - world rfl
  exact labelNode_yields_of (updatePodLabels_yields _ _)

/-! ## Moving the slots of an entry -/

/-- One request to move a slot. -/
theorem migrateSlotAndData_yields (client : Controller.Client) (move : MigrationOption) :
    (Controller.migrateSlotAndData client move.source move.target move.slot).Yields (.deterministic (serve fault))
      (fun final ↦ ¬ Carried fault world.slots move ∧ final = world.withSlots (world.slots.refused move 1))
      (fun _ final ↦ Carried fault world.slots move ∧ final = world.withSlots (world.slots.moved move)) world := by
  have hsend {fail : World → Prop} : (Controller.send client
      (.migrateSlotAndData client.ns client.clusterName move)).Yields (.deterministic (serve fault)) fail
      (fun response final ↦ (response.statusCode = statusOK ∧ Carried fault world.slots move ∧
          final = world.withSlots (world.slots.moved move)) ∨
        (response.statusCode ≠ statusOK ∧ ¬ Carried fault world.slots move ∧
          final = world.withSlots (world.slots.refused move 1))) world := by
    apply ends_attempt
    rw [Meaning.deterministic_perform]
    by_cases hcarried : Carried fault world.slots move
    · have hserve (endPoint ns cluster : String) :
          serve fault (.http endPoint (.migrateSlotAndData ns cluster move)) world =
            (.ok ⟨statusOK, .ok ()⟩, world.withSlots (world.slots.moved move)) := if_pos hcarried
      rw [hserve]
      exact Or.inl ⟨rfl, hcarried, rfl⟩
    · have hserve (endPoint ns cluster : String) :
          serve fault (.http endPoint (.migrateSlotAndData ns cluster move)) world =
            (.ok ⟨500, .ok ()⟩, world.withSlots (world.slots.refused move 1)) := if_neg hcarried
      rw [hserve]
      have hcode : 500 ≠ statusOK := by decide
      exact Or.inr ⟨hcode, hcarried, rfl⟩
  refine hsend.bind fun response final hresponse ↦ ?_
  rcases hresponse with ⟨hcode, hcarried⟩ | ⟨hcode, hrefused⟩
  · rw [if_neg (not_not.mpr hcode)]
    exact ends_pure hcarried
  · rw [if_pos hcode]
    exact ends_throw _ hrefused

/-- One slot with all its attempts. -/
theorem moveSlot_yields (client : Controller.Client) (move : MigrationOption) (retries : ℕ) :
    (moveSlot client move.source move.target move.slot retries).Yields (.deterministic (serve fault))
      (fun final ↦ ¬ Carried fault world.slots move ∧
        ∃ attempts, final = world.withSlots (world.slots.refused move attempts))
      (fun _ final ↦ Carried fault world.slots move ∧ final = world.withSlots (world.slots.moved move)) world := by
  have hattempt (current : World) :
      (Controller.migrateSlotAndData client move.source move.target move.slot).handle.Yields
        (.deterministic (serve fault))
        (fun final ↦ ¬ Carried fault current.slots move ∧
          ∃ attempts, final = current.withSlots (current.slots.refused move attempts))
        (fun result final ↦ Fallible.Kept
          (¬ Carried fault current.slots move ∧ final = current.withSlots (current.slots.refused move 1))
          (fun _ ↦ Carried fault current.slots move ∧ final = current.withSlots (current.slots.moved move))
          result) current :=
    yields_handle_kept (migrateSlotAndData_yields client move) fun final hfinal ↦ ⟨hfinal.1, 1, hfinal.2⟩
  induction retries generalizing world with
  | zero =>
    refine (hattempt world).bind fun result final hresult ↦ ?_
    cases result with
    | ok _ => exact ends_pure hresult
    | error _ => exact ends_throw _ ⟨hresult.1, 1, hresult.2⟩
  | succ retries ih =>
    refine (hattempt world).bind fun result final hresult ↦ ?_
    cases result with
    | ok _ => exact ends_pure hresult
    | error _ =>
      obtain ⟨hrefused, rfl⟩ := hresult
      refine ih.mono ?_ ?_
      · rintro final ⟨_, attempts, rfl⟩
        refine ⟨hrefused, attempts + 1, ?_⟩
        rw [← Slots.refused_refused]
        rfl
      · -- a refusal changes nothing that the next attempt depends on
        intro _ final hfinal
        exact absurd hfinal.1 hrefused

/-- The moves of an entry. -/
def movesOf (source target : ℤ) (slots : List ℤ) : List MigrationOption := slots.map fun slot ↦ ⟨source, target, slot⟩

/-- The controller carries out several moves in a pass. -/
def CarriedAll (fault : Option Fault) (slots : Slots) (moves : List MigrationOption) : Prop :=
  (∀ move ∈ moves, fault ≠ some (.refusal move.slot)) ∧ slots.AcceptsAll moves

theorem carriedAll_append {slots : Slots} {first second : List MigrationOption} :
    CarriedAll fault slots (first ++ second) ↔
      CarriedAll fault slots first ∧ CarriedAll fault (slots.movedAll first) second := by
  unfold CarriedAll
  rw [Slots.acceptsAll_append, List.forall_mem_append]
  tauto

theorem carriedAll_singleton {slots : Slots} {move : MigrationOption} :
    CarriedAll fault slots [move] ↔ Carried fault slots move := by
  unfold CarriedAll Carried
  simp [Slots.AcceptsAll]

/-- The loop over the slots of an entry stops at the first move that is not carried out. -/
theorem moveSlots_yields (client : Controller.Client) (source target : ℤ) (slots : List ℤ) :
    (forEach (fun slot ↦ moveSlot client source target slot slotRetries) slots : Go Unit).Yields
      (.deterministic (serve fault))
      (fun final ↦ ∃ front slot back attempts, slots = front ++ slot :: back ∧
        CarriedAll fault world.slots (movesOf source target front) ∧
        ¬ Carried fault (world.slots.movedAll (movesOf source target front)) ⟨source, target, slot⟩ ∧
        final = world.withSlots ((world.slots.movedAll (movesOf source target front)).refused
          ⟨source, target, slot⟩ attempts))
      (fun _ final ↦ CarriedAll fault world.slots (movesOf source target slots) ∧
        final = world.withSlots (world.slots.movedAll (movesOf source target slots))) world := by
  refine yields_forEach (fun (front : List ℤ) (final : World) ↦
    CarriedAll fault world.slots (movesOf source target front) ∧
      final = world.withSlots (world.slots.movedAll (movesOf source target front)))
    ⟨⟨fun _ hmove ↦ (List.not_mem_nil hmove).elim, trivial⟩, rfl⟩ ?_
  rintro front slot back current hslots ⟨hfront, rfl⟩
  refine (moveSlot_yields client ⟨source, target, slot⟩ slotRetries).mono ?_ ?_
  · rintro final ⟨hrefused, attempts, rfl⟩
    exact ⟨front, slot, back, attempts, hslots, hfront, hrefused, rfl⟩
  · rintro _ final ⟨hcarried, rfl⟩
    have hmoves : movesOf source target (front ++ [slot]) =
        movesOf source target front ++ [⟨source, target, slot⟩] := List.map_append
    rw [hmoves, Slots.movedAll_append]
    exact ⟨carriedAll_append.mpr ⟨hfront, carriedAll_singleton.mpr hcarried⟩, rfl⟩

end Phases

/-! ## The entries of the first master -/

/-- The moves of a list of entries. -/
def requestsOf (source : ℤ) (entries : List Kvrocks.MigrateMsg) : List MigrationOption :=
  entries.flatMap fun entry ↦ movesOf source entry.shard entry.slots

theorem mem_requestsOf {source : ℤ} {entries : List Kvrocks.MigrateMsg} {move : MigrationOption} :
    move ∈ requestsOf source entries ↔ ∃ entry ∈ entries, ∃ slot ∈ entry.slots, move = ⟨source, entry.shard, slot⟩ := by
  unfold requestsOf movesOf
  simp only [List.mem_flatMap, List.mem_map, eq_comm]

theorem source_of_mem_movesOf {source target : ℤ} {slots : List ℤ} {move : MigrationOption}
    (h : move ∈ movesOf source target slots) : move.source = source := by
  obtain ⟨slot, _, rfl⟩ := List.mem_map.mp h
  rfl

theorem source_of_mem_requestsOf {source : ℤ} {entries : List Kvrocks.MigrateMsg} {move : MigrationOption}
    (h : move ∈ requestsOf source entries) : move.source = source := by
  obtain ⟨entry, _, hmove⟩ := List.mem_flatMap.mp h
  exact source_of_mem_movesOf hmove

theorem requestsOf_append (source : ℤ) (first second : List Kvrocks.MigrateMsg) :
    requestsOf source (first ++ second) = requestsOf source first ++ requestsOf source second :=
  List.flatMap_append

theorem requestsOf_cons (source : ℤ) (entry : Kvrocks.MigrateMsg) (entries : List Kvrocks.MigrateMsg) :
    requestsOf source (entry :: entries) = movesOf source entry.shard entry.slots ++ requestsOf source entries := rfl

section Entries

variable {fault : Option Fault} {pods : Matrix} {shard index : ℕ} {before after : World}

/-- What the next pass finds: the pods still fit the records, and the node has the given entries. -/
structure Remains (pods : Matrix) (shard index : ℕ)
    (entries : List Kvrocks.MigrateMsg) (before after : World) : Prop where
  nodes : after.nodes = before.nodes
  fits : (restoreTopo after.instance_.status.topo pods).isSome
  leads : Leads (after.matrix pods) shard index entries

variable {world : World}

/-- A persisted matrix comes back with its migrations. -/
theorem marks_matrix {matrix : Matrix} (hfilled : [] ∉ pods) (htidy : Tidy pods world.nodes matrix)
    (htopo : ∃ instanceName, world.instance_.status.topo = statusTopo instanceName (matrix.map (·.map some))) :
    (restoreTopo world.instance_.status.topo pods).isSome ∧ marks (world.matrix pods) = marks matrix := by
  obtain ⟨instanceName, htopo⟩ := htopo
  have hmatrix : [] ∉ matrix := by
    intro hmem
    apply hfilled
    rw [← htidy.stubs]
    exact List.mem_map_of_mem hmem
  have hrestored : restoreTopo world.instance_.status.topo pods = some (matrix.map (·.map recode)) := by
    rw [htopo, ← htidy.stubs]
    exact restoreTopo_statusTopo instanceName hmatrix
  constructor
  · rw [hrestored]
    rfl
  · unfold World.matrix World.identified
    rw [hrestored]
    exact htidy.marks_eq fun shard ↦ Kvrocks.slotsToString (world.slots.owned shard)

/-- The state of a pass between two entries. -/
structure At (fault : Option Fault) (pods : Matrix) (shard index : ℕ) (before : World)
    (finished rest : List Kvrocks.MigrateMsg) (h : Handler) (world : World) : Prop where
  tidy : Tidy pods before.nodes h.stsNodes
  leads : rest ≠ [] → Leads h.stsNodes shard index rest
  node : ∃ node, nodeAt h.stsNodes shard index = some node ∧ node.migrate = rest ∧
    node.slots.length + (requestsOf shard finished).length = (before.slots.owned shard).length
  topo : ∃ instanceName, world.instance_.status.topo = statusTopo instanceName (h.stsNodes.map (·.map some))
  nodes : world.nodes = before.nodes
  updates : world.updates = finished.length + 1
  carried : CarriedAll fault before.slots (requestsOf shard finished)
  slots : world.slots = before.slots.movedAll (requestsOf shard finished)

/-- How a pass over entries is stopped: before the first entry, at a slot of an entry, or at the status update after
an entry. -/
inductive Stopped (fault : Option Fault) (pods : Matrix) (shard index : ℕ)
    (entries : List Kvrocks.MigrateMsg) (before after : World) : Prop where
  | early (hfault : fault = some (.statusUpdate 0)) (hslots : after.slots = before.slots)
      (hremains : Remains pods shard index entries before after)
  | refusal {finished rest : List Kvrocks.MigrateMsg} {entry : Kvrocks.MigrateMsg} {front back : List ℤ}
      {slot : ℤ} {attempts : ℕ} (hentries : entries = finished ++ entry :: rest)
      (hsplit : entry.slots = front ++ slot :: back)
      (hcarried : CarriedAll fault before.slots (requestsOf shard finished ++ movesOf shard entry.shard front))
      (hrefused : ¬ Carried fault (before.slots.movedAll
        (requestsOf shard finished ++ movesOf shard entry.shard front)) ⟨shard, entry.shard, slot⟩)
      (hslots : after.slots = (before.slots.movedAll
        (requestsOf shard finished ++ movesOf shard entry.shard front)).refused ⟨shard, entry.shard, slot⟩ attempts)
      (hremains : Remains pods shard index (entry :: rest) before after)
  | statusUpdate {finished rest : List Kvrocks.MigrateMsg} {entry : Kvrocks.MigrateMsg}
      (hentries : entries = finished ++ entry :: rest)
      (hfault : fault = some (.statusUpdate (finished.length + 1)))
      (hcarried : CarriedAll fault before.slots (requestsOf shard (finished ++ [entry])))
      (hslots : after.slots = before.slots.movedAll (requestsOf shard (finished ++ [entry])))
      (hremains : Remains pods shard index (entry :: rest) before after)

variable {h : Handler}

theorem At.remains {finished rest : List Kvrocks.MigrateMsg}
    (hat : At fault pods shard index before finished rest h world) (hfilled : [] ∉ pods) (hrest : rest ≠ [])
    (hinstance : after.instance_ = world.instance_) (hnodes : after.nodes = world.nodes) :
    Remains pods shard index rest before after := by
  have hsame : after.nodes = before.nodes := hnodes.trans hat.nodes
  have htidy : Tidy pods after.nodes h.stsNodes := hsame ▸ hat.tidy
  obtain ⟨hfits, hmarks⟩ := marks_matrix hfilled htidy (hinstance ▸ hat.topo)
  exact ⟨hsame, hfits, (leads_congr hmarks shard index rest).mpr (hat.leads hrest)⟩

theorem dropEntry_yields {node : Node} {count : ℕ} (hnode : nodeAt h.stsNodes shard index = some node)
    (hcount : count ≤ node.slots.length) :
    (dropEntry shard index count).Yields (.deterministic (serve fault)) fail (fun _ later final ↦
        later.stsNodes = modifyNode shard index (withoutEntry count) h.stsNodes ∧ final = world)
      h world := by
  have hsome : (Fallible.ofOption (h.stsNodes[shard]?.bind (·[index]?)) : Go Node).Yields
      (.deterministic (serve fault)) fail (fun found final ↦ found = node ∧ final = world) world := by
    change (Fallible.ofOption (nodeAt h.stsNodes shard index) : Go Node).Yields _ _ _ _
    rw [hnode]
    exact ends_pure ⟨rfl, rfl⟩
  apply ends_get_bind
  refine ends_lift_bind hsome fun found final hfound ↦ ?_
  rw [hfound.1, if_neg (Nat.not_lt.mpr hcount)]
  exact ends_modify ⟨rfl, hfound.2⟩

/-- One entry. -/
theorem reBalanceEntry_yields (hfilled : [] ∉ pods) {finished rest : List Kvrocks.MigrateMsg}
    {entry : Kvrocks.MigrateMsg} (hat : At fault pods shard index before finished (entry :: rest) h world) :
    (reBalanceEntry shard shard index).Yields (.deterministic (serve fault))
      (Stopped fault pods shard index (finished ++ entry :: rest) before)
      (fun _ later final ↦ At fault pods shard index before (finished ++ [entry]) rest later final)
      h world := by
  obtain ⟨node, hnode, hmigrate, hlength⟩ := hat.node
  have hmoves : requestsOf shard (finished ++ [entry]) =
      requestsOf shard finished ++ movesOf shard entry.shard entry.slots := by
    rw [requestsOf_append, requestsOf_cons]
    exact congrArg (_ ++ ·) (List.append_nil _)
  have hhead : (Fallible.ofOption ((h.stsNodes[shard]?.bind (·[index]?)).bind (·.migrate.head?)) :
      Go Kvrocks.MigrateMsg).Yields (.deterministic (serve fault))
      (Stopped fault pods shard index (finished ++ entry :: rest) before)
      (fun found final ↦ found = entry ∧ final = world) world := by
    change (Fallible.ofOption ((nodeAt h.stsNodes shard index).bind (·.migrate.head?)) :
      Go Kvrocks.MigrateMsg).Yields _ _ _ _
    rw [hnode, Option.bind_some, hmigrate]
    exact ends_pure ⟨rfl, rfl⟩
  apply ends_get_bind
  refine ends_lift_bind hhead fun found final hfound ↦ ?_
  obtain ⟨rfl, rfl⟩ := hfound
  have hslots := @moveSlots_yields fault final h.controllerClient shard found.shard found.slots
  refine ends_lift_bind (hslots.mono ?_ fun _ _ hpost ↦ hpost) fun _ current hcurrent ↦ ?_
  · -- a slot is refused
    rintro stopped ⟨front, slot, back, attempts, hsplit, hfront, hrefused, rfl⟩
    rw [hat.slots] at hfront hrefused
    rw [← Slots.movedAll_append] at hrefused
    have hafter : (final.slots.movedAll (movesOf shard found.shard front)).refused
        ⟨shard, found.shard, slot⟩ attempts = (before.slots.movedAll
          (requestsOf shard finished ++ movesOf shard found.shard front)).refused
            ⟨shard, found.shard, slot⟩ attempts := by
      rw [hat.slots, Slots.movedAll_append]
    exact .refusal rfl hsplit (carriedAll_append.mpr ⟨hat.carried, hfront⟩) hrefused hafter
      (hat.remains hfilled (List.cons_ne_nil _ _) rfl rfl)
  · obtain ⟨hcarried, rfl⟩ := hcurrent
    have hall : CarriedAll fault before.slots (requestsOf shard (finished ++ [found])) := by
      rw [hmoves, carriedAll_append, ← hat.slots]
      exact ⟨hat.carried, hcarried⟩
    have hmoved : final.slots.movedAll (movesOf shard found.shard found.slots) =
        before.slots.movedAll (requestsOf shard (finished ++ [found])) := by
      rw [hmoves, Slots.movedAll_append, hat.slots]
    have hcount : (requestsOf shard finished).length + found.slots.length ≤ (before.slots.owned shard).length := by
      have hle := Slots.length_le_of_acceptsAll (fun move ↦ source_of_mem_requestsOf) hall.2
      rwa [hmoves, List.length_append, movesOf, List.length_map] at hle
    refine (dropEntry_yields hnode (by omega)).bind fun _ later current hdropped ↦ ?_
    obtain ⟨hlater, rfl⟩ := hdropped
    refine statusTopoMsg_yields.mono ?_ ?_
    · -- the status update fails
      rintro stopped ⟨hfault, rfl⟩
      refine .statusUpdate rfl ?_ hall hmoved (hat.remains hfilled (List.cons_ne_nil _ _) rfl rfl)
      rw [← hat.updates]
      exact hfault
    · rintro _ later' stopped ⟨hnodes, hsaved⟩
      rw [hlater] at hnodes
      have hnodeAt : nodeAt later'.stsNodes shard index = some (sortSlots (withoutEntry found.slots.length node)) := by
        rw [hnodes, nodeAt_map, nodeAt_modifyNode, hnode]
        rfl
      have hmarks := hat.tidy.marks_tail shard index found.slots.length
      rw [← hnodes] at hmarks
      constructor
      · rw [hnodes]
        exact hat.tidy.tail shard index found.slots.length
      · intro hrest
        exact (leads_congr hmarks shard index rest).mpr
          ((hat.leads (List.cons_ne_nil _ _)).tail hrest found.slots.length)
      · refine ⟨_, hnodeAt, ?_, ?_⟩
        · have hentries := nodeAt_migrate_congr hmarks shard index
          rw [hnodeAt, nodeAt_modifyNode, hnode] at hentries
          refine (Option.some.inj hentries).trans ?_
          change node.migrate.tail = rest
          rw [hmigrate]
          rfl
        · change (Kvrocks.sortInts (node.slots.drop found.slots.length)).length + _ = _
          rw [Kvrocks.length_sortInts, List.length_drop, hmoves, List.length_append, movesOf, List.length_map]
          omega
      · exact hsaved.topo
      · exact hsaved.nodes.trans hat.nodes
      · rw [hsaved.updates, List.length_append, List.length_singleton]
        exact congrArg (· + 1) hat.updates
      · exact hall
      · exact hsaved.slots.trans hmoved

/-- All entries of the node. -/
theorem ensureReBalanceTopo_yields (hfilled : [] ∉ pods) {finished rest : List Kvrocks.MigrateMsg}
    (hat : At fault pods shard index before finished rest h world) :
    (ensureReBalanceTopo shard shard index rest).Yields (.deterministic (serve fault))
      (Stopped fault pods shard index (finished ++ rest) before)
      (fun _ later final ↦ At fault pods shard index before (finished ++ rest) [] later final)
      h world := by
  induction rest generalizing finished h world with
  | nil =>
    rw [List.append_nil]
    exact Method.ends_pure hat
  | cons entry rest ih =>
    have hsplit : finished ++ entry :: rest = (finished ++ [entry]) ++ rest := by simp
    have hfirst := reBalanceEntry_yields hfilled hat
    rw [hsplit] at hfirst ⊢
    exact hfirst.bind fun _ later final hlater ↦ ih hlater

/-! ## The whole pass -/

theorem ensureMigrate_yields (hfilled : [] ∉ pods) {entries : List Kvrocks.MigrateMsg} (hne : entries ≠ [])
    (hat : At fault pods shard index before [] entries h world) :
    ensureMigrate.Yields (.deterministic (serve fault)) (Stopped fault pods shard index entries before)
      (fun _ later final ↦ At fault pods shard index before entries [] later final) h world := by
  obtain ⟨node, hfind, hmigrate⟩ := hat.leads hne
  unfold ensureMigrate
  apply ends_get_bind
  rw [hfind]
  apply ends_modify_bind
  rw [hmigrate]
  have hstart : At fault pods shard index before [] entries { h with requeue := true } world :=
    ⟨hat.tidy, hat.leads, hat.node, hat.topo, hat.nodes, hat.updates, hat.carried, hat.slots⟩
  exact ensureReBalanceTopo_yields hfilled hstart

/-- The node of a pass has all slots of its shard. -/
theorem Steady.length_slots (hsteady : Steady pods shard index world) {node : Node}
    (hnode : nodeAt (world.matrix pods) shard index = some node) :
    node.slots.length = (world.slots.owned shard).length := by
  obtain ⟨pod, hpod, member, hmember, hip⟩ := hsteady.known
  obtain ⟨restored, hrestored⟩ := Option.isSome_iff_exists.mp hsteady.fits
  have hstubs := congrArg (nodeAt · shard index) (restoreTopo_stub hrestored)
  simp only [nodeAt_map, hpod, Option.map_some] at hstubs
  obtain ⟨old, hold, hstub⟩ := Option.map_eq_some_iff.mp hstubs
  unfold World.matrix World.identified at hnode
  rw [hrestored, nodeAt_map, Option.getD_some, nodeAt_identifyAll, hold] at hnode
  have hknown : ∃ member ∈ (world.shardData shard).nodes, simplyIp member.addr = old.ip :=
    ⟨member, hmember, hip.trans (ip_of_stub_eq hstub).symm⟩
  rw [← Option.some.inj hnode]
  change (Kvrocks.sortInts (identify (world.shardData shard) old).slots).length = _
  rw [Kvrocks.length_sortInts, identify_slots hknown]
  change (Kvrocks.slotsToInt (Kvrocks.slotsToString (world.slots.owned shard))).length = _
  rw [Kvrocks.slotsToInt_slotsToString hsteady.slots, Kvrocks.length_sortInts]

/-- A pass that carried out all entries of the node. -/
structure Completed (fault : Option Fault) (pods : Matrix) (shard index : ℕ)
    (entries : List Kvrocks.MigrateMsg) (before after : World) : Prop where
  carried : CarriedAll fault before.slots (requestsOf shard entries)
  slots : after.slots = before.slots.movedAll (requestsOf shard entries)
  entries : (nodeAt (after.matrix pods) shard index).map (·.migrate) = some []

/-- A pass carries out all entries of the first master, or it is stopped. -/
theorem runPass_meets {entries : List Kvrocks.MigrateMsg} (hsteady : Steady pods shard index world)
    (hleads : Leads (world.matrix pods) shard index entries) :
    (runPass pods fault world).1.Meets (Stopped fault pods shard index entries world (runPass pods fault world).2)
      fun _ ↦ Completed fault pods shard index entries world (runPass pods fault world).2 := by
  obtain ⟨restored, hrestored⟩ := Option.isSome_iff_exists.mp hsteady.fits
  have hmatrix : world.matrix pods = (identifyAll world.shardData restored).map (·.map sortSlots) := by
    unfold World.matrix World.identified
    rw [hrestored, Option.getD_some]
  have hlength : restored.length = pods.length := by
    have hstubs := congrArg List.length (restoreTopo_stub hrestored)
    rwa [List.length_map, List.length_map] at hstubs
  have hfix : (fixTopo pods).Yields (.deterministic (serve fault)) (Stopped fault pods shard index entries world)
      (fun _ later final ↦ later.stsNodes = restored ∧ final = world.begun)
      (newKVRocksClusterHandler world.instance_.key world.instance_ Controller.newClient) world.begun :=
    fixTopo_yields rfl hrestored
  have hpass : (pass pods).Yields (.deterministic (serve fault)) (Stopped fault pods shard index entries world)
      (fun _ _ final ↦ Completed fault pods shard index entries world final)
      (newKVRocksClusterHandler world.instance_.key world.instance_ Controller.newClient)
      world.begun := by
    refine hfix.bind fun _ fixed current hfixed ↦ ?_
    obtain ⟨hfixed, rfl⟩ := hfixed
    have hmastered : ∀ position < fixed.stsNodes.length, ∃ members,
        world.begun.nodes[position]? = some members ∧ masterID members ≠ "" := by
      rw [hfixed, hlength]
      exact hsteady.mastered
    refine (ensureSetNodeID_identifies hmastered).bind fun _ identified current hidentified ↦ ?_
    obtain ⟨hidentified, rfl⟩ := hidentified
    apply ends_modify_bind
    -- the version does not matter to the migrations
    generalize hversioned : (if identified.instance_.status.topo = [] ∨
      topoChanged identified.instance_.status.topo identified.stsNodes then
        { identified with version := Kvrocks.wrapInt (identified.version + 1) } else identified) = versioned
    have hnodes : versioned.stsNodes = identifyAll world.shardData restored := by
      rw [← hversioned]
      split_ifs <;> (rw [hidentified, ← hfixed]; rfl)
    refine statusTopoMsg_yields.mono ?_ (fun _ _ _ hpost ↦ hpost) |>.bind ?_
    · rintro final ⟨hfault, rfl⟩
      exact .early hfault rfl ⟨rfl, hsteady.fits, hleads⟩
    · rintro _ later final ⟨hlater, hsaved⟩
      rw [hnodes, ← hmatrix] at hlater
      obtain ⟨node, hnode, hmigrate⟩ := hleads.node
      have hat : At fault pods shard index world [] entries later final := by
        constructor
        · rw [hlater, hmatrix]
          exact tidy_of_restored hsteady.bare hrestored world.nodes _
        · intro _
          rw [hlater]
          exact hleads
        · refine ⟨node, ?_, hmigrate, hsteady.length_slots hnode⟩
          rw [hlater]
          exact hnode
        · exact hsaved.topo
        · exact hsaved.nodes
        · exact hsaved.updates
        · exact ⟨fun _ hmove ↦ (List.not_mem_nil hmove).elim, trivial⟩
        · exact hsaved.slots
      refine (ensureMigrate_yields hsteady.filled hleads.ne_nil hat).imp fun _ last end_ hend ↦ ?_
      refine ⟨hend.carried, hend.slots, ?_⟩
      obtain ⟨finished, hfinished, hempty, _⟩ := hend.node
      have htidy : Tidy pods end_.nodes last.stsNodes := hend.nodes ▸ hend.tidy
      have hmarks := (marks_matrix hsteady.filled htidy hend.topo).2
      rw [nodeAt_migrate_congr hmarks shard index, hfinished, Option.map_some, hempty]
  exact Method.yields_invoke hpass

end Entries

end KvrocksOperator.Migration
