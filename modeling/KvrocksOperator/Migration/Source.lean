import KvrocksOperator.Cluster.Agreement
import KvrocksOperator.Migration.Pass

/-!
# The source of a migration

`ensureMigrate` numbers the masters of the node matrix and asks the controller to move slots away from the shard with
the number of the first master that has entries.  The number of a master is that of its shard because
`ensureSetNodeID` gives every shard one master, namely the controller's.
-/

namespace KvrocksOperator.Migration

open Interaction Cluster Sequences

namespace Source

/-! ## Requests in order -/

/-- The moves that are asked for; any reply may come back. -/
def logs : Program.Answers operator (List MigrationOption)
  | .http _ (.migrateSlotAndData _ _ move), before, _, after => after = before ++ [move]
  | _, before, _, after => after = before

/-- The moves of the plan are asked for one after the other, each as often as a slot is tried. -/
def Repeats (plan log : List MigrationOption) : Prop :=
  ∃ groups, List.Forall₂ (fun move group ↦ ∃ count, 1 ≤ count ∧ count ≤ slotRetries + 1 ∧
    group = List.replicate count move) plan groups ∧ log = groups.flatten

/-- The first moves of the plan are asked for. -/
def Follows (plan log : List MigrationOption) : Prop := ∃ done, done <+: plan ∧ Repeats done log

theorem repeats_nil : Repeats [] [] := ⟨[], .nil, rfl⟩

variable {log : List MigrationOption}

theorem Repeats.concat {plan : List MigrationOption} (h : Repeats plan log)
    {move : MigrationOption} {count : ℕ} (hpos : 1 ≤ count) (hcount : count ≤ slotRetries + 1) :
    Repeats (plan ++ [move]) (log ++ List.replicate count move) := by
  obtain ⟨groups, hgroups, rfl⟩ := h
  refine ⟨groups ++ [List.replicate count move], List.rel_append hgroups (.cons ⟨count, hpos, hcount, rfl⟩ .nil), ?_⟩
  rw [List.flatten_concat]

theorem Repeats.follows {done plan : List MigrationOption} (h : Repeats done log) (hdone : done <+: plan) :
    Follows plan log := ⟨done, hdone, h⟩

/-- Nothing but the plan is asked for. -/
theorem Follows.subset {plan : List MigrationOption} (h : Follows plan log) : log ⊆ plan := by
  obtain ⟨done, hdone, groups, hgroups, rfl⟩ := h
  apply List.Subset.trans _ hdone.subset
  clear hdone
  induction hgroups with
  | nil => simp
  | cons hgroup _ ih =>
    obtain ⟨count, -, -, rfl⟩ := hgroup
    rw [List.flatten_cons]
    apply List.append_subset.mpr
    refine ⟨fun move hmove ↦ ?_, fun move hmove ↦ List.mem_cons_of_mem _ (ih hmove)⟩
    rw [(List.mem_replicate.mp hmove).2]
    exact List.mem_cons_self

section Requests

variable (client : Controller.Client) {source target : ℤ}

/-- A request is logged, whatever becomes of it. -/
theorem migrateSlotAndData_logged (slot : ℤ) (log : List MigrationOption) :
    (Controller.migrateSlotAndData client source target slot).Yields (.sequential logs)
      (· = log ++ [⟨source, target, slot⟩]) (fun _ final ↦ final = log ++ [⟨source, target, slot⟩]) log := by
  have hsend : (Controller.send client
      (.migrateSlotAndData client.ns client.clusterName ⟨source, target, slot⟩)).Yields (.sequential logs)
      (· = log ++ [⟨source, target, slot⟩]) (fun _ final ↦ final = log ++ [⟨source, target, slot⟩]) log := by
    apply ends_attempt
    intro reply final hanswer
    cases reply with
    | ok response => exact hanswer
    | error error => exact hanswer
  apply hsend.bind
  intro response final hfinal
  split
  · exact ends_throw _ hfinal
  · exact ends_pure hfinal

/-- A move is asked for at least once, and at most once more than it may be tried again. -/
theorem moveSlot_logged (slot : ℤ) (retries : ℕ) (log : List MigrationOption) :
    (moveSlot client source target slot retries).Yields (.sequential logs)
      (fun final ↦ ∃ count, 1 ≤ count ∧ count ≤ retries + 1 ∧
        final = log ++ List.replicate count ⟨source, target, slot⟩)
      (fun _ final ↦ ∃ count, 1 ≤ count ∧ count ≤ retries + 1 ∧
        final = log ++ List.replicate count ⟨source, target, slot⟩) log := by
  have hattempt {fail : List MigrationOption → Prop} (log : List MigrationOption)
      (hfail : fail (log ++ [⟨source, target, slot⟩])) :
      (Controller.migrateSlotAndData client source target slot).handle.Yields (.sequential logs) fail
        (fun _ final ↦ final = log ++ [⟨source, target, slot⟩]) log := by
    apply yields_handle
    apply (migrateSlotAndData_logged client slot log).mono
    · intro final hfinal
      exact ⟨fun _ ↦ hfinal, hfinal ▸ hfail⟩
    · exact fun _ _ hfinal ↦ hfinal
  induction retries generalizing log with
  | zero =>
    apply (hattempt log ⟨1, le_rfl, le_rfl, rfl⟩).bind
    intro result final hfinal
    have hasked : ∃ count, 1 ≤ count ∧ count ≤ 0 + 1 ∧ final = log ++ List.replicate count ⟨source, target, slot⟩ :=
      ⟨1, le_rfl, le_rfl, hfinal⟩
    cases result with
    | ok _ => exact ends_pure hasked
    | error error => exact ends_throw _ hasked
  | succ retries ih =>
    apply (hattempt log ⟨1, le_rfl, by omega, rfl⟩).bind
    intro result final hfinal
    cases result with
    | ok _ => exact ends_pure ⟨1, le_rfl, by omega, hfinal⟩
    | error error =>
      -- one more request in front of those of the remaining attempts
      have hmore (last : List MigrationOption) (hlast : ∃ count, 1 ≤ count ∧ count ≤ retries + 1 ∧
          last = final ++ List.replicate count ⟨source, target, slot⟩) : ∃ count, 1 ≤ count ∧
          count ≤ retries + 1 + 1 ∧ last = log ++ List.replicate count ⟨source, target, slot⟩ := by
        obtain ⟨count, hpos, hcount, rfl⟩ := hlast
        refine ⟨count + 1, by omega, by omega, ?_⟩
        rw [hfinal, List.append_assoc, List.replicate_succ]
        rfl
      exact (ih final).mono hmore fun _ ↦ hmore

end Requests

/-- The loop over the slots of an entry, after a part of the plan. -/
theorem moveSlots_logged (client : Controller.Client) {source target : ℤ} {slots : List ℤ}
    {done plan : List MigrationOption} (hplan : done ++ movesOf source target slots <+: plan)
    (hlog : Repeats done log) :
    (forEach (fun slot ↦ moveSlot client source target slot slotRetries) slots : Go Unit).Yields (.sequential logs)
      (Follows plan) (fun _ final ↦ Repeats (done ++ movesOf source target slots) final) log := by
  refine yields_forEach (fun (front : List ℤ) final ↦ Repeats (done ++ movesOf source target front) final)
    (by simpa [movesOf] using hlog) ?_
  intro front slot back log hslots hfront
  have hnext (final : List MigrationOption) (hfinal : ∃ count, 1 ≤ count ∧ count ≤ slotRetries + 1 ∧
      final = log ++ List.replicate count ⟨source, target, slot⟩) :
      Repeats (done ++ movesOf source target (front ++ [slot])) final := by
    obtain ⟨count, hpos, hcount, rfl⟩ := hfinal
    have hmoves : done ++ movesOf source target (front ++ [slot]) =
        (done ++ movesOf source target front) ++ [⟨source, target, slot⟩] := by
      simp [movesOf]
    rw [hmoves]
    exact hfront.concat hpos hcount
  have hpart : done ++ movesOf source target (front ++ [slot]) <+: plan := by
    apply List.IsPrefix.trans _ hplan
    refine ⟨movesOf source target back, ?_⟩
    rw [hslots]
    simp [movesOf]
  apply (moveSlot_logged client slot slotRetries log).mono
  · exact fun final hfinal ↦ (hnext final hfinal).follows hpart
  · exact fun _ ↦ hnext

/-! ## The entries of a node -/

/-- The slots of every entry are in order, as a write of the topology leaves them. -/
def Sorted (entries : List Kvrocks.MigrateMsg) : Prop := ∀ entry ∈ entries, Kvrocks.sortInts entry.slots = entry.slots

/-- So many entries of a node are done, and the rest is still on it. -/
structure At (source : ℤ) (shard index : ℕ) (entries : List Kvrocks.MigrateMsg) (count : ℕ) (h : Handler)
    (log : List MigrationOption) : Prop where
  node : ∃ node, nodeAt h.stsNodes shard index = some node ∧ node.migrate = entries.drop count
  log : Repeats (requestsOf source (entries.take count)) log

section Entries

variable {source : ℤ} {shard index count : ℕ} {entries : List Kvrocks.MigrateMsg} {h : Handler}
  {log : List MigrationOption}

theorem At.follows (hat : At source shard index entries count h log) : Follows (requestsOf source entries) log := by
  apply hat.log.follows
  refine ⟨requestsOf source (entries.drop count), ?_⟩
  rw [← requestsOf_append, List.take_append_drop]

theorem requestsOf_take_succ {entry : Kvrocks.MigrateMsg} {rest : List Kvrocks.MigrateMsg}
    (hentry : entries.drop count = entry :: rest) :
    requestsOf source (entries.take (count + 1)) =
      requestsOf source (entries.take count) ++ movesOf source entry.shard entry.slots := by
  have hget : entries[count]? = some entry := by
    rw [← List.head?_drop, hentry]
    rfl
  rw [List.take_add_one, hget, requestsOf_append, Option.toList_some, requestsOf_cons]
  exact congrArg _ (List.append_nil _)

/-- Taking an entry off and writing the topology leaves the others. -/
theorem migrate_dropped {node : Node} (hsorted : Sorted entries)
    (hmigrate : node.migrate = entries.drop count) (moved : ℕ) :
    (sortSlots (withoutEntry moved node)).migrate = entries.drop (count + 1) := by
  have htail : node.migrate.tail = entries.drop (count + 1) := by rw [hmigrate, List.tail_drop]
  have hkept (other : Kvrocks.MigrateMsg) (hother : other ∈ entries.drop (count + 1)) :
      { other with slots := Kvrocks.sortInts other.slots } = other := by
    rw [hsorted other (List.mem_of_mem_drop hother)]
  calc (sortSlots (withoutEntry moved node)).migrate
    _ = node.migrate.tail.map fun other ↦ { other with slots := Kvrocks.sortInts other.slots } := rfl
    _ = (entries.drop (count + 1)).map id := by
      rw [htail]
      exact List.map_congr_left hkept
    _ = entries.drop (count + 1) := List.map_id _

/-- One turn of the loop over the entries. -/
theorem reBalanceEntry_logged (hsorted : Sorted entries) (hat : At source shard index entries count h log) :
    (reBalanceEntry source shard index).Yields (.sequential logs) (Follows (requestsOf source entries))
      (fun _ later final ↦ At source shard index entries (count + 1) later final) h log := by
  obtain ⟨node, hnode, hmigrate⟩ := hat.node
  apply ends_get_bind
  have hlookup : (h.stsNodes[shard]?.bind (·[index]?)).bind (·.migrate.head?) = (entries.drop count).head? := by
    change (nodeAt h.stsNodes shard index).bind (·.migrate.head?) = _
    rw [hnode, Option.bind_some, hmigrate]
  rw [hlookup]
  cases hentry : entries.drop count with
  | nil =>
    have hpanic : (Fallible.ofOption none : Go Kvrocks.MigrateMsg).Yields (.sequential logs)
        (Follows (requestsOf source entries)) (fun _ _ ↦ False) log := ends_panic hat.follows
    apply ends_lift_bind hpanic
    exact fun _ _ hfalse ↦ hfalse.elim
  | cons entry rest =>
    have hplan : requestsOf source (entries.take count) ++ movesOf source entry.shard entry.slots <+:
        requestsOf source entries := by
      rw [← requestsOf_take_succ hentry]
      refine ⟨requestsOf source (entries.drop (count + 1)), ?_⟩
      rw [← requestsOf_append, List.take_append_drop]
    apply Method.ends_some_bind
    apply ends_lift_bind (moveSlots_logged h.controllerClient hplan hat.log)
    intro _ final hfinal
    have hstopped := hfinal.follows hplan
    have hdrop : (dropEntry shard index entry.slots.length).Yields (.sequential logs)
        (Follows (requestsOf source entries)) (fun _ later last ↦ last = final ∧
          later = { h with stsNodes := modifyNode shard index (withoutEntry entry.slots.length) h.stsNodes })
        h final := by
      apply ends_get_bind
      change (Method.lift (Fallible.ofOption (nodeAt h.stsNodes shard index)) >>= _).Yields _ _ _ _ _
      rw [hnode]
      apply Method.ends_some_bind
      split
      · exact Method.ends_lift (ends_panic hstopped)
      · exact ends_modify ⟨rfl, rfl⟩
    apply hdrop.bind
    intro _ later last hlast
    obtain ⟨rfl, rfl⟩ := hlast
    apply ensureStatusTopoMsg_yields
    intro reply final hanswer
    have hsame : final = last := hanswer
    rw [hsame]
    cases reply with
    | error error => exact hstopped
    | ok version =>
      constructor
      · refine ⟨sortSlots (withoutEntry entry.slots.length node), ?_, migrate_dropped hsorted hmigrate _⟩
        change nodeAt ((modifyNode _ _ _ _).map _) _ _ = _
        rw [nodeAt_map, nodeAt_modifyNode, hnode]
        rfl
      · rw [requestsOf_take_succ hentry]
        exact hfinal

theorem ensureReBalanceTopo_logged (hsorted : Sorted entries) (hat : At source shard index entries 0 h log) :
    (ensureReBalanceTopo source shard index entries).Yields (.sequential logs)
      (Follows (requestsOf source entries)) (fun _ _ ↦ Follows (requestsOf source entries)) h log := by
  have hloop : (forEach (fun _ : Kvrocks.MigrateMsg ↦ reBalanceEntry source shard index) entries).Yields
      (.sequential logs) (Follows (requestsOf source entries))
      (fun _ later final ↦ At source shard index entries ([] ++ entries).length later final) h log := by
    refine Method.yields_forEach_from (fun front later final ↦ At source shard index entries front.length later final)
      [] entries hat fun front entry state world hfront ↦ ?_
    rw [List.length_append, List.length_singleton]
    exact reBalanceEntry_logged hsorted hfront
  exact hloop.imp fun _ _ _ hlast ↦ hlast.follows

end Entries

/-! ## The masters -/

section Masters

variable {matrix : Matrix}

/-- Every shard has one master. -/
def OneEach (matrix : Matrix) : Prop := ∀ nodes ∈ matrix, nodes.countP (fun node ↦ node.role = .master) = 1

/-- The masters of a shard all have its number. -/
theorem shards_filterMap (nodes : List Node) (shard : ℕ) :
    (nodes.zipIdx.filterMap fun (node, index) ↦ if node.role = .master then some (node, shard, index) else none).map
      (fun entry ↦ entry.2.1) = List.replicate (nodes.countP fun node ↦ node.role = .master) shard := by
  apply List.eq_replicate_iff.mpr
  constructor
  · rw [List.length_map, List.length_filterMap_eq_countP, ← countP_zipIdx nodes]
    apply List.countP_congr
    intro entry hentry
    by_cases hmaster : entry.1.role = .master
    · simp [hmaster]
    · simp [hmaster]
  · intro number hnumber
    obtain ⟨entry, hentry, rfl⟩ := List.mem_map.mp hnumber
    obtain ⟨place, hplace, hsome⟩ := List.mem_filterMap.mp hentry
    obtain ⟨hrole, hsame⟩ := Option.ite_none_right_eq_some.mp hsome
    rw [← Option.some.inj hsame]

/-- With one master in each shard, the masters are numbered as their shards. -/
theorem shards_masters (hone : OneEach matrix) :
    (masters matrix).map (fun entry ↦ entry.2.1) = List.range matrix.length := by
  calc (masters matrix).map (fun entry ↦ entry.2.1)
    _ = matrix.zipIdx.flatMap fun entry ↦ List.replicate (entry.1.countP fun node ↦ node.role = .master) entry.2 := by
      rw [masters, List.map_flatMap]
      exact congrArg (matrix.zipIdx.flatMap ·) (funext fun entry ↦ shards_filterMap entry.1 entry.2)
    _ = matrix.zipIdx.flatMap fun entry ↦ [entry.2] := by
      apply List.flatMap_congr
      intro entry hentry
      rw [hone entry.1 (List.fst_mem_of_mem_zipIdx hentry)]
      rfl
    _ = matrix.zipIdx.map Prod.snd := (List.map_eq_flatMap ..).symm
    _ = List.range matrix.length := by rw [List.zipIdx_map_snd, List.range_eq_range']

/-- The node at a position is the master of the first shard whose master has entries. -/
structure First (matrix : Matrix) (shard index : ℕ) (node : Node) : Prop where
  place : nodeAt matrix shard index = some node
  role : node.role = .master
  entries : node.migrate ≠ []
  earlier : ∀ shard' < shard, ∀ index' other, nodeAt matrix shard' index' = some other → other.role = .master →
    other.migrate = []

/-- The master that is found has the number of its shard, and no earlier shard has a master with entries. -/
theorem first_of_find (hone : OneEach matrix) {node : Node} {shard index source : ℕ}
    (hfind : (masters matrix).zipIdx.find? (fun ((node, _, _), _) ↦ node.migrate ≠ []) =
      some ((node, shard, index), source)) :
    source = shard ∧ First matrix shard index node := by
  obtain ⟨hentries, position, hposition, hfound, hbefore⟩ := List.find?_eq_some_iff_getElem.mp hfind
  -- the master at a position of the flattened list belongs to the shard with that number
  have hnumber (number : ℕ) (entry : Node × ℕ × ℕ) (hentry : (masters matrix)[number]? = some entry) :
      entry.2.1 = number := by
    have hmapped : ((masters matrix).map (fun entry ↦ entry.2.1))[number]? = some entry.2.1 := by
      rw [List.getElem?_map, hentry]
      rfl
    rw [shards_masters hone] at hmapped
    obtain ⟨_, hget⟩ := List.getElem?_eq_some_iff.mp hmapped
    rw [← hget, List.getElem_range]
  have hplace : (masters matrix)[position]? = some (node, shard, index) ∧ source = position := by
    rw [List.getElem_zipIdx, Prod.mk.injEq] at hfound
    refine ⟨List.getElem?_eq_some_iff.mpr ⟨?_, hfound.1⟩, ?_⟩
    · rwa [List.length_zipIdx] at hposition
    · rw [← hfound.2, Nat.zero_add]
  have hshard : shard = position := hnumber position _ hplace.1
  obtain ⟨hnode, hrole⟩ := mem_masters.mp (List.mem_of_getElem? hplace.1)
  refine ⟨hplace.2.trans hshard.symm, hnode, hrole, by simpa using hentries, ?_⟩
  intro shard' hlt index' other hother hmaster
  obtain ⟨number, hentry⟩ := List.mem_iff_getElem?.mp (mem_masters.mpr ⟨hother, hmaster⟩)
  have hsame : shard' = number := hnumber number _ hentry
  have hearlier := hbefore number (by omega)
  obtain ⟨_, hget⟩ := List.getElem?_eq_some_iff.mp hentry
  rw [List.getElem_zipIdx, hget] at hearlier
  simpa using hearlier

end Masters

/-- The moves that a pass asks for come from the first shard whose master has entries, in their order. -/
structure Issued (matrix : Matrix) (log : List MigrationOption) : Prop where
  carried : ∀ move ∈ log, ∃ (shard index : ℕ) (node : Node), nodeAt matrix shard index = some node ∧
    ∃ entry ∈ node.migrate, ∃ slot ∈ entry.slots, move = ⟨shard, entry.shard, slot⟩
  ordered : log = [] ∨ ∃ (shard index : ℕ) (node : Node), First matrix shard index node ∧
    Follows (requestsOf shard node.migrate) log

theorem issued_nil (matrix : Matrix) : Issued matrix [] := ⟨nofun, .inl rfl⟩

theorem First.issued {matrix : Matrix} {shard index : ℕ} {node : Node}
    (h : First matrix shard index node) (hlog : Follows (requestsOf shard node.migrate) log) : Issued matrix log where
  carried := fun _ hmove ↦ ⟨shard, index, node, h.place, mem_requestsOf.mp (hlog.subset hmove)⟩
  ordered := .inr ⟨shard, index, node, h, hlog⟩

/-- What `ensureMigrate` asks for, whether or not it gets to its end. -/
theorem ensureMigrate_logged {h : Handler} (hone : OneEach h.stsNodes)
    (hsorted : ∀ nodes ∈ h.stsNodes, ∀ node ∈ nodes, Sorted node.migrate) :
    ensureMigrate.Yields (.sequential logs) (Issued h.stsNodes) (fun _ _ ↦ Issued h.stsNodes) h [] := by
  apply ends_get_bind
  cases hfind : (masters h.stsNodes).zipIdx.find? (fun ((node, _, _), _) ↦ node.migrate ≠ []) with
  | none =>
    apply ensureStatusTopoMsg_yields
    intro reply final hanswer
    have hsame : final = [] := hanswer
    rw [hsame]
    cases reply with
    | error error => exact issued_nil _
    | ok version => exact issued_nil _
  | some found =>
    obtain ⟨⟨node, shard, index⟩, source⟩ := found
    obtain ⟨rfl, hfirst⟩ := first_of_find hone hfind
    have hmember : Sorted node.migrate := by
      obtain ⟨nodes, hnodes, hnode⟩ := Option.bind_eq_some_iff.mp hfirst.place
      exact hsorted nodes (List.mem_of_getElem? hnodes) node (List.mem_of_getElem? hnode)
    apply ends_modify_bind
    have hat : At source source index node.migrate 0 { h with requeue := true } [] :=
      ⟨⟨node, hfirst.place, rfl⟩, repeats_nil⟩
    apply (ensureReBalanceTopo_logged hmember hat).mono
    · exact fun _ ↦ hfirst.issued
    · exact fun _ _ _ ↦ hfirst.issued

/-! ## After the status phase -/

section Settled

variable {h : Handler} {replicated stsNodes : Matrix} {final : Agreement.World}

/-- The matrix has the masters of the controller. -/
theorem oneEach_settled (hsettled : Agreement.Settled h replicated stsNodes final)
    (hips : ∀ nodes ∈ h.stsNodes, (wantedIps nodes).Nodup)
    (hmasters : ∀ shard ∈ final.store.shards h.controllerClient.clusterKey, Agreement.OneMaster shard) :
    OneEach stsNodes := by
  intro nodes hnodes
  obtain ⟨index, hindex⟩ := List.mem_iff_getElem?.mp hnodes
  have hlt : index < replicated.length := by
    rw [← hsettled.length]
    exact (List.getElem?_eq_some_iff.mp hindex).1
  have hmembers := List.getElem?_eq_getElem hlt
  obtain ⟨shard, hshard, himage, -⟩ := hsettled.identified index _ hmembers
  obtain ⟨wanted, hwanted, hstubs⟩ := getElem?_of_map_eq hsettled.stubs.symm hmembers
  have hdistinct : (wantedIps replicated[index]).Nodup := by
    rw [← Agreement.wantedIps_of_stubs hstubs]
    exact hips wanted (List.mem_of_getElem? hwanted)
  rw [hindex, Option.some.injEq] at himage
  rw [himage, List.countP_map]
  exact Agreement.countP_master (hmasters shard (List.mem_of_getElem? hshard)) hdistinct
    (hsettled.converged.shardIps_eq hsettled.wellKept hshard hmembers)

theorem oneEach_sortSlots (hone : OneEach stsNodes) : OneEach (stsNodes.map (·.map sortSlots)) := by
  intro nodes hnodes
  obtain ⟨members, hmembers, rfl⟩ := List.mem_map.mp hnodes
  rw [List.countP_map]
  exact hone members hmembers

theorem sorted_sortSlots (node : Node) : Sorted (sortSlots node).migrate := by
  intro entry hentry
  obtain ⟨other, -, rfl⟩ := List.mem_map.mp hentry
  exact Kvrocks.sortInts_sortInts other.slots

end Settled

/-- The moves that `ensureMigrate` asks for after an `ensureKVRocksStatus` that returns nil, if the controller then
has one master in every shard. -/
theorem ensureMigrate_moves_from_own_shard {h later : Handler} {world mid : Agreement.World}
    (hrunning : h.instance_.status.status = .running) (hordinals : Agreement.Ordinals h.stsNodes)
    (hips : ∀ nodes ∈ h.stsNodes, (wantedIps nodes).Nodup) (hfree : ColonFree h.stsNodes)
    (hkept : WellKept (world.store.shards h.controllerClient.clusterKey))
    (hpass : Exec Agreement.Answers (ensureKVRocksStatus.on h) world (.ok (), later) mid)
    (hmasters : ∀ shard ∈ mid.store.shards h.controllerClient.clusterKey, Agreement.OneMaster shard)
    {outcome : Outcome GoError Unit × Handler} {log : List MigrationOption}
    (hmigrate : Exec logs (ensureMigrate.on later) [] outcome log) : Issued later.stsNodes log := by
  obtain ⟨replicated, stsNodes, hsettled, hlater⟩ :=
    (Agreement.ensureKVRocksStatus_yields hrunning hordinals hfree hkept).exec hpass
  have hone : OneEach later.stsNodes := by
    rw [hlater]
    exact oneEach_sortSlots (oneEach_settled hsettled hips hmasters)
  have hsorted (nodes : List Node) (hnodes : nodes ∈ later.stsNodes) (node : Node)
      (hnode : node ∈ nodes) : Sorted node.migrate := by
    rw [hlater] at hnodes
    obtain ⟨members, -, rfl⟩ := List.mem_map.mp hnodes
    obtain ⟨member, -, rfl⟩ := List.mem_map.mp hnode
    exact sorted_sortSlots member
  have hends := (ensureMigrate_logged hone hsorted).exec hmigrate
  obtain ⟨result, last⟩ := outcome
  cases result with
  | ok _ => exact hends
  | err _ => exact hends
  | panic => exact hends

/-! ## A shard that gives slots away -/

/-- Two shards of one pod; the second one gives slots to the first. -/
def giving : Handler :=
  { Agreement.outdated with
    stsNodes := [[Kvrocks.Node.fresh "10.0.0.1" 0],
      [{ Kvrocks.Node.fresh "10.0.0.2" 0 with migrate := [⟨0, [7, 5]⟩] }]] }

/-- The controller has these nodes in the first shard, and the master of the second. -/
def worldOf (nodes : List Controller.Node) : Agreement.World :=
  { Agreement.leftover with
    store :=
      { shards := fun _ ↦ [⟨nodes, ["0-3"]⟩, ⟨[⟨"b", "10.0.0.2:6379", .master⟩], ["4-7"]⟩], requests := [] } }

/-- The moves are accepted, and the topology is written. -/
def accept : (request : Call) → List MigrationOption → Option (request.Reply × List MigrationOption)
  | .http _ (.migrateSlotAndData _ _ move), log => some (.ok ⟨statusOK, .ok ()⟩, log ++ [move])
  | .updateKVRocks instance_, log => some (.ok (instance_.resourceVersion + 1), log)
  | _, _ => none

theorem accept_logs (request : Call) (log : List MigrationOption)
    (answer : request.Reply × List MigrationOption) (h : accept request log = some answer) :
    logs request log answer.1 answer.2 := by
  cases request with
  | http endPoint request =>
    cases request with
    | migrateSlotAndData ns cluster move =>
      cases h
      rfl
    | _ => cases h
  | updateKVRocks instance_ =>
    cases h
    rfl
  | _ => cases h

/-- The shards of the controller and the entries of the nodes after the status phase, and the moves of the migration. -/
def moved (nodes : List Controller.Node) :
    Option (List ShardData × List (List (List Kvrocks.MigrateMsg)) × List MigrationOption) := do
  let (result, mid) ← (ensureKVRocksStatus.on giving).tryRun Agreement.serve (worldOf nodes)
  if result.1 = .ok () then
    let (_, log) ← (ensureMigrate.on result.2).tryRun accept []
    some (mid.store.shards giving.controllerClient.clusterKey, result.2.stsNodes.map (·.map (·.migrate)), log)
  else none

theorem exec_of_moved {nodes : List Controller.Node} {shards : List ShardData}
    {entries : List (List (List Kvrocks.MigrateMsg))} (h : moved nodes = some (shards, entries, log)) :
    ∃ later mid outcome, Exec Agreement.Answers (ensureKVRocksStatus.on giving) (worldOf nodes)
        (.ok (), later) mid ∧ mid.store.shards giving.controllerClient.clusterKey = shards ∧
      later.stsNodes.map (·.map (·.migrate)) = entries ∧ Exec logs (ensureMigrate.on later) [] outcome log := by
  obtain ⟨⟨⟨result, later⟩, mid⟩, hstatus, hrest⟩ := Option.bind_eq_some_iff.mp h
  obtain ⟨hok, hrest⟩ := Option.ite_none_right_eq_some.mp hrest
  obtain ⟨⟨outcome, final⟩, hmigrate, hsome⟩ := Option.bind_eq_some_iff.mp hrest
  have hresult : result = .ok () := hok
  cases hsome
  rw [hresult] at hstatus
  exact ⟨later, mid, outcome, exec_tryRun Agreement.serve_answers hstatus, rfl, rfl, exec_tryRun accept_logs hmigrate⟩

theorem wellKept_single (first second : Controller.Node) (hfirst : ∃ ip, HasIp first ip)
    (hsecond : ∃ ip, HasIp second ip) : WellKept [⟨[first], ["0-3"]⟩, ⟨[second], ["4-7"]⟩] := by
  intro index shard hshard
  have hmember := List.mem_of_getElem? hshard
  rw [List.mem_pair] at hmember
  apply hmember.elim
  · rintro rfl
    exact ⟨List.nodup_singleton _, List.forall_mem_singleton.mpr hfirst⟩
  · rintro rfl
    exact ⟨List.nodup_singleton _, List.forall_mem_singleton.mpr hsecond⟩

theorem oneMaster_single {node : Controller.Node} (hrole : node.role = .master) (ranges : List String) :
    Agreement.OneMaster ⟨[node], ranges⟩ where
  master := ⟨node, ⟨List.mem_singleton_self node, hrole⟩, fun _ hother ↦ List.mem_singleton.mp hother.1⟩
  ips := List.nodup_singleton _

/-- The master of the second shard is asked for its slots in their order. -/
theorem second_shard_gives : ∃ later mid outcome, Exec Agreement.Answers (ensureKVRocksStatus.on giving)
        (worldOf [⟨"a", "10.0.0.1:6379", .master⟩]) (.ok (), later) mid ∧
      Exec logs (ensureMigrate.on later) [] outcome [⟨1, 0, 5⟩, ⟨1, 0, 7⟩] ∧
      Issued later.stsNodes [⟨1, 0, 5⟩, ⟨1, 0, 7⟩] := by
  have hmoved : moved [⟨"a", "10.0.0.1:6379", .master⟩] =
      some ([⟨[⟨"a", "10.0.0.1:6379", .master⟩], ["0-3"]⟩, ⟨[⟨"b", "10.0.0.2:6379", .master⟩], ["4-7"]⟩],
        [[[]], [[⟨0, [5, 7]⟩]]], [⟨1, 0, 5⟩, ⟨1, 0, 7⟩]) := by decide
  obtain ⟨later, mid, outcome, hstatus, hshards, -, hmigrate⟩ := exec_of_moved hmoved
  refine ⟨later, mid, outcome, hstatus, hmigrate, ?_⟩
  refine ensureMigrate_moves_from_own_shard rfl ?_ (by decide) ?_ ?_ hstatus ?_ hmigrate
  · unfold Agreement.Ordinals
    decide
  · unfold ColonFree
    decide
  · exact wellKept_single _ _ ⟨"10.0.0.1", by decide, "6379", rfl⟩ ⟨"10.0.0.2", by decide, "6379", rfl⟩
  · rw [hshards]
    intro shard hshard
    rw [List.mem_pair] at hshard
    apply hshard.elim
    · rintro rfl
      exact oneMaster_single rfl _
    · rintro rfl
      exact oneMaster_single rfl _

/-- A node of the controller with the address of the master but another port stands before it, and the pod is taken
for a slave: the second shard has the first master, and the first shard is asked for its slots. -/
theorem not_always_from_own_shard : ∃ later mid outcome, Exec Agreement.Answers (ensureKVRocksStatus.on giving)
        (worldOf [⟨"x", "10.0.0.1:7000", .slave⟩, ⟨"a", "10.0.0.1:6379", .master⟩]) (.ok (), later) mid ∧
      (∀ shard ∈ mid.store.shards giving.controllerClient.clusterKey,
        shard.nodes.countP (fun node ↦ node.role = .master) = 1) ∧
      Exec logs (ensureMigrate.on later) [] outcome [⟨0, 0, 5⟩, ⟨0, 0, 7⟩] ∧
      ¬ Issued later.stsNodes [⟨0, 0, 5⟩, ⟨0, 0, 7⟩] := by
  have hmoved : moved [⟨"x", "10.0.0.1:7000", .slave⟩, ⟨"a", "10.0.0.1:6379", .master⟩] =
      some ([⟨[⟨"x", "10.0.0.1:7000", .slave⟩, ⟨"a", "10.0.0.1:6379", .master⟩], ["0-3"]⟩,
        ⟨[⟨"b", "10.0.0.2:6379", .master⟩], ["4-7"]⟩],
        [[[]], [[⟨0, [5, 7]⟩]]], [⟨0, 0, 5⟩, ⟨0, 0, 7⟩]) := by decide
  obtain ⟨later, mid, outcome, hstatus, hshards, hentries, hmigrate⟩ := exec_of_moved hmoved
  refine ⟨later, mid, outcome, hstatus, ?_, hmigrate, fun hissued ↦ ?_⟩
  · rw [hshards]
    decide
  · -- the node of the first shard has no entries
    obtain ⟨shard, index, node, hnode, entry, hentry, slot, hslot, hmove⟩ := hissued.carried _ List.mem_cons_self
    have hshard : shard = 0 := by
      injection hmove with hsource
      exact_mod_cast hsource.symm
    obtain ⟨members, hmembers, hplace⟩ := Option.bind_eq_some_iff.mp hnode
    have hrow : [[]] = members.map (·.migrate) := by
      have hmapped : (later.stsNodes.map (·.map (·.migrate)))[shard]? = some (members.map (·.migrate)) := by
        rw [List.getElem?_map, hmembers]
        rfl
      rw [hentries, hshard] at hmapped
      exact Option.some.inj hmapped
    have hempty : node.migrate ∈ [[]] := by
      rw [hrow]
      exact List.mem_map_of_mem (List.mem_of_getElem? hplace)
    rw [List.mem_singleton.mp hempty] at hentry
    exact List.not_mem_nil hentry

end Source

end KvrocksOperator.Migration
