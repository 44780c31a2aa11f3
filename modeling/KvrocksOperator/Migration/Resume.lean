import KvrocksOperator.Migration.Pass

/-!
# Resuming a slot migration

Passes that fail leave the entry they were at in the status, whatever the controller has done of it.  A later pass
asks for all slots of that entry again, and the controller refuses those that have been moved.  So a migration goes on
after a failure exactly if the failed pass had moved no slot of the entry.
-/

namespace KvrocksOperator.Migration

open Interaction Cluster

/-- The entries of the node at a position when a pass begins to migrate. -/
def World.entries (pods : Matrix) (shard index : ℕ) (world : World) : List Kvrocks.MigrateMsg :=
  ((nodeAt (world.matrix pods) shard index).map (·.migrate)).getD []

/-- Passes that fail one after the other, each with the world it began in and what went wrong. -/
inductive FailedPasses (pods : Matrix) : World → List (World × Option Fault) → World → Prop where
  | nil (world : World) : FailedPasses pods world [] world
  | cons {world final : World} {fault : Option Fault} {rest : List (World × Option Fault)}
      {error : GoError} (hfail : (runPass pods fault world).1 = .err error)
      (hrest : FailedPasses pods (runPass pods fault world).2 rest final) :
      FailedPasses pods world ((world, fault) :: rest) final

/-- A pass in which nothing goes wrong carries out the remaining entries, and no slot has been asked for that had
already been moved. -/
structure Resumes (pods : Matrix) (shard index : ℕ) (world : World) : Prop where
  succeeds : (runPass pods none world).1 = .ok ()
  completes : (nodeAt ((runPass pods none world).2.matrix pods) shard index).map (·.migrate) = some []
  noRepeat : (runPass pods none world).2.slots.NoRepeat

/-- Every slot is asked for once, belongs to the source shard and goes to another one. -/
structure Movable (source : ℤ) (entries : List Kvrocks.MigrateMsg) (slots : Slots) : Prop where
  distinct : (entries.flatMap (·.slots)).Nodup
  owned : ∀ entry ∈ entries, ∀ slot ∈ entry.slots, slot ∈ slots.owned source
  elsewhere : ∀ entry ∈ entries, entry.slots ≠ [] → entry.shard ≠ source

/-- What goes wrong in a pass happens before any slot of the current entry has been moved. -/
def Harmless (pods : Matrix) (shard index : ℕ) (world : World) : Option Fault → Prop
  | none => True
  | some (.refusal slot) => ∃ entry ∈ world.entries pods shard index, entry.slots.head? = some slot
  | some (.statusUpdate 0) => True
  | some (.statusUpdate (number + 1)) =>
    ∀ entry, (world.entries pods shard index)[number]? = some entry → entry.slots = []

/-! ## Moves of entries -/

theorem slots_requestsOf (source : ℤ) (entries : List Kvrocks.MigrateMsg) :
    (requestsOf source entries).map (·.slot) = entries.flatMap (·.slots) := by
  unfold requestsOf movesOf
  rw [List.map_flatMap]
  congr 1
  funext entry
  rw [List.map_map]
  exact List.map_id _

/-- The controller carries out the moves of entries exactly if they are movable. -/
theorem movable_iff {source : ℤ} {entries : List Kvrocks.MigrateMsg} {slots : Slots} :
    Movable source entries slots ↔ slots.AcceptsAll (requestsOf source entries) := by
  rw [Slots.acceptsAll_iff fun _ ↦ source_of_mem_requestsOf, slots_requestsOf]
  constructor
  · intro hmovable
    refine ⟨hmovable.distinct, fun move hmove ↦ ?_⟩
    obtain ⟨entry, hentry, slot, hslot, rfl⟩ := mem_requestsOf.mp hmove
    exact ⟨hmovable.owned entry hentry slot hslot, hmovable.elsewhere entry hentry (List.ne_nil_of_mem hslot)⟩
  · rintro ⟨hdistinct, haccepts⟩
    refine ⟨hdistinct, fun entry hentry slot hslot ↦ ?_, fun entry hentry hne ↦ ?_⟩
    · exact (haccepts _ (mem_requestsOf.mpr ⟨entry, hentry, slot, hslot, rfl⟩)).1
    · obtain ⟨slot, hslot⟩ := List.exists_mem_of_ne_nil _ hne
      exact (haccepts _ (mem_requestsOf.mpr ⟨entry, hentry, slot, hslot, rfl⟩)).2

variable {entry : Kvrocks.MigrateMsg}

/-- A slot that is the first of one entry stands nowhere else when all slots are distinct. -/
theorem front_eq_nil_of_head {finished rest : List Kvrocks.MigrateMsg} {other : Kvrocks.MigrateMsg}
    {front back : List ℤ} {slot : ℤ} (hdistinct : ((finished ++ entry :: rest).flatMap (·.slots)).Nodup)
    (hsplit : entry.slots = front ++ slot :: back) (hother : other ∈ finished ++ entry :: rest)
    (hhead : other.slots.head? = some slot) : front = [] := by
  have hslot : slot ∈ entry.slots := by
    rw [hsplit]
    exact List.mem_append_right front List.mem_cons_self
  have hmem : slot ∈ other.slots := List.mem_of_head? hhead
  rw [List.flatMap_append, List.flatMap_cons, List.nodup_append, List.nodup_append] at hdistinct
  obtain ⟨_, ⟨hentry, _, hrest⟩, hfinished⟩ := hdistinct
  rcases List.mem_append.mp hother with hbefore | hafter
  · have hin : slot ∈ finished.flatMap (·.slots) := List.mem_flatMap.mpr ⟨other, hbefore, hmem⟩
    exact absurd rfl (hfinished slot hin slot (List.mem_append_left _ hslot))
  · rcases List.mem_cons.mp hafter with rfl | hlater
    · cases front with
      | nil => rfl
      | cons first front =>
        rw [hsplit] at hhead hentry
        have hfirst : first = slot := by simpa using hhead
        rw [hfirst, List.cons_append, List.nodup_cons] at hentry
        exact absurd (List.mem_append_right front List.mem_cons_self) hentry.1
    · have hin : slot ∈ rest.flatMap (·.slots) := List.mem_flatMap.mpr ⟨other, hlater, hmem⟩
      exact absurd rfl (hrest slot hslot slot hin)

/-! ## One failed pass -/

section Step

variable {pods : Matrix} {shard index : ℕ} {entries : List Kvrocks.MigrateMsg}
  {before after : World} {fault : Option Fault}

theorem Leads.entries_eq (hleads : Leads (before.matrix pods) shard index entries) :
    before.entries pods shard index = entries := by
  obtain ⟨node, hnode, hmigrate⟩ := hleads.node
  unfold World.entries
  rw [hnode, Option.map_some, Option.getD_some, hmigrate]

/-- The state after a failed pass is one from which another pass can begin. -/
theorem Remains.steady (hremains : Remains pods shard index entries before after)
    (hsteady : Steady pods shard index before) (howned : after.slots.owned shard ⊆ before.slots.owned shard) :
    Steady pods shard index after := by
  refine ⟨hsteady.filled, hsteady.bare, hremains.fits, ?_, ?_, ?_⟩
  · rw [hremains.nodes]
    exact hsteady.mastered
  · rw [hremains.nodes]
    exact hsteady.known
  · exact fun slot hslot ↦ hsteady.slots slot (howned hslot)

/-- The rest of a migration after a failed pass: it can be carried out if the whole could and the failure was
harmless, and then none of its slots has been moved. -/
structure Goes (pods : Matrix) (shard index : ℕ) (entries : List Kvrocks.MigrateMsg)
    (fault : Option Fault) (before after : World) (rest : List Kvrocks.MigrateMsg) : Prop where
  steady : Steady pods shard index after
  leads : Leads (after.matrix pods) shard index rest
  accepts : after.slots.AcceptsAll (requestsOf shard rest) ↔
    before.slots.AcceptsAll (requestsOf shard entries) ∧ Harmless pods shard index before fault
  pending : after.slots.AcceptsAll (requestsOf shard rest) → before.slots.NoRepeat →
    before.slots.Pending (requestsOf shard entries) →
    after.slots.NoRepeat ∧ after.slots.Pending (requestsOf shard rest)

/-- A pass that stops at the first move of an entry, or before it. -/
theorem goes_of_refusal {finished rest : List Kvrocks.MigrateMsg} {front back : List ℤ} {slot : ℤ} {attempts : ℕ}
    (hsteady : Steady pods shard index before) (hleads : Leads (before.matrix pods) shard index entries)
    (hentries : entries = finished ++ entry :: rest) (hsplit : entry.slots = front ++ slot :: back)
    (hcarried : CarriedAll fault before.slots (requestsOf shard finished ++ movesOf shard entry.shard front))
    (hrefused : ¬ Carried fault (before.slots.movedAll (requestsOf shard finished ++ movesOf shard entry.shard front))
      ⟨shard, entry.shard, slot⟩)
    (hslots : after.slots = (before.slots.movedAll
      (requestsOf shard finished ++ movesOf shard entry.shard front)).refused ⟨shard, entry.shard, slot⟩ attempts)
    (hremains : Remains pods shard index (entry :: rest) before after) :
    Goes pods shard index entries fault before after (entry :: rest) := by
  have howned : after.slots.owned = (before.slots.movedAll
      (requestsOf shard finished ++ movesOf shard entry.shard front)).owned := by
    rw [hslots]
    rfl
  have hsource : ∀ move ∈ requestsOf shard finished ++ movesOf shard entry.shard front, move.source = shard := by
    intro move hmove
    rcases List.mem_append.mp hmove with hdone | hfront
    · exact source_of_mem_requestsOf hdone
    · exact source_of_mem_movesOf hfront
  have hmoves : requestsOf shard (entry :: rest) = movesOf shard entry.shard front ++
      ⟨shard, entry.shard, slot⟩ :: (movesOf shard entry.shard back ++ requestsOf shard rest) := by
    rw [requestsOf_cons, hsplit]
    unfold movesOf
    rw [List.map_append, List.map_cons, List.append_assoc, List.cons_append]
  have hall : before.slots.AcceptsAll (requestsOf shard entries) ↔
      (before.slots.movedAll (requestsOf shard finished)).AcceptsAll (requestsOf shard (entry :: rest)) := by
    rw [hentries, requestsOf_append, Slots.acceptsAll_append]
    exact and_iff_right (Slots.acceptsAll_append.mp hcarried.2).1
  -- when the moves would all be carried out, only the fault can have refused the slot
  have hfault : before.slots.AcceptsAll (requestsOf shard entries) → fault = some (.refusal slot) := by
    intro haccepts
    by_contra hother
    rw [hall, hmoves, Slots.acceptsAll_append, ← Slots.movedAll_append] at haccepts
    exact hrefused ⟨hother, haccepts.2.1⟩
  have hfront : after.slots.AcceptsAll (requestsOf shard (entry :: rest)) → front = [] := by
    intro haccepts
    by_contra hne
    rw [Slots.acceptsAll_congr howned, Slots.movedAll_append, hmoves] at haccepts
    exact Slots.not_acceptsAll_of_moved (fun hnil ↦ hne (List.map_eq_nil_iff.mp hnil))
      (fun move hmove ↦ source_of_mem_movesOf hmove) haccepts
  have hafter : front = [] → (after.slots.AcceptsAll (requestsOf shard (entry :: rest)) ↔
      before.slots.AcceptsAll (requestsOf shard entries)) := by
    intro hnil
    rw [Slots.acceptsAll_congr howned, hall, hnil]
    unfold movesOf
    rw [List.map_nil, List.append_nil]
  refine ⟨hremains.steady hsteady ?_, hremains.leads, ⟨fun haccepts ↦ ?_, ?_⟩, ?_⟩
  · rw [howned]
    exact Slots.owned_movedAll_subset hsource
  · have hbefore := (hafter (hfront haccepts)).mp haccepts
    refine ⟨hbefore, ?_⟩
    rw [hfault hbefore]
    refine ⟨entry, ?_, ?_⟩
    · rw [hleads.entries_eq, hentries]
      exact List.mem_append_right finished List.mem_cons_self
    · rw [hsplit, hfront haccepts]
      rfl
  · rintro ⟨hbefore, hharmless⟩
    rw [hfault hbefore] at hharmless
    obtain ⟨other, hother, hhead⟩ := hharmless
    rw [hleads.entries_eq, hentries] at hother
    have hdistinct := (movable_iff.mpr hbefore).distinct
    rw [hentries] at hdistinct
    exact (hafter (front_eq_nil_of_head hdistinct hsplit hother hhead)).mpr hbefore
  · intro haccepts hnoRepeat hpending
    have hnil := hfront haccepts
    have hdistinct := (movable_iff.mpr ((hafter hnil).mp haccepts)).distinct
    rw [← slots_requestsOf shard] at hdistinct
    rw [hentries, requestsOf_append] at hdistinct hpending
    obtain ⟨hmoved, hrest⟩ := hnoRepeat.movedAll hpending hdistinct
    have hslot : (⟨shard, entry.shard, slot⟩ : MigrationOption) ∈ requestsOf shard (entry :: rest) := by
      rw [hmoves]
      exact List.mem_append_right _ List.mem_cons_self
    have hmovesNil : movesOf shard entry.shard front = [] := by
      rw [hnil]
      rfl
    rw [hslots, hmovesNil, List.append_nil]
    exact hmoved.refused hrest hslot attempts

/-- A pass that stops at the status update after an entry. -/
theorem goes_of_statusUpdate {finished rest : List Kvrocks.MigrateMsg} (hsteady : Steady pods shard index before)
    (hleads : Leads (before.matrix pods) shard index entries) (hentries : entries = finished ++ entry :: rest)
    (hfault : fault = some (.statusUpdate (finished.length + 1)))
    (hcarried : CarriedAll fault before.slots (requestsOf shard (finished ++ [entry])))
    (hslots : after.slots = before.slots.movedAll (requestsOf shard (finished ++ [entry])))
    (hremains : Remains pods shard index (entry :: rest) before after) :
    Goes pods shard index entries fault before after (entry :: rest) := by
  have hmoves : requestsOf shard (finished ++ [entry]) =
      requestsOf shard finished ++ movesOf shard entry.shard entry.slots := by
    rw [requestsOf_append, requestsOf_cons]
    exact congrArg (_ ++ ·) (List.append_nil _)
  rw [hmoves] at hcarried hslots
  have hall : before.slots.AcceptsAll (requestsOf shard entries) ↔
      (before.slots.movedAll (requestsOf shard finished)).AcceptsAll (requestsOf shard (entry :: rest)) := by
    rw [hentries, requestsOf_append, Slots.acceptsAll_append]
    exact and_iff_right (Slots.acceptsAll_append.mp hcarried.2).1
  have hharmless : Harmless pods shard index before fault ↔ entry.slots = [] := by
    rw [hfault]
    change (∀ other, (before.entries pods shard index)[finished.length]? = some other → other.slots = []) ↔ _
    rw [hleads.entries_eq, hentries, List.getElem?_append_right le_rfl, Nat.sub_self]
    simp
  have hempty : after.slots.AcceptsAll (requestsOf shard (entry :: rest)) → entry.slots = [] := by
    intro haccepts
    by_contra hne
    rw [hslots, Slots.movedAll_append, requestsOf_cons] at haccepts
    exact Slots.not_acceptsAll_of_moved (fun hnil ↦ hne (List.map_eq_nil_iff.mp hnil))
      (fun move hmove ↦ source_of_mem_movesOf hmove) haccepts
  have hslotsNil : entry.slots = [] → after.slots = before.slots.movedAll (requestsOf shard finished) := by
    intro hnil
    rw [hslots, hnil]
    exact congrArg _ (List.append_nil _)
  refine ⟨hremains.steady hsteady ?_, hremains.leads, ⟨fun haccepts ↦ ?_, ?_⟩, ?_⟩
  · rw [hslots, ← hmoves]
    exact Slots.owned_movedAll_subset fun _ ↦ source_of_mem_requestsOf
  · have hnil := hempty haccepts
    rw [hslotsNil hnil, ← hall] at haccepts
    exact ⟨haccepts, hharmless.mpr hnil⟩
  · rintro ⟨hbefore, hfine⟩
    rw [hslotsNil (hharmless.mp hfine), ← hall]
    exact hbefore
  · intro haccepts hnoRepeat hpending
    have hnil := hempty haccepts
    rw [hslotsNil hnil] at haccepts ⊢
    have hdistinct := (movable_iff.mpr (hall.mpr haccepts)).distinct
    rw [← slots_requestsOf shard] at hdistinct
    rw [hentries, requestsOf_append] at hdistinct hpending
    exact hnoRepeat.movedAll hpending hdistinct

theorem Stopped.goes (hsteady : Steady pods shard index before)
    (hleads : Leads (before.matrix pods) shard index entries)
    (hstopped : Stopped fault pods shard index entries before after) :
    ∃ rest, Goes pods shard index entries fault before after rest := by
  cases hstopped with
  | early hfault hslots hremains =>
    refine ⟨entries, hremains.steady hsteady ?_, hremains.leads, ?_, ?_⟩
    · rw [hslots]
      exact List.Subset.refl _
    · rw [hslots, hfault]
      exact (and_iff_left trivial).symm
    · rw [hslots]
      exact fun _ hnoRepeat hpending ↦ ⟨hnoRepeat, hpending⟩
  | refusal hentries hsplit hcarried hrefused hslots hremains =>
    exact ⟨_, goes_of_refusal hsteady hleads hentries hsplit hcarried hrefused hslots hremains⟩
  | statusUpdate hentries hfault hcarried hslots hremains =>
    exact ⟨_, goes_of_statusUpdate hsteady hleads hentries hfault hcarried hslots hremains⟩

end Step

/-! ## Runs of failing passes -/

section Runs

variable {pods : Matrix} {shard index : ℕ} {entries : List Kvrocks.MigrateMsg} {world final : World}

/-- A pass in which nothing goes wrong. -/
theorem resumes_iff_acceptsAll (hsteady : Steady pods shard index world)
    (hleads : Leads (world.matrix pods) shard index entries)
    (hpending : world.slots.AcceptsAll (requestsOf shard entries) → world.slots.NoRepeat ∧
      world.slots.Pending (requestsOf shard entries)) :
    Resumes pods shard index world ↔ world.slots.AcceptsAll (requestsOf shard entries) := by
  have hmeets : (runPass pods none world).1.Meets _ _ := runPass_meets hsteady hleads
  constructor
  · intro hresumes
    rw [hresumes.succeeds] at hmeets
    exact hmeets.carried.2
  · intro haccepts
    have hrun : ¬ Stopped none pods shard index entries world (runPass pods none world).2 := by
      intro hstopped
      cases hstopped with
      | early hfault => cases hfault
      | statusUpdate _ hfault => cases hfault
      | @refusal finished rest entry front back slot _ hentries hsplit _ hrefused =>
        apply hrefused
        refine ⟨nofun, ?_⟩
        have hmoves : requestsOf shard entries = (requestsOf shard finished ++ movesOf shard entry.shard front) ++
              ⟨shard, entry.shard, slot⟩ :: (movesOf shard entry.shard back ++ requestsOf shard rest) := by
          rw [hentries, requestsOf_append, requestsOf_cons, hsplit]
          unfold movesOf
          rw [List.map_append, List.map_cons, List.append_assoc, List.append_assoc, List.cons_append]
        rw [hmoves, Slots.acceptsAll_append] at haccepts
        exact haccepts.2.1
    have hok : (runPass pods none world).1 = .ok () ∧
        Completed none pods shard index entries world (runPass pods none world).2 := by
      generalize runPass pods none world = result at hmeets hrun ⊢
      obtain ⟨outcome, after⟩ := result
      cases outcome with
      | ok value => exact ⟨rfl, hmeets⟩
      | err error => exact (hrun hmeets).elim
      | panic => exact (hrun hmeets).elim
    refine ⟨hok.1, hok.2.entries, ?_⟩
    rw [hok.2.slots]
    obtain ⟨hnoRepeat, hall⟩ := hpending haccepts
    have hdistinct := (movable_iff.mpr haccepts).distinct
    rw [← slots_requestsOf shard, ← List.append_nil (requestsOf shard entries)] at hdistinct
    rw [← List.append_nil (requestsOf shard entries)] at hall
    exact (hnoRepeat.movedAll hall hdistinct).1

theorem failedPasses_resumes_iff {passes : List (World × Option Fault)}
    (hsteady : Steady pods shard index world) (hleads : Leads (world.matrix pods) shard index entries)
    (hpending : world.slots.AcceptsAll (requestsOf shard entries) →
      world.slots.NoRepeat ∧ world.slots.Pending (requestsOf shard entries))
    (hpasses : FailedPasses pods world passes final) :
    Resumes pods shard index final ↔ world.slots.AcceptsAll (requestsOf shard entries) ∧
      ∀ failed ∈ passes, Harmless pods shard index failed.1 failed.2 := by
  induction hpasses generalizing entries with
  | nil world =>
    rw [resumes_iff_acceptsAll hsteady hleads hpending]
    simp
  | @cons world final fault rest error hfail hrest ih =>
    have hstopped : (runPass pods fault world).1.Meets _ _ := runPass_meets hsteady hleads
    rw [hfail] at hstopped
    obtain ⟨remaining, hgoes⟩ := Stopped.goes hsteady hleads hstopped
    have hpending' : (runPass pods fault world).2.slots.AcceptsAll (requestsOf shard remaining) →
        (runPass pods fault world).2.slots.NoRepeat ∧
          (runPass pods fault world).2.slots.Pending (requestsOf shard remaining) := by
      intro haccepts
      obtain ⟨hnoRepeat, hall⟩ := hpending (hgoes.accepts.mp haccepts).1
      exact hgoes.pending haccepts hnoRepeat hall
    rw [ih hgoes.steady hgoes.leads hpending', hgoes.accepts, List.forall_mem_cons, and_assoc]

/-- After passes that have failed, a pass in which nothing goes wrong finishes the migration without asking for a
moved slot exactly if the entries could be moved at the start and every failure came before any slot of its entry had
been moved. -/
theorem migration_resumes_iff {passes : List (World × Option Fault)}
    (hsteady : Steady pods shard index world) (hleads : Leads (world.matrix pods) shard index entries)
    (hnew : world.slots.requests = []) (hpasses : FailedPasses pods world passes final) :
    Resumes pods shard index final ↔ Movable shard entries world.slots ∧
      ∀ failed ∈ passes, Harmless pods shard index failed.1 failed.2 := by
  rw [movable_iff]
  refine failedPasses_resumes_iff hsteady hleads (fun _ ↦ ⟨?_, ?_⟩) hpasses
  · unfold Slots.NoRepeat
    rw [hnew]
    exact List.Pairwise.nil
  · intro move _ earlier hearlier
    rw [hnew] at hearlier
    cases hearlier

end Runs

/-- Two shards of one pod each. -/
def twoPods : Matrix := [[.fresh "10.0.0.1" 0], [.fresh "10.0.0.2" 0]]

/-- The record of a master. -/
def masterRecord (ip nodeId : String) (migrate : List MigrateMsg) : KVRocksTopology :=
  { pod := "", role := .master, nodeId := nodeId, ip := ip, port := Kvrocks.kvrocksPort, slots := [],
    masterId := "", migrate := migrate, failover := false }

/-- The first shard is to give its slots to the second one, in two entries. -/
def migrating : World :=
  { slots := { owned := fun shard ↦ if shard = 0 then [0, 1, 2] else [], requests := [] }
    nodes := [[⟨"a", "10.0.0.1:6379", .master⟩], [⟨"b", "10.0.0.2:6379", .master⟩]]
    instance_ :=
      { KVRocks.created ⟨"default", "kvrocks-cluster-1-demo"⟩
          { image := "", type := .cluster, kvrocksConfig := [], replicas := 1, master := 2,
            password := "", resources := true } with
        status :=
          { status := .running, reason := "", version := 1, rebalance := false
            topo :=
              [⟨"", 0, [masterRecord "10.0.0.1" "a" [⟨1, ["0-1"]⟩, ⟨1, ["2"]⟩]]⟩,
                ⟨"", 1, [masterRecord "10.0.0.2" "b" []]⟩]
            shrink := none } }
    updates := 0 }

theorem steady_migrating : Steady twoPods 0 0 migrating := by
  refine ⟨by decide, by decide, by decide, ?_, ?_, ?_⟩
  · intro position hposition
    have hcases : position = 0 ∨ position = 1 := by
      change position < 2 at hposition
      omega
    rcases hcases with rfl | rfl
    · exact ⟨_, rfl, by decide⟩
    · exact ⟨_, rfl, by decide⟩
  · exact ⟨_, rfl, _, List.mem_cons_self, by decide⟩
  · intro slot hslot
    have hrange : ∀ slot ∈ migrating.slots.owned 0, 0 ≤ slot ∧ slot ≤ Text.maxInt := by decide
    exact hrange slot hslot

theorem leads_migrating : Leads (migrating.matrix twoPods) 0 0 [⟨1, [0, 1]⟩, ⟨1, [2]⟩] := by
  rw [leads_iff]
  decide

/-- A refusal of the first slot of the second entry does not end the migration. -/
theorem migration_resumes_secondEntry : ∃ final, FailedPasses twoPods migrating [(migrating, some (.refusal 2))] final ∧
      Resumes twoPods 0 0 final := by
  have hfail : (runPass twoPods (some (.refusal 2)) migrating).1 = .err (.text "slot migrate timeout") := by decide
  have hpasses := FailedPasses.cons hfail (.nil _)
  refine ⟨_, hpasses, ?_⟩
  refine (migration_resumes_iff steady_migrating leads_migrating rfl hpasses).mpr ⟨?_, ?_⟩
  · exact ⟨by decide, by decide, by decide⟩
  · intro failed hfailed
    rw [List.mem_singleton.mp hfailed]
    refine ⟨⟨1, [2]⟩, ?_, rfl⟩
    rw [leads_migrating.entries_eq]
    exact List.mem_cons_of_mem _ List.mem_cons_self

/-- A refusal of the second slot of the first entry does: the pass after it asks again for the first slot, which has
been moved, and is refused. -/
theorem migration_stuck_firstEntry : ∃ final, FailedPasses twoPods migrating [(migrating, some (.refusal 1))] final ∧
      (runPass twoPods none final).1 = .err (.text "slot migrate timeout") ∧
      ¬ (runPass twoPods none final).2.slots.NoRepeat := by
  have hfail : (runPass twoPods (some (.refusal 1)) migrating).1 = .err (.text "slot migrate timeout") := by decide
  refine ⟨_, .cons hfail (.nil _), by decide, ?_⟩
  unfold Slots.NoRepeat
  decide

end KvrocksOperator.Migration
