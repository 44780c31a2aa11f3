import KvrocksOperator.Client.Slots
import KvrocksOperator.Client.StatefulSets
import KvrocksOperator.Cluster.Victims
import KvrocksOperator.Cluster.Rules
import KvrocksOperator.Cluster.Handle
import KvrocksOperator.Controllers.Footprint

/-!
# Carrying out a shrink message

`cleanStatefulSet` deletes the StatefulSets of `Partition` and applies the entries of `ReserveMsg` one by one.  After
any failure the next pass starts again from the beginning, so an entry may be applied several times.  Applying it
twice makes no difference, and a pass that gets to the end has applied all of them.  But the first loop takes every
failed read for a StatefulSet that is already gone.
-/

namespace KvrocksOperator.Cluster.Shrinking

open Interaction Resources

/-! ## Entries of `ReserveMsg` -/

/-- An entry has been applied to a StatefulSet, once or more often. -/
structure Applied (replicas : ℤ) (ids : List ℕ) (old new : StatefulSet) : Prop where
  asked : new.replicas = replicas
  reserveOrdinals : ∀ id, id ∈ new.reserveOrdinals ↔ id ∈ old.reserveOrdinals ∨ id ∈ ids

/-- How often an entry has been applied does not matter. -/
theorem Applied.ordinals {replicas : ℤ} {ids : List ℕ} {old new : StatefulSet} (h : Applied replicas ids old new) :
    new.ordinals = Segments.smallest replicas.toNat (old.reserveOrdinals ++ ids) := by
  rw [StatefulSet.ordinals, h.asked]
  apply Segments.smallest_congr
  intro id
  rw [h.reserveOrdinals id, List.mem_append]

/-- The StatefulSet is as it was, or the entry has been applied to it. -/
def Touched (replicas : ℤ) (ids : List ℕ) (old new : StatefulSet) : Prop := new = old ∨ Applied replicas ids old new

theorem Touched.apply {replicas : ℤ} {ids : List ℕ} {old new : StatefulSet} (h : Touched replicas ids old new)
    (number : ℕ) :
    Applied replicas ids old
      { new with
        replicas := replicas
        reserveOrdinals := new.reserveOrdinals ++ ids
        resourceVersion := number } := by
  refine ⟨rfl, fun id ↦ ?_⟩
  simp only [List.mem_append]
  rcases h with rfl | happlied
  · rfl
  · rw [happlied.reserveOrdinals id, or_assoc, or_self]

/-! ## One attempt -/

/-- A read of one of these StatefulSets fails only if there is none. -/
def SureReads (sure : NamespacedName → Prop) : (request : Call) → request.Reply → Prop
  | .getStatefulSet key, reply => sure key → ∀ error, reply = .error error → error = .notFound
  | _, _ => True

theorem SureReads.mono {sure sure' : NamespacedName → Prop} (h : ∀ key, sure' key → sure key) (request : Call)
    (reply : request.Reply) (hsure : SureReads sure request reply) : SureReads sure' request reply := by
  cases request with
  | getStatefulSet key => exact fun hkey ↦ hsure (h key hkey)
  | _ => trivial

/-- The API server, with sure reads of some StatefulSets. -/
def Answers (sure : NamespacedName → Prop) : Program.Answers operator Sets :=
  fun request before reply after ↦ Sets.Answers request before reply after ∧ SureReads sure request reply

/-- The key of the StatefulSet of an entry. -/
def entryKey (instance_ : KVRocks) (entry : String × List ℕ) : NamespacedName := ⟨instance_.ns, entry.1⟩

/-- Every StatefulSet of `ReserveMsg` that there is was there at the start, and its entry is the only thing that has
been done to it. -/
def Traced (instance_ : KVRocks) (entries : List (String × List ℕ)) (start current : Sets) : Prop :=
  ∀ entry ∈ entries, ∀ new, current (entryKey instance_ entry) = some new →
    ∃ old, start (entryKey instance_ entry) = some old ∧ Touched instance_.spec.replicas entry.2 old new

/-- The StatefulSet of an entry after the entry has been applied. -/
def AppliedAt (instance_ : KVRocks) (start current : Sets) (entry : String × List ℕ) : Prop :=
  ∃ old new, start (entryKey instance_ entry) = some old ∧ current (entryKey instance_ entry) = some new ∧
    Applied instance_.spec.replicas entry.2 old new

/-- How far an attempt has got. -/
structure Stage (sure : NamespacedName → Prop) (instance_ : KVRocks) (entries : List (String × List ℕ))
    (start : Sets) (deleted : List ℕ) (finished : List (String × List ℕ)) (current : Sets) : Prop where
  traced : Traced instance_ entries start current
  gone : ∀ index ∈ deleted, sure (statefulSetKey instance_ index) → current (statefulSetKey instance_ index) = none
  applied : ∀ entry ∈ finished, AppliedAt instance_ start current entry

variable {h : Handler}

section Attempt

variable {sure : NamespacedName → Prop} {instance_ : KVRocks} {entries finished : List (String × List ℕ)}
  {start current : Sets} {deleted : List ℕ} {crash : Sets → Prop}

theorem Traced.remove (h : Traced instance_ entries start current) (key : NamespacedName) :
    Traced instance_ entries start (current.remove key) := by
  intro entry hentry new hnew
  by_cases hkey : entryKey instance_ entry = key
  · rw [hkey, Sets.remove_self] at hnew
    cases hnew
  · rw [Sets.remove_of_ne current hkey] at hnew
    exact h entry hentry new hnew

/-- The turn of one StatefulSet of `Partition`. -/
theorem deleteStatefulSetIfExists_ends (index : ℕ) (h : Stage sure instance_ entries start deleted [] current) :
    (K8s.deleteStatefulSetIfExists (statefulSetKey instance_ index)).Ends (.sequential (Answers sure))
      (Traced instance_ entries start) crash
      (fun _ ↦ Stage sure instance_ entries start (deleted ++ [index]) []) current := by
  have hgone : Stage sure instance_ entries start (deleted ++ [index]) []
      (current.remove (statefulSetKey instance_ index)) := by
    refine ⟨h.traced.remove _, fun other hother hsure ↦ ?_, by simp⟩
    by_cases hkey : statefulSetKey instance_ other = statefulSetKey instance_ index
    · rw [hkey, Sets.remove_self]
    · rw [Sets.remove_of_ne current hkey]
      rcases List.mem_append.mp hother with hbefore | hnow
      · exact h.gone other hbefore hsure
      · exact absurd (by rw [List.mem_singleton.mp hnow]) hkey
  unfold K8s.deleteStatefulSetIfExists
  apply Fallible.ends_lift_bind
  rintro reply later ⟨⟨rfl, -, hmissing⟩, hread⟩
  cases reply with
  | error error =>
    refine ends_pure ⟨h.traced, fun other hother hsure ↦ ?_, by simp⟩
    rcases List.mem_append.mp hother with hbefore | hnow
    · exact h.gone other hbefore hsure
    · rw [List.mem_singleton.mp hnow] at hsure ⊢
      exact hmissing (by rw [hread hsure error rfl])
  | ok found =>
    apply ends_attempt
    rintro reply after ⟨hanswer, -⟩
    rcases hanswer with rfl | ⟨rfl, error, rfl⟩
    · cases reply with
      | error error => exact hgone.traced
      | ok _ => exact hgone
    · exact h.traced

/-- The StatefulSet with an entry applied to it. -/
def reserve (instance_ : KVRocks) (entry : String × List ℕ) (sts : StatefulSet) : StatefulSet :=
  { sts with
    replicas := instance_.spec.replicas
    reserveOrdinals := sts.reserveOrdinals ++ entry.2 }

/-- What an update leaves behind, whether it is reported as failed or not. -/
theorem Stage.write (hkeys : (entries.map Prod.fst).Nodup) (hfinished : ∀ entry ∈ finished, entry ∈ entries)
    {entry : String × List ℕ} (hentry : entry ∈ entries)
    (h : Stage sure instance_ entries start deleted finished current) {found : StatefulSet}
    (hfound : current (entryKey instance_ entry) = some found) {after : Sets}
    (hafter : Sets.Written (reserve instance_ entry found) current after) :
    Stage sure instance_ entries start deleted (finished ++ [entry]) after := by
  have hkey : entryKey instance_ entry = (reserve instance_ entry found).key := (current.keyed hfound).symm
  obtain ⟨old, hold, htouched⟩ := h.traced entry hentry found hfound
  obtain ⟨number, hself⟩ := hafter.key_eq
  rw [← hkey] at hself
  have hnow : AppliedAt instance_ start after entry := ⟨old, _, hold, hself, htouched.apply number⟩
  have hother {key : NamespacedName} (hne : key ≠ entryKey instance_ entry) : after key = current key :=
    hafter.of_ne fun heq ↦ hne (heq.trans hkey.symm)
  have hsame {other : String × List ℕ} (hmem : other ∈ entries)
      (heq : entryKey instance_ other = entryKey instance_ entry) : other = entry :=
    List.inj_on_of_nodup_map hkeys hmem hentry (congrArg (·.name) heq)
  refine ⟨fun other hmem new hstored ↦ ?_, fun index hmem hsure ↦ ?_, fun other hmem ↦ ?_⟩
  · by_cases heq : entryKey instance_ other = entryKey instance_ entry
    · obtain rfl := hsame hmem heq
      rw [hself] at hstored
      exact ⟨old, hold, .inr (Option.some.inj hstored ▸ htouched.apply number)⟩
    · rw [hother heq] at hstored
      exact h.traced other hmem new hstored
  · have hgone := h.gone index hmem hsure
    rw [hother fun heq ↦ ?_]
    · exact hgone
    · rw [heq, hfound] at hgone
      cases hgone
  · rcases List.mem_append.mp hmem with hbefore | hlast
    · by_cases heq : entryKey instance_ other = entryKey instance_ entry
      · exact hsame (hfinished other hbefore) heq ▸ hnow
      · obtain ⟨old', new', hold', hnew', happlied⟩ := h.applied other hbefore
        exact ⟨old', new', hold', (hother heq).trans hnew', happlied⟩
    · exact List.mem_singleton.mp hlast ▸ hnow

/-- The turn of one entry of `ReserveMsg`. -/
theorem applyReserve_ends (hkeys : (entries.map Prod.fst).Nodup) (hfinished : ∀ entry ∈ finished, entry ∈ entries)
    {entry : String × List ℕ} (hentry : entry ∈ entries)
    (h : Stage sure instance_ entries start deleted finished current) :
    (applyReserve instance_ entry).Ends (.sequential (Answers sure)) (Traced instance_ entries start) crash
      (fun _ ↦ Stage sure instance_ entries start deleted (finished ++ [entry])) current := by
  unfold applyReserve
  have hread : (K8s.getStatefulSet (entryKey instance_ entry)).Ends (.sequential (Answers sure))
      (Traced instance_ entries start) crash
      (fun found final ↦ final = current ∧ current (entryKey instance_ entry) = some found) current := by
    apply ends_attempt
    rintro reply after ⟨⟨rfl, hfound, -⟩, -⟩
    cases reply with
    | error error => exact h.traced
    | ok found => exact ⟨rfl, hfound found rfl⟩
  apply hread.bind
  rintro found reached ⟨rfl, hfound⟩
  apply ends_attempt
  rintro reply after ⟨hanswer, -⟩
  rcases hanswer with ⟨-, -, -, hwritten⟩ | ⟨rfl, error, rfl⟩
  · have hstage := h.write hkeys hfinished hentry hfound hwritten
    cases reply with
    | error error => exact hstage.traced
    | ok _ => exact hstage
  · exact h.traced

theorem deletes_ends (partition : List ℕ) (h : Traced instance_ entries start current) :
    (forEach (fun index ↦ K8s.deleteStatefulSetIfExists (statefulSetKey instance_ index)) partition :
        Go Unit).Ends (.sequential (Answers sure)) (Traced instance_ entries start) crash
      (fun _ ↦ Stage sure instance_ entries start partition []) current := by
  apply ends_forEach_from (fun deleted ↦ Stage sure instance_ entries start deleted []) [] partition
    ⟨h, by simp, by simp⟩
  intro front index back reached _ hstage
  exact deleteStatefulSetIfExists_ends index hstage

theorem reserves_ends (hkeys : (entries.map Prod.fst).Nodup) (partition : List ℕ)
    (h : Stage sure instance_ entries start partition [] current) :
    (forEach (applyReserve instance_) entries : Go Unit).Ends (.sequential (Answers sure))
      (Traced instance_ entries start) crash
      (fun _ ↦ Stage sure instance_ entries start partition entries) current := by
  apply ends_forEach_from (Stage sure instance_ entries start partition) [] entries h
  intro front entry back reached hsplit hstage
  rw [List.nil_append] at hsplit
  have hfront : ∀ other ∈ front, other ∈ entries := fun other hother ↦ hsplit ▸ List.mem_append_left _ hother
  have hentry : entry ∈ entries := hsplit ▸ List.mem_append_right _ List.mem_cons_self
  exact applyReserve_ends hkeys hfront hentry hstage

/-- A whole attempt, as far as the StatefulSets are concerned. -/
theorem cleanStatefulSet_ends {shrink : KVRocksShrinkMsg} (hkeys : (shrink.reserveMsg.map Prod.fst).Nodup)
    (htraced : Traced h.instance_ shrink.reserveMsg start current) :
    (cleanStatefulSet shrink).Ends (.sequential (Answers sure)) (Traced h.instance_ shrink.reserveMsg start) crash
      (fun _ _ ↦ Stage sure h.instance_ shrink.reserveMsg start shrink.partition shrink.reserveMsg) h
      current := by
  apply ends_get_bind
  apply ends_lift_bind (deletes_ends shrink.partition htraced)
  intro _ reached hdeleted
  apply ends_lift_bind (reserves_ends hkeys shrink.partition hdeleted)
  intro _ later hstage
  have hsave (object : KVRocks) : (K8s.updateKVRocks object).Ends (.sequential (Answers sure))
      (Traced h.instance_ shrink.reserveMsg start) crash
      (fun _ ↦ Stage sure h.instance_ shrink.reserveMsg start shrink.partition shrink.reserveMsg) later := by
    apply updateKVRocks_ends
    rintro reply after ⟨rfl, -⟩
    cases reply with
    | error error => exact hstage.traced
    | ok _ => exact hstage
  apply ends_modify_bind
  apply ends_get_bind
  apply ends_lift_bind (hsave _)
  exact fun _ _ hfinal ↦ ends_modify hfinal

/-- At the start nothing has been done. -/
theorem traced_refl : Traced instance_ entries start start := fun _ _ new hnew ↦ ⟨new, hnew, .inl rfl⟩

end Attempt

variable {request : Call}

/-- Nothing is asked of reads of no StatefulSet. -/
theorem answers_of_sets {before after : Sets} {reply : request.Reply} (h : Sets.Answers request before reply after) :
    Answers (fun _ ↦ False) request before reply after := by
  refine ⟨h, ?_⟩
  cases request with
  | getStatefulSet key => exact False.elim
  | _ => trivial

/-- Whenever `getReserveIndex` has returned a list for a shard and `cleanStatefulSet` has carried out the message, the
pods of the shard are the nodes there were, less the slaves with the highest ordinals. -/
theorem cleanStatefulSet_scaledDown (h : Handler) (shrink : KVRocksShrinkMsg) (index : ℕ)
    (nodes : List Node) (ids : List ℕ) (rest : List (Option Node)) (sets : Sets)
    (old : StatefulSet) (hstored : sets (statefulSetKey h.instance_ index) = some old)
    (hlive : nodes.map (·.podIndex) = old.ordinals) (hone : OneMaster nodes)
    (hpos : 1 ≤ h.instance_.spec.replicas) (hless : h.instance_.spec.replicas < old.replicas)
    (hplan : getReserveIndex h.instance_.spec.replicas nodes = some (some ids, rest))
    (hkeys : (shrink.reserveMsg.map Prod.fst).Nodup)
    (hentry : (getStatefulSetName h.instance_.name index, ids) ∈ shrink.reserveMsg) :
    ∀ later final, Exec Sets.Answers ((cleanStatefulSet shrink).on h) sets (.ok (), later) final →
      ∃ new, final (statefulSetKey h.instance_ index) = some new ∧
        ScaledDown nodes (old.replicas - h.instance_.spec.replicas).toNat new := by
  intro later final hexec
  have hlength : nodes.length = old.replicas.toNat := by
    rw [← List.length_map (f := (·.podIndex)), hlive, StatefulSet.ordinals, Segments.smallest_length]
  have hcount : (nodes.length - h.instance_.spec.replicas).toNat =
      (old.replicas - h.instance_.spec.replicas).toNat := by omega
  have hreserved : Reserved (old.replicas - h.instance_.spec.replicas).toNat nodes ids := by
    rw [getReserveIndex_eq (by omega), hcount] at hplan
    simp only [Option.ite_none_right_eq_some, Option.some.injEq, Prod.mk.injEq] at hplan
    rw [← hplan.2.1]
    exact reserved_filter
  have hmethod : (cleanStatefulSet shrink).Ends (.sequential (Answers fun _ ↦ False)) _ (fun _ ↦ False) _ h
      sets := cleanStatefulSet_ends hkeys traced_refl
  have hstage := hmethod.exec (hexec.mono fun _ _ _ _ ↦ answers_of_sets)
  obtain ⟨old', new, hold, hnew, happlied⟩ := hstage.applied _ hentry
  obtain rfl : old = old' := Option.some.inj (hstored.symm.trans hold)
  refine ⟨new, hnew, scaledDown_of_ordinals ?_⟩
  rw [happlied.ordinals, ← smallest_append_reserved hone hlive (by omega) hreserved]
  congr 1
  omega

/-- A cluster instance that is to have two pods in each of three shards. -/
def demo : KVRocks :=
  KVRocks.created ⟨"default", "kvrocks-cluster-1-demo"⟩
    { image := "kvrocks:1", type := .cluster, kvrocksConfig := [], replicas := 2, master := 3,
      password := "password", resources := true }

/-- A shard with four pods; the ordinal 5 has been reserved by an earlier scaling. -/
def demoSet (index : ℕ) : StatefulSet := { newClusterStatefulSet demo index with replicas := 4, reserveOrdinals := [5] }

/-- The nodes of the shard; the one with ordinal 2 is the master. -/
def demoNodes : List Node :=
  [Kvrocks.Node.fresh "10.0.0.0" 0, Kvrocks.Node.fresh "10.0.0.1" 1,
    { Kvrocks.Node.fresh "10.0.0.2" 2 with role := .master }, Kvrocks.Node.fresh "10.0.0.3" 3]

def demoHandler : Handler := newKVRocksClusterHandler demo.key demo Controller.newClient

/-- Ordinals 1 and 3 go, though only 1 is reserved. -/
def demoShrink : KVRocksShrinkMsg := { partition := [], reserveMsg := [(getStatefulSetName demo.name 0, [1])] }

/-- A shard of four nodes is left with two. -/
theorem shard_of_four_scaledDown : ∃ later final, Exec Sets.Answers ((cleanStatefulSet demoShrink).on demoHandler)
        (Sets.empty.put (demoSet 0)) (.ok (), later) final ∧
      ∃ new, final (statefulSetKey demo 0) = some new ∧ ScaledDown demoNodes 2 new := by
  have hexec := exec_run Sets.serve_answers ((cleanStatefulSet demoShrink).on demoHandler) (Sets.empty.put (demoSet 0))
  rw [show (((cleanStatefulSet demoShrink).on demoHandler).run Sets.serve (Sets.empty.put (demoSet 0))).1 =
    (.ok (), _) from Prod.ext rfl rfl] at hexec
  exact ⟨_, _, hexec, cleanStatefulSet_scaledDown demoHandler demoShrink 0 demoNodes [1] _ _ (demoSet 0) rfl
    (by decide) (by decide) (by decide) (by decide) rfl (by decide) (by decide) _ _ hexec⟩

/-! ## Retried passes -/

/-- The StatefulSets, the persisted object, and both at the moment when an object without a shrink message was
persisted first. -/
structure World where
  sets : Sets
  stored : KVRocks
  finished : Option (Sets × KVRocks)

/-- The object is persisted. -/
def World.save (world : World) (object : KVRocks) : World :=
  { world with
    stored := object
    finished :=
      match world.finished, object.status.shrink with
      | none, none => some (world.sets, object)
      | finished, _ => finished }

/-- A condition on what a pass is told. -/
abbrev Condition := (request : Call) → request.Reply → Prop

/-- How the calls of a pass are answered. -/
def World.Answers (condition : Condition) : Program.Answers operator World
  | .updateKVRocks object, before, reply, after =>
    (object.key = before.stored.key ∧ object.resourceVersion = before.stored.resourceVersion ∧
        ∃ number, after = before.save { object with resourceVersion := number }) ∨
      after = before ∧ (object.key = before.stored.key → ∃ error, reply = .error error)
  | request, before, reply, after =>
    Sets.Answers request before.sets reply after.sets ∧ condition request reply ∧
      after.stored = before.stored ∧ after.finished = before.finished

/-- The same message; the entries of a map have no order. -/
def Reordered (shrink shrink' : KVRocksShrinkMsg) : Prop :=
  shrink'.partition = shrink.partition ∧ shrink'.reserveMsg.Perm shrink.reserveMsg

/-- The object as a pass gets it. -/
def Reads (stored instance_ : KVRocks) : Prop :=
  ∃ shrink, Option.Rel Reordered stored.status.shrink shrink ∧
    instance_ = { stored with status := { stored.status with shrink := shrink } }

/-- One pass. -/
def Pass (condition : Condition) (before after : World) : Prop :=
  ∃ instance_ client result, Reads before.stored instance_ ∧ Exec (World.Answers condition)
      (handle.on (newKVRocksClusterHandler before.stored.key instance_ client)) before result after

variable {condition : Condition}

theorem Pass.mono {condition' : Condition} {before after : World}
    (h : ∀ request reply, condition request reply → condition' request reply) (hpass : Pass condition before after) :
    Pass condition' before after := by
  obtain ⟨instance_, client, result, hreads, hexec⟩ := hpass
  refine ⟨instance_, client, result, hreads, hexec.mono fun request _ reply _ hanswer ↦ ?_⟩
  have hcondition := h request reply
  cases request with
  | updateKVRocks object => exact hanswer
  | _ => exact ⟨hanswer.1, hcondition hanswer.2.1, hanswer.2.2⟩

/-- The message has been carried out: the StatefulSets of `Partition` are deleted, those of `ReserveMsg` have the
replicas of the instance and the pods that any attempt without a failure leaves, and the version has grown by one. -/
structure Complete (start : World) (shrink : KVRocksShrinkMsg) (sets : Sets) (object : KVRocks) : Prop where
  deleted : ∀ index ∈ shrink.partition, sets (statefulSetKey start.stored index) = none
  reserved : ∀ entry ∈ shrink.reserveMsg, ∃ new, sets (entryKey start.stored entry) = some new ∧
    new.replicas = start.stored.spec.replicas ∧
    ∀ h later single, h.instance_ = start.stored →
      Exec Sets.Answers ((cleanStatefulSet shrink).on h) start.sets (.ok (), later) single →
        ∃ sts, single (entryKey start.stored entry) = some sts ∧ sts.ordinals = new.ordinals
  version : object.status.version = start.stored.status.version + 1

/-- The StatefulSets of `Partition`. -/
def InPartition (instance_ : KVRocks) (shrink : KVRocksShrinkMsg) (key : NamespacedName) : Prop :=
  ∃ index ∈ shrink.partition, key = statefulSetKey instance_ index

/-- Nothing has happened yet but the beginning of attempts. -/
structure Waiting (start : World) (shrink : KVRocksShrinkMsg) (world : World) : Prop where
  finished : world.finished = none
  stored : world.stored = start.stored
  traced : Traced start.stored shrink.reserveMsg start.sets world.sets

/-- The message is gone, and it had been carried out when it went. -/
def Done (start : World) (shrink : KVRocksShrinkMsg) (world : World) : Prop :=
  ∃ sets object, world.finished = some (sets, object) ∧ Complete start shrink sets object

def Sound (start : World) (shrink : KVRocksShrinkMsg) (world : World) : Prop :=
  Waiting start shrink world ∨ Done start shrink world

/-- The persisted object and the record of the end are as they were. -/
def Kept (before after : World) : Prop := after.stored = before.stored ∧ after.finished = before.finished

section Retries

variable {sure : NamespacedName → Prop} {start world : World} {shrink : KVRocksShrinkMsg} {crash : World → Prop}

theorem answers_kept (hkind : request.kind ≠ .updateKVRocks) {before after : World} {reply : request.Reply}
    (h : World.Answers condition request before reply after) : Kept before after := by
  cases request with
  | updateKVRocks object => exact absurd rfl hkind
  | _ => exact h.2.2

theorem answers_sets {before after : World} {reply : request.Reply}
    (h : World.Answers (SureReads sure) request before reply after) :
    Answers sure request before.sets reply after.sets := by
  cases request with
  | updateKVRocks object =>
    rcases h with ⟨-, -, number, rfl⟩ | ⟨rfl, -⟩
    · exact ⟨rfl, trivial⟩
    · exact ⟨rfl, trivial⟩
  | _ => exact ⟨h.1, h.2.1⟩

/-- Once the message is gone, nothing changes what was recorded then. -/
theorem answers_finished {before after : World} {reply : request.Reply} {record : Sets × KVRocks}
    (h : World.Answers condition request before reply after) (hfinished : before.finished = some record) :
    after.finished = some record := by
  by_cases hkind : request.kind = .updateKVRocks
  · cases request with
    | updateKVRocks object =>
      rcases h with ⟨-, -, number, rfl⟩ | ⟨rfl, -⟩
      · simp [World.save, hfinished]
      · exact hfinished
    | _ => cases hkind
  · exact (answers_kept hkind h).2.trans hfinished

/-- A function that only deals with StatefulSets. -/
theorem ends_of_sets {α : Type} {function : Go α} {fail : Sets → Prop} {post : α → Sets → Prop}
    (hmakes : Makes [.getStatefulSet, .updateStatefulSet, .deleteStatefulSet] function)
    (h : function.Ends (.sequential (Answers sure)) fail (fun _ ↦ False) post world.sets) :
    function.Ends (.sequential (World.Answers (SureReads sure))) (fun final ↦ Kept world final ∧ fail final.sets) crash
      (fun value final ↦ Kept world final ∧ post value final.sets) world := by
  have hview : function.program.Ensures (World.Answers (SureReads sure))
      (fun outcome final ↦ outcome.Ends (fail final.sets) False (post · final.sets)) world :=
    Program.Ensures.view World.sets (fun _ _ _ _ ↦ answers_sets) h
  have hstep : ∀ request, OfKind [.getStatefulSet, .updateStatefulSet, .deleteStatefulSet] request →
      ∀ before reply after, World.Answers (SureReads sure) request before reply after → Kept world before →
        Kept world after := by
    intro request hkind before reply after hanswer hbefore
    have hother : request.kind ≠ .updateKVRocks := by
      intro hupdate
      rw [OfKind, hupdate] at hkind
      exact absurd hkind (by decide)
    have hafter := answers_kept hother hanswer
    exact ⟨hafter.1.trans hbefore.1, hafter.2.trans hbefore.2⟩
  have hstart : Kept world world := ⟨rfl, rfl⟩
  have hkept : function.program.Ensures (World.Answers (SureReads sure)) (fun _ ↦ Kept world) world :=
    (Program.All.keeps hmakes hstep hstart).mono fun _ _ hfinal ↦ hfinal.2
  apply (hview.and hkept).mono
  rintro outcome final ⟨hends, hsame⟩
  cases outcome with
  | ok value => exact ⟨hsame, hends⟩
  | err error => exact ⟨hsame, hends⟩
  | panic => exact hends.elim

variable {instance_ : KVRocks}

/-- The trace of a message does not depend on the order of its entries. -/
theorem Traced.congr {instance' : KVRocks} {entries entries' : List (String × List ℕ)} {before after : Sets}
    (hns : instance'.ns = instance_.ns) (hspec : instance'.spec = instance_.spec)
    (hentries : ∀ entry ∈ entries', entry ∈ entries) (h : Traced instance_ entries before after) :
    Traced instance' entries' before after := by
  intro entry hentry new hnew
  rw [entryKey, hns] at hnew ⊢
  rw [hspec]
  exact h entry (hentries entry hentry) new hnew

/-- An attempt that has got to the end has carried out the message. -/
theorem Stage.complete {shrink' : KVRocksShrinkMsg} {object : KVRocks}
    (hkeys : (shrink.reserveMsg.map Prod.fst).Nodup) (hreordered : Reordered shrink shrink')
    (hname : instance_.key = start.stored.key) (hspec : instance_.spec = start.stored.spec)
    (h : Stage (InPartition start.stored shrink) instance_ shrink'.reserveMsg start.sets shrink'.partition
      shrink'.reserveMsg world.sets)
    (hversion : object.status.version = start.stored.status.version + 1) : Complete start shrink world.sets object := by
  have hns : instance_.ns = start.stored.ns := congrArg NamespacedName.ns hname
  have hkey (index : ℕ) : statefulSetKey instance_ index = statefulSetKey start.stored index := by
    rw [statefulSetKey, statefulSetKey, hns, show instance_.name = start.stored.name from
      congrArg NamespacedName.name hname]
  refine ⟨fun index hindex ↦ ?_, fun entry hentry ↦ ?_, hversion⟩
  · rw [← hkey]
    apply h.gone index (hreordered.1 ▸ hindex)
    exact ⟨index, hindex, hkey index⟩
  · obtain ⟨old, new, hold, hnew, happlied⟩ := h.applied entry (hreordered.2.mem_iff.mpr hentry)
    rw [entryKey, hns] at hold hnew
    rw [hspec] at happlied
    refine ⟨new, hnew, happlied.asked, fun handler later single hhandler hexec ↦ ?_⟩
    have hmethod : (cleanStatefulSet shrink).Ends (.sequential (Answers fun _ ↦ False)) _ (fun _ ↦ False) _
        handler start.sets := cleanStatefulSet_ends hkeys traced_refl
    have hstage := hmethod.exec (hexec.mono fun _ _ _ _ ↦ answers_of_sets)
    obtain ⟨old', sts, hold', hsts, honce⟩ := hstage.applied entry hentry
    rw [hhandler] at hold' hsts honce
    obtain rfl : old = old' := Option.some.inj (hold.symm.trans hold')
    exact ⟨sts, hsts, honce.ordinals.trans happlied.ordinals.symm⟩

/-- A pass that finds the message, as far as `cleanStatefulSet`. -/
theorem cleanStatefulSet_yields {shrink' : KVRocksShrinkMsg} (hkeys : (shrink.reserveMsg.map Prod.fst).Nodup)
    (hreordered : Reordered shrink shrink') (hname : h.instance_.key = start.stored.key)
    (hspec : h.instance_.spec = start.stored.spec)
    (hversion : h.instance_.status.version = start.stored.status.version)
    (hraised : Kvrocks.wrapInt (start.stored.status.version + 1) = start.stored.status.version + 1)
    (hwaiting : Waiting start shrink world) :
    (cleanStatefulSet shrink').Yields
      (.sequential (World.Answers (SureReads (InPartition start.stored shrink)))) (Sound start shrink)
      (fun _ _ ↦ Done start shrink) h world := by
  have hns : h.instance_.ns = start.stored.ns := congrArg NamespacedName.ns hname
  have hmine : Traced h.instance_ shrink'.reserveMsg start.sets world.sets :=
    hwaiting.traced.congr hns hspec fun entry hentry ↦ hreordered.2.mem_iff.mp hentry
  have hkeys' : (shrink'.reserveMsg.map Prod.fst).Nodup := (hreordered.2.map Prod.fst).nodup_iff.mpr hkeys
  have hsound {final : World} (hkept : Kept world final)
      (hfinal : Traced h.instance_ shrink'.reserveMsg start.sets final.sets) : Sound start shrink final := by
    refine .inl ⟨hkept.2.trans hwaiting.finished, hkept.1.trans hwaiting.stored, ?_⟩
    exact hfinal.congr hns.symm hspec.symm fun entry hentry ↦ hreordered.2.mem_iff.mpr hentry
  have hdeletes : (forEach (fun index ↦ K8s.deleteStatefulSetIfExists (statefulSetKey h.instance_ index))
      shrink'.partition : Go Unit).Yields
      (.sequential (World.Answers (SureReads (InPartition start.stored shrink)))) (Sound start shrink)
      (fun _ final ↦ Kept world final ∧ Stage (InPartition start.stored shrink) h.instance_ shrink'.reserveMsg
        start.sets shrink'.partition [] final.sets) world := by
    have hmakes : Makes [.getStatefulSet, .updateStatefulSet, .deleteStatefulSet]
        (forEach (fun index ↦ K8s.deleteStatefulSetIfExists (statefulSetKey h.instance_ index))
          shrink'.partition : Go Unit) :=
      makes_forEach fun index _ ↦ (K8s.deleteStatefulSetIfExists_makes _).mono (by decide)
    exact (ends_of_sets hmakes (deletes_ends shrink'.partition hmine)).mono
      (fun _ hfinal ↦ hsound hfinal.1 hfinal.2) (fun _ hfinal ↦ hfinal) fun _ _ hfinal ↦ hfinal
  apply ends_get_bind
  apply ends_lift_bind hdeletes
  intro _ reached hreached
  have hreserves : (forEach (applyReserve h.instance_) shrink'.reserveMsg : Go Unit).Yields
      (.sequential (World.Answers (SureReads (InPartition start.stored shrink)))) (Sound start shrink)
      (fun _ final ↦ Kept world final ∧ Stage (InPartition start.stored shrink) h.instance_ shrink'.reserveMsg
        start.sets shrink'.partition shrink'.reserveMsg final.sets) reached := by
    have hmakes : Makes [.getStatefulSet, .updateStatefulSet, .deleteStatefulSet]
        (forEach (applyReserve h.instance_) shrink'.reserveMsg : Go Unit) :=
      makes_forEach fun entry _ ↦ (applyReserve_makes _ entry).mono (by decide)
    have htrans {final : World} (hfinal : Kept reached final) : Kept world final :=
      ⟨hfinal.1.trans hreached.1.1, hfinal.2.trans hreached.1.2⟩
    exact (ends_of_sets hmakes (reserves_ends hkeys' shrink'.partition hreached.2)).mono
      (fun _ hfinal ↦ hsound (htrans hfinal.1) hfinal.2) (fun _ hfinal ↦ hfinal)
      fun _ _ hfinal ↦ ⟨htrans hfinal.1, hfinal.2⟩
  apply ends_lift_bind hreserves
  intro _ later hlater
  apply ends_modify_bind
  apply saveInstance_yields
  intro reply after hanswer
  rcases hanswer with ⟨-, -, number, rfl⟩ | ⟨rfl, hfailed⟩
  · have hnone : later.finished = none := hlater.1.2.trans hwaiting.finished
    have hdone (object : KVRocks) (hshrink : object.status.shrink = none)
        (hgrown : object.status.version = Kvrocks.wrapInt (h.instance_.status.version + 1)) :
        Done start shrink (later.save object) := by
      refine ⟨later.sets, object, by simp [World.save, hnone, hshrink], ?_⟩
      exact hlater.2.complete hkeys hreordered hname hspec (by rw [hgrown, hversion, hraised])
    cases reply with
    | error error => exact .inr (hdone _ rfl rfl)
    | ok _ => exact hdone _ rfl rfl
  · have hown : h.instance_.key = after.stored.key := by rw [hname, hlater.1.1, hwaiting.stored]
    obtain ⟨error, rfl⟩ := hfailed hown
    exact hsound hlater.1 hlater.2.traced

/-- Once the message has been carried out, whatever follows leaves this as it is. -/
theorem finished_yields {α : Type} (method : HandlerM α) (hdone : Done start shrink world) :
    method.Yields (.sequential (World.Answers condition)) (Sound start shrink)
      (fun _ _ ↦ Sound start shrink) h world := by
  obtain ⟨sets, object, hfinished, hcomplete⟩ := hdone
  have hstep : ∀ request before reply after, World.Answers condition request before reply after →
      before.finished = some (sets, object) → after.finished = some (sets, object) :=
    fun _ _ _ _ hanswer hbefore ↦ answers_finished hanswer hbefore
  apply (Program.ensures_of_keeps hstep (method.on h) hfinished).mono
  intro result final hfinal
  have hsound : Sound start shrink final := .inr ⟨sets, object, hfinal, hcomplete⟩
  obtain ⟨outcome, later⟩ := result
  cases outcome <;> exact hsound

/-- `ensureController` has nothing to do with the message. -/
theorem ensureController_yields (hwaiting : Waiting start shrink world) :
    ensureController.Yields (.sequential (World.Answers condition)) (Sound start shrink)
      (fun _ later final ↦ later.instance_ = h.instance_ ∧ Waiting start shrink final) h world := by
  have hstep : ∀ request, OfKind [.createObject, .getWorkload, .createConfigMap, .getService, .http] request →
      ∀ before reply after, World.Answers condition request before reply after →
        Waiting start shrink before → Waiting start shrink after := by
    intro request hkind before reply after hanswer hbefore
    have hother : request.kind ≠ .updateKVRocks := by
      intro hupdate
      rw [OfKind, hupdate] at hkind
      exact absurd hkind (by decide)
    have hkept := answers_kept hother hanswer
    have hsets : after.sets = before.sets := by
      cases request with
      | createObject kind key => exact hanswer.1
      | getWorkload kind key => exact hanswer.1
      | createConfigMap configMap => exact hanswer.1
      | getService key => exact hanswer.1
      | http endPoint request => exact hanswer.1
      | _ => exact absurd hkind (by simp [OfKind, Call.kind])
    exact ⟨hkept.2.trans hbefore.finished, hkept.1.trans hbefore.stored, hsets ▸ hbefore.traced⟩
  apply (ensureController_leaves.keeps hstep hwaiting).mono
  · exact fun _ hfinal ↦ .inl hfinal
  · exact fun _ later final hfinal ↦ ⟨congrArg Prod.fst hfinal.1, hfinal.2⟩

/-- A whole pass. -/
theorem handle_yields {client : Controller.Client} (hkeys : (shrink.reserveMsg.map Prod.fst).Nodup)
    (hraised : Kvrocks.wrapInt (start.stored.status.version + 1) = start.stored.status.version + 1)
    (hshrink : start.stored.status.shrink = some shrink) (hreads : Reads world.stored instance_)
    (hsound : Sound start shrink world) :
    handle.Yields (.sequential (World.Answers (SureReads (InPartition start.stored shrink))))
      (Sound start shrink) (fun _ _ ↦ Sound start shrink)
      (newKVRocksClusterHandler world.stored.key instance_ client) world := by
  rcases hsound with hwaiting | hdone
  · obtain ⟨read, hrel, rfl⟩ := hreads
    rw [hwaiting.stored, hshrink] at hrel
    obtain ⟨message, rfl, hreordered⟩ : ∃ message, read = some message ∧ Reordered shrink message := by
      cases hrel with
      | some hreordered => exact ⟨_, rfl, hreordered⟩
    apply (ensureController_yields hwaiting).bind
    rintro _ h reached ⟨hinstance, hreached⟩
    apply ends_get_bind
    split
    · exact Method.ends_pure (.inl hreached)
    have hclean : cleanStatefulSetIfShrinking.Yields
        (.sequential (World.Answers (SureReads (InPartition start.stored shrink)))) (Sound start shrink)
        (fun _ _ ↦ Done start shrink) h reached := by
      apply ends_get_bind
      rw [hinstance]
      refine cleanStatefulSet_yields hkeys hreordered ?_ ?_ ?_ hraised hreached
      all_goals
        rw [hinstance, ← hwaiting.stored]
        rfl
    apply hclean.bind
    intro _ later final hdone
    apply ends_get_bind
    split
    · exact Method.ends_pure (.inr hdone)
    · exact finished_yields _ hdone
  · exact finished_yields _ hdone

end Retries

/-- After any number of passes, of which any may have failed anywhere: if reads of the StatefulSets of `Partition`
fail only where there is none and the version is not the largest `int`, a message that is gone has been carried out.
-/
theorem retries_complete (start : World) (shrink : KVRocksShrinkMsg)
    (hshrink : start.stored.status.shrink = some shrink) (hstart : start.finished = none)
    (hversion : Kvrocks.IsInt start.stored.status.version) (hmax : start.stored.status.version ≠ Text.maxInt)
    (hkeys : (shrink.reserveMsg.map Prod.fst).Nodup) (final : World)
    (hpasses : Relation.ReflTransGen (Pass (SureReads (InPartition start.stored shrink))) start final)
    (sets : Sets) (object : KVRocks) (hfinished : final.finished = some (sets, object)) :
    Complete start shrink sets object := by
  have hsound : Sound start shrink final := by
    clear hfinished
    induction hpasses with
    | refl => exact .inl ⟨hstart, rfl, traced_refl⟩
    | tail _ hpass ih =>
      obtain ⟨instance_, client, ⟨outcome, later⟩, hreads, hexec⟩ := hpass
      have hends := Method.Ends.exec (handle_yields hkeys (Kvrocks.wrapInt_succ hversion hmax) hshrink hreads ih) hexec
      cases outcome <;> exact hends
  rcases hsound with hwaiting | ⟨sets', object', hsame, hcomplete⟩
  · cases hwaiting.finished.symm.trans hfinished
  · obtain ⟨rfl, rfl⟩ := Prod.mk.inj (Option.some.inj (hsame.symm.trans hfinished))
    exact hcomplete

/-- The answers to a pass with a running controller; reads of some StatefulSets fail. -/
def World.serve (lost : List NamespacedName) : (request : Call) → World → request.Reply × World
  | .updateKVRocks object, world =>
    if object.key = world.stored.key ∧ object.resourceVersion = world.stored.resourceVersion then
      (.ok (object.resourceVersion + 1), world.save { object with resourceVersion := object.resourceVersion + 1 })
    else (.error .conflict, world)
  | .getStatefulSet key, world =>
    (if key ∈ lost then .error (.other "timeout") else (Sets.serve (.getStatefulSet key) world.sets).1, world)
  | .createObject _ _, world => (.ok (), world)
  | .createConfigMap _, world => (.ok (), world)
  | .getWorkload _ _, world => (.ok { replicas := 1, readyReplicas := 1, matchLabels := [] }, world)
  | .getService _, world => (.ok "10.0.1.1", world)
  | .http _ (.createNamespace _), world => (.ok ⟨statusCreated, .ok ""⟩, world)
  | request, world =>
    ((Sets.serve request world.sets).1, { world with sets := (Sets.serve request world.sets).2 })

theorem World.serve_answers (lost : List NamespacedName) (request : Call) (world : World) :
    World.Answers (SureReads (· ∉ lost)) request world (World.serve lost request world).1
      (World.serve lost request world).2 := by
  cases request with
  | updateKVRocks object =>
    by_cases hcurrent : object.key = world.stored.key ∧ object.resourceVersion = world.stored.resourceVersion
    · exact .inl ⟨hcurrent.1, hcurrent.2, _, by rw [World.serve, if_pos hcurrent]⟩
    · exact .inr (by simp [World.serve, if_neg hcurrent])
  | getStatefulSet key =>
    by_cases hlost : key ∈ lost
    · simp [World.Answers, World.serve, Sets.Answers, SureReads, hlost]
    · refine ⟨?_, fun _ error herror ↦ ?_, rfl, rfl⟩
      · rw [World.serve, if_neg hlost]
        exact Sets.serve_answers (.getStatefulSet key) world.sets
      · cases hkey : world.sets key <;> simp_all [World.serve, Sets.serve]
  | http endPoint request => cases request <;> exact ⟨rfl, trivial, rfl, rfl⟩
  | createStatefulSet sts => exact ⟨Sets.serve_answers (.createStatefulSet sts) world.sets, trivial, rfl, rfl⟩
  | updateStatefulSet sts => exact ⟨Sets.serve_answers (.updateStatefulSet sts) world.sets, trivial, rfl, rfl⟩
  | deleteStatefulSet key => exact ⟨Sets.serve_answers (.deleteStatefulSet key) world.sets, trivial, rfl, rfl⟩
  | _ => exact ⟨rfl, trivial, rfl, rfl⟩

/-- A message that has not been carried out: the fourth shard is to go, and two pods of the first. -/
def demoWorld : World where
  sets := (Sets.empty.put (demoSet 0)).put (demoSet 3)
  stored := { demo with
    status := { demo.status with shrink := some { demoShrink with partition := [3] } } }
  finished := none

/-- The pass, of which some reads fail. -/
def demoPass (lost : List NamespacedName) : World :=
  ((handle.on (newKVRocksClusterHandler demoWorld.stored.key demoWorld.stored Controller.newClient)).run
    (World.serve lost) demoWorld).2

theorem pass_demo (lost : List NamespacedName) : Pass (SureReads (· ∉ lost)) demoWorld (demoPass lost) :=
  ⟨demoWorld.stored, Controller.newClient, _, ⟨_, .some ⟨rfl, .refl _⟩, rfl⟩, exec_run (World.serve_answers lost) _ _⟩

/-- A pass without a failure carries the message out. -/
theorem demo_retries_complete : ∃ final sets object,
      Pass (SureReads (InPartition demoWorld.stored { demoShrink with partition := [3] })) demoWorld final ∧
        final.finished = some (sets, object) ∧
        Complete demoWorld { demoShrink with partition := [3] } sets object := by
  have hpass : Pass (SureReads (InPartition demoWorld.stored { demoShrink with partition := [3] })) demoWorld
      (demoPass []) := (pass_demo []).mono (SureReads.mono fun _ _ ↦ List.not_mem_nil)
  exact ⟨_, _, _, hpass, rfl, retries_complete demoWorld _ rfl rfl (by decide) (by decide) (by decide) (demoPass [])
    (.single hpass) _ _ rfl⟩

/-- The read of the fourth StatefulSet fails: the message goes, and the StatefulSet stays. -/
theorem fourth_shard_left_behind : ∃ final sets object,
      Pass (fun _ _ ↦ True) demoWorld final ∧ final.finished = some (sets, object) ∧
        demoWorld.stored.status.shrink.map (·.partition) = some [3] ∧ object.status.shrink = none ∧
        sets (statefulSetKey demoWorld.stored 3) = some (demoSet 3) :=
  ⟨_, _, _, (pass_demo [statefulSetKey demoWorld.stored 3]).mono fun _ _ _ ↦ trivial, rfl, rfl, rfl, rfl⟩

end KvrocksOperator.Cluster.Shrinking
