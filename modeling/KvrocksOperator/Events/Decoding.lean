import KvrocksOperator.Events.Failover
import KvrocksOperator.Sentinel.Monitor

/-!
# Registered master names and the listener

A sentinel instance registers the masters of shards under names that the listener takes apart again.  The registration
keeps everything after the third dash of the instance name, while the listener splits at every dash, so the two agree
only on names without a further dash.
-/

namespace KvrocksOperator.Events

open Text Resources

/-- A payload of `+odown` about a master: its second field is the registered name, followed by the address of the
master. -/
def IsOdown (masterName payload : String) : Prop :=
  ∃ kind ip port rest, split ' ' payload = kind :: masterName :: ip :: port :: rest

/-- The listener asks for a failover of one shard of one instance. -/
def AsksFailover (system namespaceName payload : String) (key : NamespacedName) (index : ℤ) : Prop :=
  ∃ ip port, decode system namespaceName payload = some (.add ip port key index)

/-! ## Names -/

/-- The dash that separates two parts of a name. -/
theorem dash_eq_singleton : "-" = String.singleton '-' := rfl

/-- A system id and a name are determined by the cluster name they make when neither system id has a dash. -/
theorem getClusterName_inj {system system' name name' : String} (h : '-' ∉ system.toList) (h' : '-' ∉ system'.toList)
    (heq : getClusterName system name = getClusterName system' name') : system = system' ∧ name = name' := by
  have hlist (system name : String) : (getClusterName system name).toList =
      "kvrocks-cluster-".toList ++ (system.toList ++ '-' :: name.toList) := by
    unfold getClusterName
    rw [String.toList_append, String.toList_append, String.toList_append, List.append_assoc, List.append_assoc]
    rfl
  have hrest : system.toList ++ '-' :: name.toList = system'.toList ++ '-' :: name'.toList := by
    apply List.append_cancel_left
    rw [← hlist, ← hlist, heq]
  have hcut := congrArg (cut '-') hrest
  rw [cut_append h, cut_append h'] at hcut
  have hpair := Prod.mk.inj (Option.some.inj hcut)
  exact ⟨String.toList_inj.mp hpair.1, String.toList_inj.mp hpair.2⟩

/-- The system id that `ParseRedisName` finds has no dash. -/
theorem parseRedisName_system_free (instanceName : String) : '-' ∉ (parseRedisName instanceName).1.toList := by
  unfold parseRedisName
  split
  · rename_i kind type system rest hfields
    have hlist : splitNList '-' 4 instanceName.toList = [kind.toList, type.toList, system.toList, rest.toList] := by
      have hmap := congrArg (List.map String.toList) hfields
      simpa [splitN, Function.comp_def] using hmap
    have hfree := @splitNList_dropLast_free '-' 4 instanceName.toList
    rw [hlist] at hfree
    exact hfree system.toList (by simp)
  · decide

/-- The system id of a listener has no dash. -/
theorem systemId_free {sentinelName system : String} (h : systemId sentinelName = some system) : '-' ∉ system.toList :=
  not_mem_of_mem_split (List.mem_of_getElem? h)

/-! ## Decoding -/

/-- The namespace of a listener is the part of its key before the slash. -/
theorem namespace_of_key {ns : String} (pod : String) (h : '/' ∉ ns.toList) :
    (split '/' (ns ++ "/" ++ pod)).headD "" = ns := by
  have hkey : ns ++ "/" ++ pod = ns ++ String.singleton '/' ++ pod := rfl
  rw [hkey, split_append h]
  rfl

/-- A master name without a dash is taken for a standard instance and skipped. -/
theorem decode_of_not_mem {system namespaceName payload masterName : String} (hpayload : IsOdown masterName payload)
    (h : '-' ∉ masterName.toList) : decode system namespaceName payload = some .skip := by
  obtain ⟨kind, ip, port, rest, hfields⟩ := hpayload
  have hmaster : split '-' masterName = [masterName] := split_of_not_mem h
  simp [decode, hfields, hmaster]

/-- Any other master name is taken for a shard: the instance is named by its first field and the shard by the second
one. -/
theorem decode_of_split (system namespaceName : String) {payload masterName first second : String}
    {others : List String} (hpayload : IsOdown masterName payload)
    (h : split '-' masterName = first :: second :: others) :
    ∃ ip port, decode system namespaceName payload =
      some (.add ip port ⟨(split '/' namespaceName).headD "", getClusterName system first⟩ (atoi second).1) := by
  obtain ⟨kind, ip, port, rest, hfields⟩ := hpayload
  refine ⟨ip, port, ?_⟩
  simp [decode, hfields, h]

/-- A text with a dash has a second field. -/
theorem exists_split_of_mem {text : String} (h : '-' ∈ text.toList) :
    ∃ first second others, split '-' text = first :: second :: others := by
  have hlength : (split '-' text).length ≠ 1 := fun hone ↦ split_length_eq_one_iff.mp hone h
  match hfields : split '-' text with
  | [] => exact absurd hfields (split_ne_nil '-' text)
  | [only] => exact absurd (congrArg List.length hfields) hlength
  | first :: second :: others => exact ⟨first, second, others, rfl⟩

/-- The master name of a standard instance is skipped exactly when it has no dash. -/
theorem decode_standard_iff {system namespaceName payload name : String} (hpayload : IsOdown name payload) :
    decode system namespaceName payload = some .skip ↔ '-' ∉ name.toList := by
  constructor
  · intro hskip hmem
    obtain ⟨first, second, others, hfields⟩ := exists_split_of_mem hmem
    obtain ⟨ip, port, hadd⟩ := decode_of_split system namespaceName hpayload hfields
    rw [hadd] at hskip
    cases hskip
  · exact decode_of_not_mem hpayload

/-- The master name of a shard is decoded to its instance and shard exactly when the name of the instance has no dash
and the listener belongs to the system of the instance. -/
theorem decode_cluster_iff {system sys name ns pod payload : String} {index : ℕ} (hsystem : '-' ∉ system.toList)
    (hsys : '-' ∉ sys.toList) (hns : '/' ∉ ns.toList) (hindex : index < 2 ^ 63)
    (hpayload : IsOdown (name ++ "-" ++ itoa index) payload) :
    AsksFailover system (ns ++ "/" ++ pod) payload ⟨ns, getClusterName sys name⟩ index ↔
      '-' ∉ name.toList ∧ system = sys := by
  have hdigits : '-' ∉ (itoa index).toList := not_mem_itoa (by decide) index
  constructor
  · rintro ⟨ip, port, hdecode⟩
    have hmem : '-' ∈ (name ++ "-" ++ itoa index).toList := by
      simp [String.toList_append]
    obtain ⟨first, second, others, hfields⟩ := exists_split_of_mem hmem
    obtain ⟨ip', port', hadd⟩ := decode_of_split system (ns ++ "/" ++ pod) hpayload hfields
    rw [hadd] at hdecode
    injection hdecode with hdecoded
    injection hdecoded with _ _ hkey _
    injection hkey with _ hname
    obtain ⟨hsame, hfirst⟩ := getClusterName_inj hsystem hsys hname
    have hfree : '-' ∉ first.toList := by
      apply @not_mem_of_mem_split '-' (name ++ "-" ++ itoa index)
      rw [hfields]
      exact List.mem_cons_self
    exact ⟨hfirst ▸ hfree, hsame⟩
  · rintro ⟨hname, rfl⟩
    have hfields : split '-' (name ++ "-" ++ itoa index) = [name, itoa index] := by
      rw [dash_eq_singleton, split_append hname, split_of_not_mem hdigits]
    obtain ⟨ip, port, hadd⟩ := decode_of_split system (ns ++ "/" ++ pod) hpayload hfields
    refine ⟨ip, port, ?_⟩
    rw [hadd, namespace_of_key pod hns, atoi_itoa hindex]

/-- The listener of a sentinel decodes the registered name of every shard of a cluster instance to that shard, and
skips the registered name of a standard instance, exactly when the instance name has no dash after its third one and,
for a cluster instance, the sentinel belongs to the same system. -/
theorem registered_names_decode_iff {sentinelName system ns pod : String}
    (hsystem : systemId sentinelName = some system) (hns : '/' ∉ ns.toList) :
    (∀ instanceName sys name, parseRedisName instanceName = (sys, name) →
      instanceName = getClusterName sys name → ∀ index : ℕ, index < 2 ^ 63 → ∀ payload,
      IsOdown (Sentinel.clusterMasterName instanceName index) payload →
      (AsksFailover system (ns ++ "/" ++ pod) payload ⟨ns, instanceName⟩ index ↔ '-' ∉ name.toList ∧ system = sys)) ∧
    ∀ instanceName sys name, parseRedisName instanceName = (sys, name) → ∀ payload,
      IsOdown (Sentinel.standardMasterName instanceName) payload →
      (decode system (ns ++ "/" ++ pod) payload = some .skip ↔ '-' ∉ name.toList) := by
  constructor
  · intro instanceName sys name hparse hinstance index hindex payload hpayload
    have hsys : '-' ∉ sys.toList := by
      have hfree := parseRedisName_system_free instanceName
      rwa [hparse] at hfree
    have hmaster : Sentinel.clusterMasterName instanceName index = name ++ "-" ++ itoa index := by
      unfold Sentinel.clusterMasterName
      rw [hparse]
    rw [hmaster] at hpayload
    rw [hinstance]
    exact decode_cluster_iff (systemId_free hsystem) hsys hns hindex hpayload
  · intro instanceName sys name hparse payload hpayload
    have hmaster : Sentinel.standardMasterName instanceName = name := by
      unfold Sentinel.standardMasterName
      rw [hparse]
    rw [hmaster] at hpayload
    exact decode_standard_iff hpayload

/-- A message about shard 1 of `kvrocks-cluster-22-demo`. -/
theorem registered_names_decode_system22 :
    AsksFailover "22" ("default" ++ "/" ++ "sentinel-22-0") "master demo-1 10.0.0.7 6379"
      ⟨"default", "kvrocks-cluster-22-demo"⟩ (1 : ℕ) := by
  have hsystem : systemId "sentinel-22" = some "22" := by decide
  have hodown : IsOdown (Sentinel.clusterMasterName "kvrocks-cluster-22-demo" 1)
      "master demo-1 10.0.0.7 6379" := ⟨"master", "10.0.0.7", "6379", [], by decide⟩
  exact ((registered_names_decode_iff hsystem (by decide)).1 "kvrocks-cluster-22-demo" "22" "demo"
    (by decide) (by decide) 1 (by decide) _ hodown).mpr ⟨by decide, rfl⟩

/-- The cluster instance `kvrocks-cluster-22-my-app` is taken for `kvrocks-cluster-22-my`, and the standard instance
`kvrocks-standard-22-test-0` for shard 0 of `kvrocks-cluster-22-test`. -/
theorem dashed_names_decode_to_other_instances : (parseRedisName "kvrocks-cluster-22-my-app" = ("22", "my-app") ∧
      getClusterName "22" "my-app" = "kvrocks-cluster-22-my-app" ∧
      Sentinel.clusterMasterName "kvrocks-cluster-22-my-app" 1 = "my-app-1" ∧
      decode "22" "default/sentinel-22-0" "master my-app-1 10.0.0.7 6379" =
        some (.add "10.0.0.7" "6379" ⟨"default", "kvrocks-cluster-22-my"⟩ 0)) ∧
    Sentinel.standardMasterName "kvrocks-standard-22-test-0" = "test-0" ∧
      decode "22" "default/sentinel-22-0" "master test-0 10.0.0.8 6379" =
        some (.add "10.0.0.8" "6379" ⟨"default", "kvrocks-cluster-22-test"⟩ 0) := by
  decide

end KvrocksOperator.Events
