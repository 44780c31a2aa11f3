import KvrocksOperator.Api.Types
import KvrocksOperator.Text.Fields

/-!
# Names and labels

The naming conventions of `pkg/resources`: instance names, StatefulSet and pod names, labels.
-/

namespace KvrocksOperator.Resources

open Text

/-! ## Instance names -/

/-- `ParseRedisName`: the system id and the name of an instance called `kvrocks-<type>-<system>-<name>`. -/
def parseRedisName (name : String) : String × String :=
  match splitN '-' name 4 with
  | [_, _, systemId, rest] => (systemId, rest)
  | _ => ("", "")

/-- `GetClusterName` -/
def getClusterName (systemId name : String) : String := "kvrocks-cluster-" ++ systemId ++ "-" ++ name

/-- `GetStatefulSetName` with an index. -/
def getStatefulSetName (name : String) (index : ℕ) : String := name ++ "-" ++ itoa index

/-- The name of the pod with an ordinal. -/
def podName (stsName : String) (ordinal : ℕ) : String := stsName ++ "-" ++ itoa ordinal

/-- The part of a name after the last dash. -/
def lastField (name : String) : String := (split '-' name).getLastD ""

/-- `GetPVCOrPodIndex`: the number after the last dash. -/
def getPVCOrPodIndex (podName : String) : Except NumError ℕ :=
  match atoi (lastField podName) with
  | (index, none) => .ok index.toNat
  | (_, some error) => .error error

theorem getPVCOrPodIndex_podName (stsName : String) {ordinal : ℕ} (h : ordinal < 2 ^ 63) :
    getPVCOrPodIndex (podName stsName ordinal) = .ok ordinal := by
  have hlast : split '-' (podName stsName ordinal) = split '-' stsName ++ [itoa ordinal] :=
    split_append_last stsName (not_mem_itoa (by decide) ordinal)
  unfold getPVCOrPodIndex lastField
  rw [hlast, List.getLastD_concat, atoi_itoa h]
  rfl

/-- The name of a StatefulSet determines its index. -/
theorem getStatefulSetName_injective (name : String) : Function.Injective (getStatefulSetName name) := by
  intro first second h
  have hlist := congrArg String.toList h
  simp only [getStatefulSetName, String.toList_append, List.append_cancel_left_eq] at hlist
  exact itoa_injective (String.toList_inj.mp hlist)

/-- The name of a StatefulSet determines its instance. -/
theorem getStatefulSetName_inj {name name' : String} {index index' : ℕ}
    (h : getStatefulSetName name index = getStatefulSetName name' index') : name = name' ∧ index = index' := by
  have hfields (name : String) (index : ℕ) :
      split '-' (getStatefulSetName name index) = split '-' name ++ [itoa index] :=
    split_append_last name (@not_mem_itoa '-' (by decide) index)
  have heq := congrArg (split '-') h
  rw [hfields, hfields] at heq
  have hindex : index = index' := itoa_injective (List.singleton_inj.mp (List.append_inj' heq rfl).2)
  subst hindex
  have hlist := congrArg String.toList h
  simp only [getStatefulSetName, String.toList_append, List.append_cancel_right_eq] at hlist
  exact ⟨String.toList_inj.mp hlist, rfl⟩

/-- The name of a pod determines its ordinal. -/
theorem podName_injective (stsName : String) : Function.Injective (podName stsName) :=
  getStatefulSetName_injective stsName

/-- Pods of different StatefulSets of one instance have different names. -/
theorem podName_getStatefulSetName_inj (name : String) {shard shard' ordinal ordinal' : ℕ}
    (h : podName (getStatefulSetName name shard) ordinal = podName (getStatefulSetName name shard') ordinal') :
    shard = shard' ∧ ordinal = ordinal' := by
  have hfields (shard ordinal : ℕ) : split '-' (podName (getStatefulSetName name shard) ordinal) =
        split '-' name ++ [itoa shard] ++ [itoa ordinal] := by
    have hpod := split_append_last (getStatefulSetName name shard) (@not_mem_itoa '-' (by decide) ordinal)
    have hsts := split_append_last name (@not_mem_itoa '-' (by decide) shard)
    calc
      split '-' (podName (getStatefulSetName name shard) ordinal) =
          split '-' (getStatefulSetName name shard) ++ [itoa ordinal] := hpod
      _ = split '-' name ++ [itoa shard] ++ [itoa ordinal] := by
        rw [show split '-' (getStatefulSetName name shard) = split '-' name ++ [itoa shard] from hsts]
  have heq := congrArg (split '-') h
  rw [hfields, hfields, List.append_assoc, List.append_assoc, List.append_cancel_left_eq] at heq
  simp only [List.singleton_append, List.cons.injEq, and_true] at heq
  exact ⟨itoa_injective heq.1, itoa_injective heq.2⟩

/-- The key of a pod of an instance determines its shard and its ordinal. -/
theorem podKey_inj {ns name : String} {shard shard' ordinal ordinal' : ℕ}
    (h : NamespacedName.mk ns (podName (getStatefulSetName name shard) ordinal) =
      ⟨ns, podName (getStatefulSetName name shard') ordinal'⟩) :
    shard = shard' ∧ ordinal = ordinal' :=
  podName_getStatefulSetName_inj name (congrArg NamespacedName.name h)

/-! ## Labels -/

def monitoredBy : String := "kvrocks/monitored-by"

def kvrocksRole : String := "kvrocks/role"

def statefulSetLabel : String := "kvrocks/statefulset"

/-- `MergeLabels` of two maps: the second one wins. -/
def mergeLabels (labels others : StringMap) : StringMap :=
  others.foldl (fun merged entry ↦ merged.set entry.1 entry.2) labels

/-- `StatefulSetLabels` -/
def statefulSetLabels (name : String) : StringMap := [(statefulSetLabel, name)]

/-- `SelectorLabels` -/
def selectorLabels (instance_ : KVRocks) : StringMap :=
  [("app.kubernetes.io/kind", instance_.kind), ("kvrocks/name", instance_.name)]

/-- `MonitorLabels` -/
def monitorLabels (sentinel : String) : StringMap := [(monitoredBy, sentinel)]

/-- `SentinelLabels` -/
def sentinelLabels : StringMap := [("sentinel", "true")]

end KvrocksOperator.Resources
