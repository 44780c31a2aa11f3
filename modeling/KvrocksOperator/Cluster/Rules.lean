import KvrocksOperator.Cluster.Kubernetes

/-!
# Rules for writing the instance

The handler writes the persisted object in a few ways only.  These rules say what each of them needs of the answer to
the update, for every meaning of programs.
-/

namespace KvrocksOperator.Cluster

open Interaction

variable {W : Type} {M : Meaning operator W} {fail crash : W → Prop} {h : Handler} {world : W}

/-- What an update of the object has to establish: `post` of the object with its new resource version, or `fail`. -/
def Updates (M : Meaning operator W) (fail : W → Prop) (instance_ : KVRocks)
    (post : KVRocks → W → Prop) (world : W) : Prop :=
  M.wp (ask (.updateKVRocks instance_)) (fun reply final ↦ (Fallible.ofReply GoError.api reply).Meets (fail final)
      fun resourceVersion ↦ post { instance_ with resourceVersion := resourceVersion } final) world

/-- An update never panics. -/
theorem updateKVRocks_ends {instance_ : KVRocks} {post : KVRocks → W → Prop}
    (hupdate : Updates M fail instance_ post world) : (K8s.updateKVRocks instance_).Ends M fail crash post world := by
  have hask : (Go.api (ask (.updateKVRocks instance_))).Ends M fail crash
      (fun resourceVersion final ↦ post { instance_ with resourceVersion := resourceVersion } final)
      world := by
    apply ends_attempt
    apply M.wp_mono hupdate
    intro reply final hreply
    cases reply <;> exact hreply
  exact hask.bind fun resourceVersion final hpost ↦ ends_pure hpost

theorem updateKVRocks_yields {instance_ : KVRocks} {post : KVRocks → W → Prop}
    (hupdate : Updates M fail instance_ post world) : (K8s.updateKVRocks instance_).Yields M fail post world :=
  updateKVRocks_ends hupdate

variable {post : Unit → Handler → W → Prop}

theorem saveInstance_yields {σ : Type} {held : σ → KVRocks} {hold : KVRocks → σ → σ} {post : Unit → σ → W → Prop}
    {h : σ} (hupdate : Updates M fail (held h) (fun saved final ↦ post () (hold saved h) final) world) :
    (Common.saveInstance held hold).Yields M fail post h world := by
  apply ends_get_bind
  refine ends_lift_bind (updateKVRocks_yields hupdate) fun saved final hpost ↦ ?_
  exact ends_modify hpost

theorem saveInstanceOrRequeue_ends
    (hupdate : Updates M fail h.instance_ (fun saved final ↦ post () { h with instance_ := saved } final) world) :
    saveInstanceOrRequeue.Ends M fail crash post h world := by
  apply ends_get_bind
  refine ends_lift_bind (ends_handle_kept (updateKVRocks_ends hupdate)) fun result final hresult ↦ ?_
  cases result with
  | ok saved => exact ends_modify hresult
  | error error =>
    apply ends_modify_bind
    exact Method.ends_throw error hresult

theorem saveInstanceOrRequeue_yields
    (hupdate : Updates M fail h.instance_ (fun saved final ↦ post () { h with instance_ := saved } final) world) :
    saveInstanceOrRequeue.Yields M fail post h world :=
  saveInstanceOrRequeue_ends hupdate

/-- The object with the topology of a matrix and a version. -/
def withTopo (instance_ : KVRocks) (shards : List (List (Option Node))) (version : ℤ) :
    KVRocks :=
  { instance_ with status :=
      { instance_.status with topo := statusTopo instance_.name shards, version := version } }

theorem persistTopo_yields {shards : List (List (Option Node))}
    (hupdate : Updates M fail (withTopo h.instance_ shards h.version)
      (fun saved final ↦ post () { h with instance_ := saved } final) world) :
    (persistTopo shards).Yields M fail post h world := by
  apply ends_modify_bind
  exact saveInstanceOrRequeue_yields hupdate

theorem ensureStatusTopoMsg_ends
    (hupdate : Updates M fail (withTopo h.instance_ (h.stsNodes.map (·.map some)) h.version)
      (fun saved final ↦
        post () { h with instance_ := saved, stsNodes := h.stsNodes.map (·.map sortSlots) } final) world) :
    ensureStatusTopoMsg.Ends M fail crash post h world := by
  apply ends_get_bind
  apply ends_modify_bind
  apply ends_modify_bind
  exact saveInstanceOrRequeue_ends hupdate

theorem ensureStatusTopoMsg_yields
    (hupdate : Updates M fail (withTopo h.instance_ (h.stsNodes.map (·.map some)) h.version)
      (fun saved final ↦
        post () { h with instance_ := saved, stsNodes := h.stsNodes.map (·.map sortSlots) } final) world) :
    ensureStatusTopoMsg.Yields M fail post h world :=
  ensureStatusTopoMsg_ends hupdate

end KvrocksOperator.Cluster
