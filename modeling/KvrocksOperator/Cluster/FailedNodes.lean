import KvrocksOperator.Cluster.Rules
import KvrocksOperator.Cluster.Kvrocks

/-!
# The nodes that `ensureFailover` destroys

A node whose record says that it has failed over, and that does not answer a ping, is replaced: its claim and its pod
are deleted.  `ensureFailover` makes the name of the pod from the position of the node in its shard, not from its
ordinal.  The two differ as soon as an ordinal below the node is missing, and then the claim and the pod of another
node are deleted, or the pass ends with the error for a pod that does not exist.
-/

namespace KvrocksOperator.Cluster.FailedNodes

open Interaction Resources

/-! ## Runs -/

/-- Which nodes answer a ping, and which pods and claims there are when the phase starts. -/
structure Setting where
  alive : String → Bool
  pods : NamespacedName → Bool
  claims : NamespacedName → Bool

/-- What is answered to the calls of the phase, where every call to the API server may fail.  The world is the list of
the deletions that were asked for. -/
def Setting.Answers (setting : Setting) : Program.Answers operator (List Call)
  | .node ip _ .ping, before, reply, after => after = before ∧ reply.isOk = setting.alive ip
  | .getPod key, before, reply, after =>
    after = before ∧ (reply = .error .notFound → setting.pods key = false) ∧
      (reply.isOk = true → setting.pods key = true)
  | .deletePod key, before, _, after => after = .deletePod key :: before
  | .deletePVC key, before, _, after => after = .deletePVC key :: before
  | _, before, _, after => after = before

/-- The answers of an API server that does not fail. -/
def Setting.Succeeds (setting : Setting) : (request : Call) → request.Reply → Prop
  | .getPod key, reply =>
    if setting.pods key then reply.isOk = true else reply = .error .notFound
  | .getPVC key, reply =>
    if setting.claims key then reply.isOk = true else reply = .error .notFound
  | .deletePod _, reply => reply.isOk = true
  | .deletePVC _, reply => reply.isOk = true
  | .updateKVRocks _, reply => reply.isOk = true
  | _, _ => True

def Setting.Faultless (setting : Setting) : Program.Answers operator (List Call) :=
  fun request before reply after ↦ setting.Answers request before reply after ∧ setting.Succeeds request reply

variable {setting : Setting} {h : Handler} {crash : List Call → Prop}

/-! ## The property -/

/-- The pod with an ordinal of a shard. -/
def podKey (h : Handler) (partition ordinal : ℕ) : NamespacedName :=
  ⟨h.instance_.ns, podName (getStatefulSetName h.instance_.name partition) ordinal⟩

/-- The claim of that pod. -/
def claimKey (h : Handler) (partition ordinal : ℕ) : NamespacedName :=
  ⟨h.instance_.ns, "data-" ++ podName (getStatefulSetName h.instance_.name partition) ordinal⟩

/-- The node at a position of the matrix has failed over and does not answer. -/
structure Failed (setting : Setting) (h : Handler) (partition index : ℕ) (node : Node) : Prop where
  stands : (h.stsNodes[partition]?.bind (·[index]?)) = some node
  failover : node.failover = true
  dead : setting.alive node.ip = false

/-- The request deletes the pod or the claim of a failed node. -/
def Rightful (setting : Setting) (h : Handler) (request : Call) : Prop :=
  ∃ partition index node, Failed setting h partition index node ∧
    (request = .deletePod (podKey h partition node.podIndex) ∨
      request = .deletePVC (claimKey h partition node.podIndex))

/-- Only failed nodes are destroyed, all of them are when no call fails, and no missing pod is dereferenced. -/
structure DestroysTheFailed (setting : Setting) (h : Handler) : Prop where
  only : ∀ result deletions, Exec setting.Answers (ensureFailover.on h) [] result deletions →
    ∀ request ∈ deletions, Rightful setting h request
  all : ∀ result deletions, Exec setting.Faultless (ensureFailover.on h) [] result deletions →
    ∀ partition index node, Failed setting h partition index node →
      .deletePod (podKey h partition node.podIndex) ∈ deletions ∧
        (setting.claims (claimKey h partition node.podIndex) = true →
          .deletePVC (claimKey h partition node.podIndex) ∈ deletions)
  dereferences : ∀ result deletions, Exec setting.Answers (ensureFailover.on h) [] result deletions → result.1 ≠ .panic

/-- Every failed node stands at the position of its ordinal. -/
def InPlace (setting : Setting) (h : Handler) : Prop :=
  ∀ partition index node, Failed setting h partition index node → node.podIndex = index

/-- Every node of the matrix is a pod that exists. -/
def Listed (setting : Setting) (h : Handler) : Prop :=
  ∀ (partition index : ℕ) (node : Node), (h.stsNodes[partition]?.bind (·[index]?)) = some node →
    setting.pods (podKey h partition node.podIndex) = true

/-! ## Single calls -/

theorem ping_ends {step : Program.Answers operator (List Call)} {fail : List Call → Prop}
    (hstep : ∀ request before reply after, step request before reply after → setting.Answers request before reply after)
    (ip password : String) (deletions : List Call) :
    (Kvrocks.ping ip password).Ends (.sequential step) fail crash
      (fun alive later ↦ alive = setting.alive ip ∧ later = deletions) deletions := by
  apply ends_lift
  intro reply later hreply
  obtain ⟨rfl, halive⟩ := hstep _ _ _ _ hreply
  cases reply with
  | ok _ => exact ⟨halive, rfl⟩
  | error _ => exact ⟨halive, rfl⟩

variable {deletions : List Call} {name ns : String}

/-- Whatever fails, the only claim that is deleted is the one named after the pod. -/
theorem deletePVCByPod_ends {inv : List Call → Prop} (hinv : inv deletions)
    (hdelete : inv (.deletePVC ⟨ns, "data-" ++ name⟩ :: deletions)) :
    (K8s.deletePVCByPod name ns).Ends (.sequential setting.Answers) inv crash (fun _ ↦ inv) deletions := by
  unfold K8s.deletePVCByPod
  apply Fallible.ends_lift_bind
  rintro reply later rfl
  cases reply with
  | error error => exact ends_pure hinv
  | ok _ =>
    apply Fallible.ends_lift_bind
    rintro reply later rfl
    match reply with
    | .ok _ => exact ends_pure hdelete
    | .error .notFound => exact ends_pure hdelete
    | .error .alreadyExists | .error .conflict | .error .forbidden | .error .invalid
    | .error (.other _) => exact ends_throw _ hdelete

/-- Whatever fails, no other pod is deleted; a pod that does not exist is an error. -/
theorem deletePodImmediately_ends {inv : List Call → Prop} (hinv : inv deletions)
    (hdelete : inv (.deletePod ⟨ns, name⟩ :: deletions)) :
    (K8s.deletePodImmediately name ns).Ends (.sequential setting.Answers) inv crash (fun _ ↦ inv) deletions := by
  unfold K8s.deletePodImmediately
  apply Fallible.ends_lift_bind
  rintro reply later ⟨rfl, -, -⟩
  match reply with
  | .error .notFound | .error .alreadyExists | .error .conflict | .error .forbidden | .error .invalid
  | .error (.other _) => exact ends_throw _ hinv
  | .ok _ =>
    apply Fallible.ends_lift_bind
    rintro reply later rfl
    match reply with
    | .ok _ => exact ends_pure hdelete
    | .error .notFound => exact ends_pure hdelete
    | .error .alreadyExists | .error .conflict | .error .forbidden | .error .invalid
    | .error (.other _) => exact ends_throw _ hdelete

/-- Without failures the claim is deleted if there is one. -/
theorem deletePVCByPod_deletes (name ns : String) (deletions : List Call) :
    (K8s.deletePVCByPod name ns).Ends (.sequential setting.Faultless) (fun _ ↦ False) crash
      (fun _ later ↦ deletions ⊆ later ∧ (setting.claims ⟨ns, "data-" ++ name⟩ = true →
        .deletePVC ⟨ns, "data-" ++ name⟩ ∈ later)) deletions := by
  unfold K8s.deletePVCByPod
  apply Fallible.ends_lift_bind
  rintro reply later ⟨rfl, hsucceeds⟩
  cases reply with
  | error error =>
    refine ends_pure ⟨fun _ hmem ↦ hmem, fun hclaim ↦ ?_⟩
    simp [Setting.Succeeds, hclaim, Except.isOk, Except.toBool] at hsucceeds
  | ok _ =>
    apply Fallible.ends_lift_bind
    rintro reply last ⟨rfl, hdeleted⟩
    cases reply with
    | error error => cases hdeleted
    | ok _ => exact ends_pure ⟨List.subset_cons_self _ _, fun _ ↦ List.mem_cons_self⟩

/-- Without failures a pod that exists is deleted. -/
theorem deletePodImmediately_deletes (hexists : setting.pods ⟨ns, name⟩ = true) (deletions : List Call) :
    (K8s.deletePodImmediately name ns).Ends (.sequential setting.Faultless) (fun _ ↦ False) crash
      (fun _ later ↦ deletions ⊆ later ∧ .deletePod ⟨ns, name⟩ ∈ later) deletions := by
  unfold K8s.deletePodImmediately
  apply Fallible.ends_lift_bind
  rintro reply later ⟨⟨rfl, -, -⟩, hsucceeds⟩
  cases reply with
  | error error => simp [Setting.Succeeds, hexists, Except.isOk, Except.toBool] at hsucceeds
  | ok pod =>
    apply Fallible.ends_lift_bind
    rintro reply last ⟨rfl, hdeleted⟩
    cases reply with
    | error error => cases hdeleted
    | ok _ => exact ends_pure ⟨List.subset_cons_self _ _, List.mem_cons_self⟩

/-! ## The loops -/

/-- The request deletes the pod or the claim with the number of the position of a failed node. -/
def Positional (setting : Setting) (h : Handler) (request : Call) : Prop :=
  ∃ partition index node, Failed setting h partition index node ∧
    (request = .deletePod (podKey h partition index) ∨ request = .deletePVC (claimKey h partition index))

/-- What the phase does to the world and to its receiver: deletions by position, on the same instance. -/
def ByPosition (setting : Setting) (h state : Handler) (deletions : List Call) : Prop :=
  state.instance_ = h.instance_ ∧ ∀ request ∈ deletions, Positional setting h request

variable {partition : ℕ} {state : Handler}

theorem failoverNode_ends {index : ℕ} {node : Node}
    (hstands : (h.stsNodes[partition]?.bind (·[index]?)) = some node) (hstate : ByPosition setting h state deletions) :
    (failoverNode partition index node).Ends (.sequential setting.Answers)
      (fun later ↦ ∀ request ∈ later, Positional setting h request) (fun _ ↦ False)
      (fun _ later final ↦ ByPosition setting h later final) state deletions := by
  obtain ⟨hinstance, hpositional⟩ := hstate
  apply ends_get_bind
  split
  · rename_i hfailover
    apply ends_modify_bind
    apply ends_lift_bind (ping_ends (fun _ _ _ _ hanswer ↦ hanswer) _ _ _)
    rintro alive later ⟨halive, rfl⟩
    split
    · exact Method.ends_pure ⟨hinstance, hpositional⟩
    · rename_i hdead
      have hfailed : Failed setting h partition index node := ⟨hstands, hfailover, by simpa [← halive] using hdead⟩
      simp only [hinstance]
      have hclaim : Positional setting h (.deletePVC (claimKey h partition index)) :=
        ⟨partition, index, node, hfailed, .inr rfl⟩
      have hpod : Positional setting h (.deletePod (podKey h partition index)) :=
        ⟨partition, index, node, hfailed, .inl rfl⟩
      apply ends_lift_bind (deletePVCByPod_ends hpositional (List.forall_mem_cons.mpr ⟨hclaim, hpositional⟩))
      intro _ later hlater
      apply ends_lift_bind (deletePodImmediately_ends hlater (List.forall_mem_cons.mpr ⟨hpod, hlater⟩))
      intro _ last hlast
      exact Method.ends_pure ⟨rfl, hlast⟩
  · apply ends_lift_bind (ping_ends (fun _ _ _ _ hanswer ↦ hanswer) _ _ _)
    rintro alive later ⟨halive, rfl⟩
    split
    · exact Method.ends_pure ⟨hinstance, hpositional⟩
    · apply ends_modify_bind
      apply ends_lift_bind (ends_lift fun _ last hlast ↦ hlast)
      rintro _ last rfl
      exact Method.ends_pure ⟨hinstance, hpositional⟩

/-- The node at a position has been dealt with: if it failed, the pod with the number of the position is deleted, and
its claim. -/
def Dealt (setting : Setting) (h : Handler) (partition : ℕ) (item : Node × ℕ) (deletions : List Call) :
    Prop :=
  item.1.failover = true → setting.alive item.1.ip = false → .deletePod (podKey h partition item.2) ∈ deletions ∧
      (setting.claims (claimKey h partition item.2) = true → .deletePVC (claimKey h partition item.2) ∈ deletions)

theorem Dealt.later {item : Node × ℕ} {later : List Call} (hdealt : Dealt setting h partition item deletions)
    (hlater : deletions ⊆ later) : Dealt setting h partition item later := by
  intro hfailover hdead
  obtain ⟨hpod, hclaim⟩ := hdealt hfailover hdead
  exact ⟨hlater hpod, fun hclaims ↦ hlater (hclaim hclaims)⟩

theorem failoverNode_deals {index : ℕ} {node : Node} (hinstance : state.instance_ = h.instance_)
    (hpods : Failed setting h partition index node → setting.pods (podKey h partition index) = true)
    (hstands : (h.stsNodes[partition]?.bind (·[index]?)) = some node) :
    (failoverNode partition index node).Ends (.sequential setting.Faultless) (fun _ ↦ False) crash
      (fun _ later final ↦ Dealt setting h partition (node, index) final ∧
        later.instance_ = h.instance_ ∧ deletions ⊆ final) state deletions := by
  apply ends_get_bind
  split
  · rename_i hfailover
    apply ends_modify_bind
    apply ends_lift_bind (ping_ends (fun _ _ _ _ hanswer ↦ hanswer.1) _ _ _)
    rintro alive later ⟨halive, rfl⟩
    split
    · rename_i hanswered
      refine Method.ends_pure ⟨fun _ hdead ↦ ?_, hinstance, fun _ hmem ↦ hmem⟩
      simp [← halive, hanswered] at hdead
    · rename_i hdead
      have hfailed : Failed setting h partition index node := ⟨hstands, hfailover, by simpa [← halive] using hdead⟩
      simp only [hinstance]
      apply ends_lift_bind (deletePVCByPod_deletes _ _ _)
      rintro _ claimed ⟨hclaimed, hclaim⟩
      apply ends_lift_bind (deletePodImmediately_deletes (hpods hfailed) _)
      rintro _ last ⟨hlast, hpod⟩
      refine Method.ends_pure ⟨fun _ _ ↦ ⟨hpod, fun hclaims ↦ hlast (hclaim hclaims)⟩, rfl, ?_⟩
      exact fun _ hmem ↦ hlast (hclaimed hmem)
  · rename_i hhealthy
    apply ends_lift_bind (ping_ends (fun _ _ _ _ hanswer ↦ hanswer.1) _ _ _)
    rintro alive later ⟨halive, rfl⟩
    have hdealt : Dealt setting h partition (node, index) later := fun hfailover ↦ absurd hfailover hhealthy
    split
    · exact Method.ends_pure ⟨hdealt, hinstance, fun _ hmem ↦ hmem⟩
    · apply ends_modify_bind
      apply ends_lift_bind (ends_lift fun _ last hlast ↦ hlast.1)
      rintro _ last rfl
      exact Method.ends_pure ⟨hdealt, hinstance, fun _ hmem ↦ hmem⟩

/-- A node of the loops stands where the loops say. -/
theorem stands_of_mem {nodes : List Node} {index : ℕ} {node : Node}
    (hshard : (nodes, partition) ∈ h.stsNodes.zipIdx) (hnode : (node, index) ∈ nodes.zipIdx) :
    (h.stsNodes[partition]?.bind (·[index]?)) = some node := by
  rw [List.mem_zipIdx_iff_getElem?] at hshard hnode
  simpa [hshard] using hnode

/-- The end of the phase makes no deletion. -/
theorem finish_ends {step : Program.Answers operator (List Call)} {fail inv : List Call → Prop}
    (hupdate : ∀ instance_ before reply after, step (.updateKVRocks instance_) before reply after →
      after = before ∧ (reply.isOk = true ∨ (inv before → fail before)))
    (results : List (List (Node × Bool))) (state : Handler) {deletions : List Call}
    (hinv : inv deletions) :
    Method.Ends (.sequential step) fail crash (do
      Method.modify fun h ↦ { h with stsNodes := results.map (·.map Prod.fst) }
      if results.any (·.any Prod.snd) then do
        Method.modify fun h ↦ { h with version := Kvrocks.wrapInt (h.version + 1) }
        ensureStatusTopoMsg
      else pure () : HandlerM Unit) (fun _ _ ↦ inv) state deletions := by
  apply ends_modify_bind
  split
  · apply ends_modify_bind
    apply ensureStatusTopoMsg_ends
    intro reply later hreply
    obtain ⟨rfl, hok⟩ := hupdate _ _ _ _ hreply
    cases reply with
    | ok version => exact hinv
    | error error => exact (hok.resolve_left (by simp [Except.isOk, Except.toBool])) hinv
  · exact Method.ends_pure hinv

/-- Whatever fails, every deletion is made by position, and nothing is dereferenced in vain. -/
theorem ensureFailover_ends : ensureFailover.Ends (.sequential setting.Answers)
      (fun later ↦ ∀ request ∈ later, Positional setting h request) (fun _ ↦ False)
      (fun _ _ later ↦ ∀ request ∈ later, Positional setting h request) h [] := by
  have hstart : ByPosition setting h h [] := ⟨rfl, by simp⟩
  apply ends_get_bind
  apply (Method.ends_mapEach hstart ?_).bind
  · intro results later final hfinal
    apply finish_ends ?_ results later hfinal.2
    intro instance_ before reply after hafter
    exact ⟨hafter, .inr fun hpositional ↦ hpositional⟩
  · rintro ⟨nodes, partition⟩ hshard state deletions hstate
    apply Method.ends_mapEach hstate
    rintro ⟨node, index⟩ hnode state deletions hstate
    exact failoverNode_ends (stands_of_mem hshard hnode) hstate

section Deals

variable (hpods : ∀ partition index node, Failed setting h partition index node →
  setting.pods (podKey h partition index) = true)

include hpods

theorem shard_deals {nodes : List Node} (hshard : (nodes, partition) ∈ h.stsNodes.zipIdx)
    (hinstance : state.instance_ = h.instance_) :
    (mapEach (fun (node, index) ↦ failoverNode partition index node) nodes.zipIdx).Ends
      (.sequential setting.Faultless) (fun _ ↦ False) crash
      (fun _ later final ↦ (∀ item ∈ nodes.zipIdx, Dealt setting h partition item final) ∧
        later.instance_ = h.instance_ ∧ deletions ⊆ final) state deletions := by
  apply Method.ends_mapEach_done (Dealt setting h partition) (fun (later : Handler) _ ↦ later.instance_ = h.instance_)
    (· ⊆ ·) List.Subset.refl List.Subset.trans (fun hlater hdealt ↦ hdealt.later hlater) hinstance
  intro item hitem state deletions hstate
  exact failoverNode_deals hstate (hpods partition item.2 item.1) (stands_of_mem hshard hitem)

/-- If the pods with the numbers of the positions exist, every node is dealt with unless a call fails. -/
theorem ensureFailover_deals : ensureFailover.Ends (.sequential setting.Faultless) (fun _ ↦ False) (fun _ ↦ False)
      (fun _ _ later ↦ ∀ partition index node, Failed setting h partition index node →
        Dealt setting h partition (node, index) later) h [] := by
  apply ends_get_bind
  apply (Method.ends_mapEach_done (fun (shard : List Node × ℕ) later ↦
      ∀ item ∈ shard.1.zipIdx, Dealt setting h shard.2 item later)
    (fun (later : Handler) _ ↦ later.instance_ = h.instance_) (· ⊆ ·) List.Subset.refl List.Subset.trans
    (fun hlater hdealt item hitem ↦ (hdealt item hitem).later hlater) rfl
    fun shard hshard state deletions hstate ↦ shard_deals hpods hshard hstate).bind
  rintro results later final ⟨hdealt, -, -⟩
  have hpositions (partition index : ℕ) (node : Node)
      (hfailed : Failed setting h partition index node) : Dealt setting h partition (node, index) final := by
    obtain ⟨nodes, hnodes, hnode⟩ := Option.bind_eq_some_iff.mp hfailed.stands
    exact hdealt (nodes, partition) (List.mem_zipIdx_iff_getElem?.mpr hnodes) (node, index)
      (List.mem_zipIdx_iff_getElem?.mpr hnode)
  apply finish_ends ?_ results later hpositions
  intro instance_ before reply after hafter
  exact ⟨hafter.1, .inl hafter.2⟩

/-- In a run without failures every node is dealt with. -/
theorem dealt_of_exec {result : Outcome GoError Unit × Handler}
    (hexec : Exec setting.Faultless (ensureFailover.on h) [] result deletions) {index : ℕ}
    {node : Node} (hfailed : Failed setting h partition index node) :
    .deletePod (podKey h partition index) ∈ deletions ∧
      (setting.claims (claimKey h partition index) = true → .deletePVC (claimKey h partition index) ∈ deletions) := by
  have hend := (ensures_iff_exec _ _ _).mp (ensureFailover_deals hpods) result deletions hexec
  obtain ⟨outcome, later⟩ := result
  cases outcome with
  | ok _ => exact hend partition index node hfailed hfailed.failover hfailed.dead
  | err error => exact hend.elim
  | panic => exact hend.elim

end Deals

/-- In every run the deletions are made by position. -/
theorem positional_of_exec {result : Outcome GoError Unit × Handler}
    (hexec : Exec setting.Answers (ensureFailover.on h) [] result deletions) :
    result.1 ≠ .panic ∧ ∀ request ∈ deletions, Positional setting h request := by
  have hend := (ensures_iff_exec _ _ _).mp ensureFailover_ends result deletions hexec
  obtain ⟨outcome, later⟩ := result
  cases outcome with
  | ok _ => exact ⟨nofun, hend⟩
  | err error => exact ⟨nofun, hend⟩
  | panic => exact hend.elim

/-! ## Which nodes are destroyed -/

/-- Every call can be answered without failure. -/
theorem faultless_total (request : Call) (before : List Call) :
    ∃ reply after, setting.Faultless request before reply after := by
  obtain ⟨other⟩ : Nonempty request.Reply := ⟨request.failure⟩
  cases request with
  | node ip password command =>
    cases command with
    | ping =>
      cases halive : setting.alive ip with
      | true => exact ⟨.ok (), before, ⟨rfl, halive.symm⟩, trivial⟩
      | false => exact ⟨.error (.remote "no answer"), before, ⟨rfl, halive.symm⟩, trivial⟩
    | _ => exact ⟨other, before, rfl, trivial⟩
  | getPod key =>
    cases hexists : setting.pods key with
    | true =>
      exact ⟨.ok ⟨key.ns, key.name, "", [], false⟩, before, ⟨rfl, by simp, fun _ ↦ hexists⟩,
        by simp [Setting.Succeeds, hexists, Except.isOk, Except.toBool]⟩
    | false =>
      exact ⟨.error .notFound, before, ⟨rfl, fun _ ↦ hexists, by simp [Except.isOk, Except.toBool]⟩,
        by simp [Setting.Succeeds, hexists]⟩
  | getPVC key =>
    cases hexists : setting.claims key with
    | true =>
      exact ⟨.ok (), before, rfl, by simp [Setting.Succeeds, hexists, Except.isOk, Except.toBool]⟩
    | false => exact ⟨.error .notFound, before, rfl, by simp [Setting.Succeeds, hexists]⟩
  | deletePod key => exact ⟨.ok (), _, rfl, rfl⟩
  | deletePVC key => exact ⟨.ok (), _, rfl, rfl⟩
  | updateKVRocks instance_ => exact ⟨.ok 0, before, rfl, rfl⟩
  | _ => exact ⟨other, before, rfl, trivial⟩

/-- In a sorted shard the ordinals grow at least as fast as the positions. -/
theorem podIndex_grows {nodes : List Node}
    (hsorted : nodes.Pairwise fun first second ↦ first.podIndex < second.podIndex) {index later : ℕ}
    (hle : index ≤ later) {node other : Node} (hnode : nodes[index]? = some node)
    (hother : nodes[later]? = some other) : node.podIndex + later ≤ other.podIndex + index := by
  induction later, hle using Nat.le_induction generalizing other with
  | base =>
    obtain rfl := Option.some.inj (hnode.symm.trans hother)
    exact le_rfl
  | succ later hle ih =>
    obtain ⟨hlength, rfl⟩ := List.getElem?_eq_some_iff.mp hother
    have hbefore : node.podIndex + later ≤ (nodes[later]).podIndex + index := ih (List.getElem?_eq_getElem (by omega))
    have hless : (nodes[later]).podIndex < (nodes[later + 1]).podIndex :=
      List.pairwise_iff_getElem.mp hsorted _ _ (by omega) hlength (by omega)
    omega

/-- If there is a failed node at the position of the ordinal of every failed node, the failed nodes stand at the
positions of their ordinals. -/
theorem inPlace_of_positions
    (hsorted : ∀ nodes ∈ h.stsNodes, nodes.Pairwise fun first second ↦ first.podIndex < second.podIndex)
    (hfailed : ∀ partition index node, Failed setting h partition index node →
      ∃ other, Failed setting h partition node.podIndex other) :
    InPlace setting h := by
  intro partition index node hnode
  obtain ⟨nodes, hnodes, hstands⟩ := Option.bind_eq_some_iff.mp hnode.stands
  have hsorted := hsorted nodes (List.mem_of_getElem? hnodes)
  have hstand {position : ℕ} {other : Node} (hother : Failed setting h partition position other) :
      nodes[position]? = some other := by
    simpa [hnodes] using hother.stands
  -- a failed node with a larger ordinal would be followed by further ones, beyond the end of the shard
  have hbounded (gap : ℕ) : ∀ position other, Failed setting h partition position other →
      nodes.length - position ≤ gap → other.podIndex ≤ position := by
    induction gap with
    | zero =>
      intro position other hother hgap
      have := (List.getElem?_eq_some_iff.mp (hstand hother)).1
      omega
    | succ gap ih =>
      intro position other hother hgap
      by_contra hlarger
      obtain ⟨next, hnext⟩ := hfailed partition position other hother
      have hend := ih other.podIndex next hnext (by omega)
      have hgrows := podIndex_grows hsorted (by omega) (hstand hother) (hstand hnext)
      omega
  have hle := hbounded _ index node hnode le_rfl
  obtain ⟨hlength, -⟩ := List.getElem?_eq_some_iff.mp hstands
  have hge := podIndex_grows hsorted (Nat.zero_le index) (List.getElem?_eq_getElem (by omega)) hstands
  omega

/-- `ensureFailover` destroys the failed nodes, all of them and nothing else, exactly when each of them stands at the
position of its ordinal. -/
theorem destroysTheFailed_iff
    (hsorted : ∀ nodes ∈ h.stsNodes, nodes.Pairwise fun first second ↦ first.podIndex < second.podIndex)
    (hlisted : Listed setting h) : DestroysTheFailed setting h ↔ InPlace setting h := by
  constructor
  · intro hdestroys
    apply inPlace_of_positions hsorted
    intro partition index node hfailed
    obtain ⟨result, deletions, hexec⟩ : ∃ result deletions,
        Exec setting.Faultless (ensureFailover.on h) [] result deletions :=
      exists_exec faultless_total (ensureFailover.on h) []
    have hanswers := hexec.mono fun _ _ _ _ hanswer ↦ hanswer.1
    have hpod := (hdestroys.all result deletions hexec partition index node hfailed).1
    obtain ⟨shard, position, other, hother, hrequest | hrequest⟩ := (positional_of_exec hanswers).2 _ hpod
    · obtain ⟨rfl, rfl⟩ := podKey_inj (Call.deletePod.inj hrequest)
      exact ⟨other, hother⟩
    · cases hrequest
  · intro hplace
    refine ⟨?_, ?_, fun _ _ hexec ↦ (positional_of_exec hexec).1⟩
    · intro result deletions hexec request hrequest
      obtain ⟨partition, index, node, hfailed, hdelete⟩ := (positional_of_exec hexec).2 request hrequest
      refine ⟨partition, index, node, hfailed, ?_⟩
      rwa [hplace partition index node hfailed]
    · intro result deletions hexec partition index node hfailed
      have hpods (partition index : ℕ) (node : Node) (hfailed : Failed setting h partition index node) :
          setting.pods (podKey h partition index) = true := by
        have hexists := hlisted partition index node hfailed.stands
        rwa [hplace partition index node hfailed] at hexists
      rw [hplace partition index node hfailed]
      exact dealt_of_exec hpods hexec hfailed

/-! ## A shard with a gap -/

/-- The node with an ordinal; the one with ordinal 2 has failed over. -/
def nodeOf (ordinal : ℕ) : Node :=
  { Kvrocks.Node.fresh ("10.0.0." ++ Text.itoa ordinal) ordinal with failover := ordinal == 2 }

/-- A handler of one shard with the given ordinals. -/
def shardOf (ordinals : List ℕ) : Handler :=
  newKVRocksClusterHandler ⟨"default", "kvrocks-cluster-1-demo"⟩ (.created ⟨"default", "kvrocks-cluster-1-demo"⟩
      { image := "kvrocks:2.0", type := .cluster, kvrocksConfig := [], replicas := 3, master := 3,
        password := "secret", resources := true }) Controller.newClient
  |> fun h ↦ { h with stsNodes := [ordinals.map nodeOf] }

/-- No node answers, and every pod and claim exists. -/
def silence : Setting where
  alive _ := false
  pods _ := true
  claims _ := true

theorem failed_shardOf {ordinals : List ℕ} {index : ℕ} {node : Node}
    (hfailed : Failed silence (shardOf ordinals) partition index node) :
    partition = 0 ∧ ordinals[index]? = some 2 ∧ node.podIndex = 2 := by
  obtain ⟨nodes, hnodes, hnode⟩ := Option.bind_eq_some_iff.mp hfailed.stands
  have hshard : [ordinals.map nodeOf][partition]? = some nodes := hnodes
  cases partition with
  | succ partition => simp at hshard
  | zero =>
    obtain rfl : ordinals.map nodeOf = nodes := by simpa using hshard
    obtain ⟨ordinal, hordinal, rfl⟩ := by simpa using hnode
    have htwo : ordinal = 2 := by simpa [nodeOf] using hfailed.failover
    exact ⟨rfl, htwo ▸ hordinal, htwo⟩

/-- With no ordinal missing, the failed node is destroyed and nothing else. -/
theorem contiguous_destroysTheFailed : DestroysTheFailed silence (shardOf [0, 1, 2]) := by
  apply (destroysTheFailed_iff (by decide) fun _ _ _ _ ↦ rfl).mpr
  intro partition index node hfailed
  obtain ⟨-, hposition, hordinal⟩ := failed_shardOf hfailed
  have hindex : index = 2 := by
    match index, hposition with
    | 0, hposition => cases hposition
    | 1, hposition => cases hposition
    | 2, _ => rfl
    | index + 3, hposition => cases hposition
  exact hordinal.trans hindex.symm

/-- The shard has shrunk and ordinal 0 is gone.  The node with ordinal 2, the second of the shard, has failed over,
and the pod with ordinal 1 is deleted. -/
theorem gap_destroys_another :
    (∀ nodes ∈ (shardOf [1, 2]).stsNodes, nodes.Pairwise fun first second ↦ first.podIndex < second.podIndex) ∧
      Listed silence (shardOf [1, 2]) ∧ ¬ DestroysTheFailed silence (shardOf [1, 2]) := by
  refine ⟨by decide, fun _ _ _ _ ↦ rfl, fun hdestroys ↦ ?_⟩
  obtain ⟨result, deletions, hexec⟩ : ∃ result deletions,
      Exec silence.Faultless (ensureFailover.on (shardOf [1, 2])) [] result deletions :=
    exists_exec faultless_total _ _
  have hfailed : Failed silence (shardOf [1, 2]) 0 1 (nodeOf 2) := ⟨rfl, rfl, rfl⟩
  have hpod : .deletePod (podKey (shardOf [1, 2]) 0 1) ∈ deletions :=
    (dealt_of_exec (fun _ _ _ _ ↦ rfl) hexec hfailed).1
  obtain ⟨partition, index, node, hnode, hrequest | hrequest⟩ :=
    hdestroys.only _ _ (hexec.mono fun _ _ _ _ hanswer ↦ hanswer.1) _ hpod
  · have hordinal := (podKey_inj (Call.deletePod.inj hrequest)).2
    have htwo := (failed_shardOf hnode).2.2
    omega
  · cases hrequest

end KvrocksOperator.Cluster.FailedNodes
