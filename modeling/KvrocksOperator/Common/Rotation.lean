import Mathlib.Data.List.Nodup
import Mathlib.Logic.Function.Basic
import KvrocksOperator.Cluster.Kvrocks
import KvrocksOperator.Standard.Config

/-!
# Password rotation

A pass reads the old password from the ConfigMap, changes the password of one node after the other and writes the
ConfigMap last.  A pass that fails leaves the first nodes with the new password while the ConfigMap still holds the
old one.  The next pass works with the password of the ConfigMap, so it gets past the first node only if that node has
not been changed.
-/

namespace KvrocksOperator.Common.Rotation

open Interaction Resources

/-! ## The nodes and the ConfigMap -/

/-- The current password and configuration of every address, and the ConfigMap of the instance. -/
structure World where
  passwords : String → String
  configs : String → String → String
  configMap : ConfigMap

/-- The password that the next pass works with. -/
def World.password (world : World) : String := (world.configMap.data.lookup "password").getD ""

/-- One configuration key of one address gets a value. -/
def World.setConfig (world : World) (ip key value : String) : World :=
  { world with
    configs := Function.update world.configs ip (Function.update (world.configs ip) key value) }

@[simp] theorem World.setConfig_configs_self (world : World) (ip key value : String) :
    (world.setConfig ip key value).configs ip = Function.update (world.configs ip) key value :=
  Function.update_self _ _ _

/-- What a node does with a command that is authenticated. -/
def execute (ip : String) (world : World) : (command : NodeCommand) → command.Reply × World
  | .ping => (.ok (), world)
  | .role => (.ok none, world)
  | .configGet key => (.ok [key, world.configs ip key], world)
  | .configSet key value => (.ok (), world.setConfig ip key value)
  | .changePassword newPassword =>
    (.ok (), { world with passwords := Function.update world.passwords ip newPassword })

/-- The surroundings of a pass in which one call fails.  A command with another password than the node's own fails as
well; a call that fails has no effect. -/
def serve (fault : Option Call) : (request : Call) → World → request.Reply × World
  | .node ip password command, world =>
    if fault = some (.node ip password command) ∨ password ≠ world.passwords ip then
      (Call.failure (.node ip password command), world)
    else execute ip world command
  | .updateConfigMap configMap, world =>
    if fault = some (.updateConfigMap configMap) then (.error (.other "failure"), world)
    else (.ok (), { world with configMap := configMap })
  | request, world => (request.failure, world)

/-! ## Passes -/

/-- The two kinds of instances, with the nodes that a pass has found. -/
inductive Mode where
  | standard (nodes : List Node)
  | cluster (stsNodes : Matrix)

def Mode.nodes : Mode → List Node
  | .standard nodes => nodes
  | .cluster stsNodes => stsNodes.flatten

/-- `ensureKVRocksConfig` of the handler of the mode, with the password that the handler has read from the ConfigMap.
-/
def ensureKVRocksConfig (instance_ : KVRocks) (password : String) : Mode → Go Unit
  | .standard nodes => Standard.ensureKVRocksConfig.invoke
      { instance_ := instance_, password := password, stsNodes := nodes, requeue := false, key := instance_.key }
  | .cluster stsNodes => Cluster.ensureKVRocksConfig.invoke
      { Cluster.newKVRocksClusterHandler instance_.key instance_ Controller.newClient with
        password := password, stsNodes := stsNodes }

/-- The instance with its configuration in another order, as the iteration over a map may meet it. -/
def reorder (instance_ : KVRocks) (order : StringMap) : KVRocks :=
  { instance_ with spec := { instance_.spec with kvrocksConfig := order } }

/-- A pass of the instance, with the order in which it meets the configuration keys. -/
def pass (instance_ : KVRocks) (mode : Mode) (order : StringMap) (world : World) : Go Unit :=
  ensureKVRocksConfig (reorder instance_ order) world.password mode

/-- How a pass with a fault ends, and what it leaves. -/
def runPass (instance_ : KVRocks) (mode : Mode) (order : StringMap) (fault : Option Call)
    (world : World) : Outcome GoError Unit × World :=
  (pass instance_ mode order world).program.run (serve fault) world

/-- Passes that fail one after the other, each with its order of keys and its fault, lead from one world to another.
-/
inductive FailedPasses (instance_ : KVRocks) (mode : Mode) : World → List (StringMap × Call) → World → Prop where
  | nil (world : World) : FailedPasses instance_ mode world [] world
  | cons {world final : World} {order : StringMap} {fault : Call} {rest : List (StringMap × Call)}
      {error : GoError} (horder : order.Perm instance_.spec.kvrocksConfig)
      (hfail : (runPass instance_ mode order (some fault) world).1 = .err error)
      (hrest : FailedPasses instance_ mode (runPass instance_ mode order (some fault) world).2 rest final) :
      FailedPasses instance_ mode world ((order, fault) :: rest) final

/-- Every node has the wanted password and configuration, and the ConfigMap has the password. -/
structure Rotated (instance_ : KVRocks) (nodes : List Node) (world : World) : Prop where
  password : ∀ node ∈ nodes, world.passwords node.ip = instance_.spec.password
  config : ∀ node ∈ nodes, ∀ entry ∈ parseKVRocksConfigs instance_.spec.kvrocksConfig,
    world.configs node.ip entry.1 = entry.2
  configMap : world.password = instance_.spec.password

/-- Every pass without a fault succeeds and finishes the rotation. -/
def Resumes (instance_ : KVRocks) (mode : Mode) (world : World) : Prop :=
  ∀ order : StringMap, order.Perm instance_.spec.kvrocksConfig → (runPass instance_ mode order none world).1 = .ok () ∧
      Rotated instance_ mode.nodes (runPass instance_ mode order none world).2

/-- The fault is a call to the first node. -/
def OnFirst (nodes : List Node) (fault : Call) : Prop :=
  ∃ first rest password command, nodes = first :: rest ∧ fault = .node first.ip password command

/-! ## One function for both modes -/

/-- The configuration phase of both handlers. -/
def configure (instance_ : KVRocks) (password : String) (nodes : List Node) : Go Unit := do
  ensureConfig instance_ password nodes
  K8s.updateConfigMap (newKVRocksConfigMap instance_)

theorem ensureKVRocksConfig_eq (instance_ : KVRocks) (password : String) (mode : Mode) :
    ensureKVRocksConfig instance_ password mode = configure instance_ password mode.nodes := by
  cases mode with
  | standard nodes =>
    change Standard.ensureKVRocksConfig.invoke _ = _
    unfold Standard.ensureKVRocksConfig
    rw [Method.invoke_get_bind, Method.invoke_lift_bind]
    simp only [Method.invoke_modify_bind, Method.invoke_lift]
    rfl
  | cluster stsNodes =>
    have hflatten : (forEach (ensureConfig instance_ password) stsNodes : Go Unit) =
        ensureConfig instance_ password stsNodes.flatten :=
      Fallible.forEach_flatten (ensureNodeConfig instance_ password) stsNodes
    change Cluster.ensureKVRocksConfig.invoke _ = _
    unfold Cluster.ensureKVRocksConfig
    rw [Method.invoke_get_bind, Method.invoke_lift_bind]
    simp only [Method.invoke_modify_bind, Method.invoke_lift]
    change (forEach (ensureConfig instance_ password) stsNodes : Go Unit) >>= _ = _
    rw [hflatten]
    rfl

/-! ## One node -/

/-- The fault is a call to the node at an address. -/
def FaultAt (fault : Option Call) (ip : String) : Prop := ∃ password command, fault = some (.node ip password command)

/-- Only the configuration of one address has changed. -/
structure Touched (ip : String) (before after : World) : Prop where
  passwords : after.passwords = before.passwords
  configMap : after.configMap = before.configMap
  configs : ∀ other, other ≠ ip → after.configs other = before.configs other

theorem Touched.refl (ip : String) (world : World) : Touched ip world world := ⟨rfl, rfl, fun _ _ ↦ rfl⟩

theorem Touched.trans {ip : String} {first second third : World} (h : Touched ip first second)
    (h' : Touched ip second third) : Touched ip first third :=
  ⟨h'.passwords.trans h.passwords, h'.configMap.trans h.configMap,
    fun other hother ↦ (h'.configs other hother).trans (h.configs other hother)⟩

theorem touched_setConfig (world : World) (ip key value : String) : Touched ip world (world.setConfig ip key value) :=
  ⟨rfl, rfl, fun _ hother ↦ Function.update_of_ne hother _ _⟩

variable {world : World}

section Node

variable {fault : Option Call}

/-- A command with the right password is carried out, or it is the fault. -/
theorem serve_node (fault : Option Call) {ip password : String} (command : NodeCommand)
    (hpassword : world.passwords ip = password) :
    serve fault (.node ip password command) world = execute ip world command ∨
      serve fault (.node ip password command) world =
        (Call.failure (.node ip password command), world) ∧ FaultAt fault ip := by
  by_cases hfault : fault = some (.node ip password command)
  · right
    refine ⟨?_, password, command, hfault⟩
    exact if_pos (Or.inl hfault)
  · left
    exact if_neg (not_or.mpr ⟨hfault, not_not.mpr hpassword.symm⟩)

theorem getConfig_yields {ip password : String} (key : String) (hpassword : world.passwords ip = password) :
    (Kvrocks.getConfig ip password key).Yields (.deterministic (serve fault))
      (fun final ↦ FaultAt fault ip ∧ Touched ip world final)
      (fun value final ↦ value = world.configs ip key ∧ final = world) world := by
  have hask : (Go.remote (ask (.node ip password (.configGet key)))).Yields
      (.deterministic (serve fault)) (fun final ↦ FaultAt fault ip ∧ Touched ip world final)
      (fun value final ↦ value = [key, world.configs ip key] ∧ final = world) world := by
    apply ends_attempt
    rw [Meaning.deterministic_perform]
    obtain hserve | ⟨hserve, hfault⟩ := serve_node fault (.configGet key) hpassword
    · rw [hserve]
      exact ⟨rfl, rfl⟩
    · rw [hserve]
      exact ⟨hfault, .refl ip world⟩
  refine hask.bind fun value final hvalue ↦ ?_
  rw [hvalue.1]
  exact ends_pure ⟨rfl, hvalue.2⟩

theorem setConfig_yields {ip password : String} (key value : String) (hpassword : world.passwords ip = password) :
    (Kvrocks.setConfig ip password key value).Yields (.deterministic (serve fault))
      (fun final ↦ FaultAt fault ip ∧ Touched ip world final)
      (fun _ final ↦ final = world.setConfig ip key value) world := by
  apply ends_attempt
  rw [Meaning.deterministic_perform]
  obtain hserve | ⟨hserve, hfault⟩ := serve_node fault (.configSet key value) hpassword
  · rw [hserve]
    rfl
  · rw [hserve]
    exact ⟨hfault, .refl ip world⟩

theorem changePassword_yields {ip password : String} (newPassword : String)
    (hpassword : world.passwords ip = password) :
    (Kvrocks.changePassword ip password newPassword).Yields (.deterministic (serve fault))
      (fun final ↦ FaultAt fault ip ∧ Touched ip world final)
      (fun _ final ↦ final = { world with passwords := Function.update world.passwords ip newPassword }) world := by
  apply ends_attempt
  rw [Meaning.deterministic_perform]
  obtain hserve | ⟨hserve, hfault⟩ := serve_node fault (.changePassword newPassword) hpassword
  · rw [hserve]
    rfl
  · rw [hserve]
    exact ⟨hfault, .refl ip world⟩

/-- One key of one node. -/
theorem ensureKey_yields {password : String} {node : Node} (entry : String × String)
    (hpassword : world.passwords node.ip = password) :
    (ensureKey password node entry).Yields (.deterministic (serve fault))
      (fun final ↦ FaultAt fault node.ip ∧ Touched node.ip world final)
      (fun _ final ↦ final = world.setConfig node.ip entry.1 entry.2) world := by
  refine (getConfig_yields entry.1 hpassword).bind fun value final hvalue ↦ ?_
  obtain ⟨rfl, rfl⟩ := hvalue
  split_ifs with hdiffers
  · exact setConfig_yields entry.1 entry.2 hpassword
  · -- the key has its value already
    have hsame : final.setConfig node.ip entry.1 entry.2 = final := by
      unfold World.setConfig
      rw [← not_not.mp hdiffers, Function.update_eq_self, Function.update_eq_self]
    exact ends_pure hsame.symm

/-- All keys of one node. -/
theorem ensureKeys_yields {password : String} {node : Node} {entries : StringMap}
    (hkeys : (entries.map Prod.fst).Nodup) (hpassword : world.passwords node.ip = password) :
    (forEach (ensureKey password node) entries).Yields (.deterministic (serve fault))
      (fun final ↦ FaultAt fault node.ip ∧ Touched node.ip world final)
      (fun _ final ↦ Touched node.ip world final ∧
        ∀ entry ∈ entries, final.configs node.ip entry.1 = entry.2) world := by
  refine yields_forEach (fun (front : StringMap) (final : World) ↦
    Touched node.ip world final ∧ ∀ entry ∈ front, final.configs node.ip entry.1 = entry.2)
    ⟨.refl _ _, fun _ hentry ↦ by cases hentry⟩ ?_
  intro front entry back current hentries hcurrent
  have hcurrentPassword : current.passwords node.ip = password := by
    rw [hcurrent.1.passwords, hpassword]
  refine (ensureKey_yields entry hcurrentPassword).mono
    (fun final hfinal ↦ ⟨hfinal.1, hcurrent.1.trans hfinal.2⟩) fun _ final hfinal ↦ ?_
  subst hfinal
  refine ⟨hcurrent.1.trans (touched_setConfig _ _ _ _), fun earlier hearlier ↦ ?_⟩
  rw [World.setConfig_configs_self]
  rcases List.mem_append.mp hearlier with hfront | hlast
  · have hne : earlier.1 ≠ entry.1 := by
      rw [hentries, List.map_append, List.nodup_append] at hkeys
      exact hkeys.2.2 earlier.1 (List.mem_map_of_mem hfront) entry.1 (List.mem_map_of_mem List.mem_cons_self)
    rw [Function.update_of_ne hne]
    exact hcurrent.2 earlier hfront
  · rw [List.mem_singleton.mp hlast, Function.update_self]

end Node

/-- One node has been configured: it has the new password and every wanted value. -/
structure Configured (instance_ : KVRocks) (ip : String) (before after : World) : Prop where
  passwords : after.passwords = Function.update before.passwords ip instance_.spec.password
  configMap : after.configMap = before.configMap
  configs : ∀ other, other ≠ ip → after.configs other = before.configs other
  config : ∀ entry ∈ parseKVRocksConfigs instance_.spec.kvrocksConfig, after.configs ip entry.1 = entry.2

variable {instance_ : KVRocks} {fault : Option Call}

/-- A pass over one node configures it, or stops at the fault without having changed its password. -/
theorem ensureNodeConfig_yields {password : String} {node : Node}
    (hkeys : ((parseKVRocksConfigs instance_.spec.kvrocksConfig).map Prod.fst).Nodup)
    (hpassword : world.passwords node.ip = password) :
    (ensureNodeConfig instance_ password node).Yields (.deterministic (serve fault))
      (fun final ↦ FaultAt fault node.ip ∧ final.passwords = world.passwords ∧ final.configMap = world.configMap)
      (fun _ final ↦ Configured instance_ node.ip world final) world := by
  have hloop := @ensureKeys_yields world fault password node _ hkeys hpassword
  refine (hloop.mono (fun final hfinal ↦ ⟨hfinal.1, hfinal.2.passwords, hfinal.2.configMap⟩)
    fun _ _ h ↦ h).bind fun _ current hcurrent ↦ ?_
  obtain ⟨htouched, hconfig⟩ := hcurrent
  have hcurrentPassword : current.passwords node.ip = password := by
    rw [htouched.passwords, hpassword]
  split_ifs with hdiffers
  · refine (changePassword_yields _ hcurrentPassword).mono (fun final hfinal ↦ ?_) fun _ final hfinal ↦ ?_
    · exact ⟨hfinal.1, hfinal.2.passwords.trans htouched.passwords, hfinal.2.configMap.trans htouched.configMap⟩
    · subst hfinal
      refine ⟨?_, htouched.configMap, htouched.configs, hconfig⟩
      rw [← htouched.passwords]
  · refine ends_pure ⟨?_, htouched.configMap, htouched.configs, hconfig⟩
    rw [← not_not.mp hdiffers, ← hpassword, Function.update_eq_self, htouched.passwords]

/-! ## One pass -/

/-- The nodes in front have the new password, the others have kept theirs, and so has the ConfigMap. -/
structure RotatedUpTo (instance_ : KVRocks) (front : List Node) (before after : World) : Prop where
  rotated : ∀ node ∈ front, after.passwords node.ip = instance_.spec.password
  kept : ∀ ip, ip ∉ front.map (·.ip) → after.passwords ip = before.passwords ip
  configMap : after.configMap = before.configMap

/-- A pass was stopped by its fault: at one of the nodes, or after all of them. -/
inductive Interrupted (instance_ : KVRocks) (fault : Option Call) (nodes : List Node)
    (before after : World) : Prop where
  | atNode {front back : List Node} {node : Node}
      (hnodes : nodes = front ++ node :: back) (hfault : FaultAt fault node.ip)
      (hrotated : RotatedUpTo instance_ front before after)
  | atConfigMap {configMap : ConfigMap} (hfault : fault = some (.updateConfigMap configMap))
      (hrotated : RotatedUpTo instance_ nodes before after)

variable {front : List Node}

theorem RotatedUpTo.configured {before current after : World} (h : RotatedUpTo instance_ front before current)
    {node : Node} (hnode : Configured instance_ node.ip current after) :
    RotatedUpTo instance_ (front ++ [node]) before after := by
  refine ⟨fun rotated hrotated ↦ ?_, fun ip hip ↦ ?_, hnode.configMap.trans h.configMap⟩
  · rw [hnode.passwords]
    by_cases hsame : rotated.ip = node.ip
    · rw [hsame, Function.update_self]
    · rw [Function.update_of_ne hsame]
      rcases List.mem_append.mp hrotated with hfront | hlast
      · exact h.rotated rotated hfront
      · exact absurd (congrArg Kvrocks.Node.ip (List.mem_singleton.mp hlast)) hsame
  · rw [List.map_append, List.mem_append, not_or] at hip
    have hne : ip ≠ node.ip := fun hsame ↦ hip.2 (List.mem_singleton.mpr hsame)
    rw [hnode.passwords, Function.update_of_ne hne]
    exact h.kept ip hip.1

/-- The pass over all nodes. -/
theorem ensureConfig_yields {password : String} {nodes : List Node} (hips : (nodes.map (·.ip)).Nodup)
    (hkeys : ((parseKVRocksConfigs instance_.spec.kvrocksConfig).map Prod.fst).Nodup)
    (hpassword : ∀ node ∈ nodes, world.passwords node.ip = password) :
    (ensureConfig instance_ password nodes).Yields (.deterministic (serve fault))
      (Interrupted instance_ fault nodes world)
      (fun _ final ↦ RotatedUpTo instance_ nodes world final ∧ ∀ node ∈ nodes,
        ∀ entry ∈ parseKVRocksConfigs instance_.spec.kvrocksConfig, final.configs node.ip entry.1 = entry.2) world := by
  refine yields_forEach (fun (front : List Node) (final : World) ↦
    RotatedUpTo instance_ front world final ∧ ∀ node ∈ front,
      ∀ entry ∈ parseKVRocksConfigs instance_.spec.kvrocksConfig, final.configs node.ip entry.1 = entry.2)
    ⟨⟨fun _ h ↦ (List.not_mem_nil h).elim, fun _ _ ↦ rfl, rfl⟩, fun _ h ↦ (List.not_mem_nil h).elim⟩ ?_
  intro front node back current hnodes hcurrent
  obtain ⟨hrotated, hconfig⟩ := hcurrent
  have hfresh : node.ip ∉ front.map (·.ip) := by
    rw [hnodes, List.map_append, List.nodup_append] at hips
    intro hfront
    exact hips.2.2 node.ip hfront node.ip (List.mem_map_of_mem List.mem_cons_self) rfl
  have hmem : node ∈ nodes := by
    rw [hnodes]
    exact List.mem_append_right front List.mem_cons_self
  have hcurrentPassword : current.passwords node.ip = password := by
    rw [hrotated.kept node.ip hfresh, hpassword node hmem]
  refine (ensureNodeConfig_yields hkeys hcurrentPassword).mono ?_ ?_
  · intro final hfinal
    refine .atNode hnodes hfinal.1 ⟨?_, ?_, hfinal.2.2.trans hrotated.configMap⟩
    · intro earlier hearlier
      rw [hfinal.2.1, hrotated.rotated earlier hearlier]
    · intro ip hip
      rw [hfinal.2.1, hrotated.kept ip hip]
  · intro _ final hfinal
    refine ⟨hrotated.configured hfinal, fun earlier hearlier entry hentry ↦ ?_⟩
    rcases List.mem_append.mp hearlier with hfront | hlast
    · have hne : earlier.ip ≠ node.ip := by
        intro hsame
        exact hfresh (hsame ▸ List.mem_map_of_mem hfront)
      rw [hfinal.configs earlier.ip hne]
      exact hconfig earlier hfront entry hentry
    · rw [List.mem_singleton.mp hlast]
      exact hfinal.config entry hentry

/-- A pass from a world in which the nodes have the password of the pass finishes the rotation, or it is stopped by
its fault. -/
theorem configure_yields {password : String} {nodes : List Node} (hips : (nodes.map (·.ip)).Nodup)
    (hkeys : ((parseKVRocksConfigs instance_.spec.kvrocksConfig).map Prod.fst).Nodup)
    (hpassword : ∀ node ∈ nodes, world.passwords node.ip = password) :
    (configure instance_ password nodes).Yields (.deterministic (serve fault))
      (Interrupted instance_ fault nodes world) (fun _ final ↦ Rotated instance_ nodes final)
      world := by
  refine (ensureConfig_yields hips hkeys hpassword).bind fun _ current hcurrent ↦ ?_
  obtain ⟨hrotated, hconfig⟩ := hcurrent
  apply ends_attempt
  rw [Meaning.deterministic_perform]
  by_cases hfault : fault = some (.updateConfigMap (newKVRocksConfigMap instance_))
  · have hserve : serve fault (.updateConfigMap (newKVRocksConfigMap instance_)) current =
        (.error (.other "failure"), current) := if_pos hfault
    rw [hserve]
    exact .atConfigMap hfault hrotated
  · have hserve : serve fault (.updateConfigMap (newKVRocksConfigMap instance_)) current =
        (.ok (), { current with configMap := newKVRocksConfigMap instance_ }) := if_neg hfault
    rw [hserve]
    refine ⟨hrotated.rotated, hconfig, ?_⟩
    unfold World.password
    rw [newKVRocksConfigMap_password, Option.getD_some]

/-! ## Worlds from which the rotation goes on, and worlds from which it does not -/

/-- All nodes have the password of the ConfigMap. -/
def Ready (nodes : List Node) (world : World) : Prop := ∀ node ∈ nodes, world.passwords node.ip = world.password

/-- The first node has lost the password of the ConfigMap before the ConfigMap has the new one. -/
structure Stuck (instance_ : KVRocks) (nodes : List Node) (world : World) : Prop where
  first : ∃ node rest, nodes = node :: rest ∧ world.passwords node.ip ≠ world.password
  pending : world.password ≠ instance_.spec.password

/-- A command with a wrong password fails without an effect. -/
theorem serve_wrong {ip password : String} (command : NodeCommand) (hwrong : world.passwords ip ≠ password) :
    serve fault (.node ip password command) world = (Call.failure (.node ip password command), world) :=
  if_pos (Or.inr hwrong.symm)

/-- The first command to a node that has another password stops the pass. -/
theorem ensureNodeConfig_stuck {password : String} {node : Node} (hwrong : world.passwords node.ip ≠ password)
    (hpending : password ≠ instance_.spec.password) :
    (ensureNodeConfig instance_ password node).Yields (.deterministic (serve fault))
      (fun final ↦ final = world) (fun _ _ ↦ False) world := by
  unfold ensureNodeConfig
  cases parseKVRocksConfigs instance_.spec.kvrocksConfig with
  | nil =>
    rw [forEach, Fallible.pure_bind, if_pos hpending]
    apply ends_attempt
    rw [Meaning.deterministic_perform, serve_wrong _ hwrong]
    rfl
  | cons entry rest =>
    rw [forEach, Fallible.bind_assoc]
    have hget : (ensureKey password node entry).Yields (.deterministic (serve fault))
        (fun final ↦ final = world) (fun _ _ ↦ False) world := by
      apply Fallible.Yields.bind_never
      apply Fallible.Yields.bind_never
      apply ends_attempt
      rw [Meaning.deterministic_perform, serve_wrong _ hwrong]
      rfl
    exact hget.bind_never

section Passes

variable {instance_ : KVRocks} {mode : Mode} {order : StringMap} {fault : Option Call} {world : World}

/-- What the configuration phase guarantees holds of the pass. -/
theorem runPass_meets {fail : World → Prop} {post : Unit → World → Prop}
    (h : (configure (reorder instance_ order) world.password mode.nodes).Yields
      (.deterministic (serve fault)) fail post world) :
    (runPass instance_ mode order fault world).1.Meets (fail (runPass instance_ mode order fault world).2)
      (post · (runPass instance_ mode order fault world).2) := by
  unfold runPass pass
  rw [ensureKVRocksConfig_eq]
  exact h

/-- From a stuck world a pass returns an error and changes nothing. -/
theorem runPass_stuck (hstuck : Stuck instance_ mode.nodes world) :
    (runPass instance_ mode order fault world).1 ≠ .ok () ∧ (runPass instance_ mode order fault world).2 = world := by
  obtain ⟨node, rest, hnodes, hwrong⟩ := hstuck.first
  have hconfigure : (configure (reorder instance_ order) world.password mode.nodes).Yields
      (.deterministic (serve fault)) (fun final ↦ final = world) (fun _ _ ↦ False) world := by
    unfold configure ensureConfig
    rw [hnodes, forEach, Fallible.bind_assoc]
    apply Fallible.Yields.bind_never
    exact ensureNodeConfig_stuck hwrong hstuck.pending
  have hmeets := runPass_meets hconfigure
  generalize runPass instance_ mode order fault world = result at hmeets ⊢
  obtain ⟨outcome, final⟩ := result
  cases outcome with
  | ok value => exact hmeets.elim
  | err error => exact ⟨nofun, hmeets⟩
  | panic => exact ⟨nofun, hmeets⟩

theorem not_resumes_of_stuck (hstuck : Stuck instance_ mode.nodes world) : ¬ Resumes instance_ mode world := by
  intro hresumes
  exact (runPass_stuck hstuck).1 (hresumes _ (List.Perm.refl _)).1

variable (hips : (mode.nodes.map (·.ip)).Nodup) (hkeys : (instance_.spec.kvrocksConfig.map Prod.fst).Nodup)
include hips hkeys

/-- A pass from a ready world finishes the rotation or is stopped by its fault. -/
theorem runPass_ready (horder : order.Perm instance_.spec.kvrocksConfig) (hready : Ready mode.nodes world) :
    (runPass instance_ mode order fault world).1.Meets
      (Interrupted instance_ fault mode.nodes world (runPass instance_ mode order fault world).2)
      (fun _ ↦ Rotated instance_ mode.nodes (runPass instance_ mode order fault world).2) := by
  have hparsed : (parseKVRocksConfigs order).Perm (parseKVRocksConfigs instance_.spec.kvrocksConfig) := horder.filter _
  have hnodup : ((parseKVRocksConfigs order).map Prod.fst).Nodup :=
    ((horder.map Prod.fst).nodup_iff.mpr hkeys).sublist (List.filter_sublist.map Prod.fst)
  refine (runPass_meets (configure_yields hips hnodup hready)).mono ?_ ?_
  · intro hinterrupted
    cases hinterrupted with
    | atNode hnodes hfault hrotated =>
      exact .atNode hnodes hfault ⟨hrotated.rotated, hrotated.kept, hrotated.configMap⟩
    | atConfigMap hfault hrotated =>
      exact .atConfigMap hfault ⟨hrotated.rotated, hrotated.kept, hrotated.configMap⟩
  · intro _ hrotated
    refine ⟨hrotated.password, fun node hnode entry hentry ↦ ?_, hrotated.configMap⟩
    exact hrotated.config node hnode entry (hparsed.mem_iff.mpr hentry)

/-- From a ready world the rotation goes on: without a fault nothing interrupts the pass. -/
theorem resumes_of_ready (hready : Ready mode.nodes world) : Resumes instance_ mode world := by
  intro order horder
  have hmeets : (runPass instance_ mode order none world).1.Meets _ _ := runPass_ready hips hkeys horder hready
  have hrun : ¬ Interrupted instance_ none mode.nodes world (runPass instance_ mode order none world).2 := by
    intro hinterrupted
    cases hinterrupted with
    | atNode _ hfault _ =>
      obtain ⟨_, _, hfault⟩ := hfault
      cases hfault
    | atConfigMap hfault _ => cases hfault
  generalize runPass instance_ mode order none world = result at hmeets hrun ⊢
  obtain ⟨outcome, final⟩ := result
  cases outcome with
  | ok value => exact ⟨rfl, hmeets⟩
  | err error => exact (hrun hmeets).elim
  | panic => exact (hrun hmeets).elim

theorem interrupted_of_failed {failed : Call} {error : GoError} (horder : order.Perm instance_.spec.kvrocksConfig)
    (hready : Ready mode.nodes world) (hfail : (runPass instance_ mode order (some failed) world).1 = .err error) :
    Interrupted instance_ (some failed) mode.nodes world (runPass instance_ mode order (some failed) world).2 := by
  have hmeets : (runPass instance_ mode order (some failed) world).1.Meets _ _ := runPass_ready hips hkeys horder hready
  rw [hfail] at hmeets
  exact hmeets

end Passes

section Interrupted

variable {instance_ : KVRocks} {nodes : List Node} {failed : Call} {before after : World}

theorem RotatedUpTo.password_eq (h : RotatedUpTo instance_ front before after) : after.password = before.password := by
  unfold World.password
  rw [h.configMap]

/-- The nodes in front that have the new password are no longer ready, unless it is the old one. -/
theorem RotatedUpTo.ready (h : RotatedUpTo instance_ front before after) (hready : Ready nodes before)
    (hnothing : before.password = instance_.spec.password ∨ front = []) : Ready nodes after := by
  intro node hnode
  rw [h.password_eq]
  by_cases hfront : node.ip ∈ front.map (·.ip)
  · obtain ⟨rotated, hrotated, hip⟩ := List.mem_map.mp hfront
    rcases hnothing with hsame | hnil
    · rw [hsame, ← hip]
      exact h.rotated rotated hrotated
    · rw [hnil] at hrotated
      exact (List.not_mem_nil hrotated).elim
  · rw [h.kept node.ip hfront]
    exact hready node hnode

theorem RotatedUpTo.stuck {first : Node} {rest back : List Node}
    (h : RotatedUpTo instance_ (first :: rest) before after) (hnodes : nodes = first :: rest ++ back)
    (hpending : before.password ≠ instance_.spec.password) : Stuck instance_ nodes after := by
  refine ⟨⟨first, rest ++ back, hnodes, ?_⟩, ?_⟩
  · rw [h.rotated first List.mem_cons_self, h.password_eq]
    exact hpending.symm
  · rw [h.password_eq]
    exact hpending

/-- A pass that fails at the first node, or with nothing to rotate, leaves a ready world ready. -/
theorem Interrupted.ready (h : Interrupted instance_ (some failed) nodes before after)
    (hips : (nodes.map (·.ip)).Nodup) (hready : Ready nodes before)
    (hfirst : before.password = instance_.spec.password ∨ nodes = [] ∨ OnFirst nodes failed) :
    Ready nodes after ∧ after.password = before.password := by
  cases h with
  | @atNode front back node hnodes hfault hrotated =>
    refine ⟨hrotated.ready hready (hfirst.imp_right fun hfirst ↦ ?_), hrotated.password_eq⟩
    -- the first node is in front of every other one, and the addresses differ
    rcases hfirst with hnil | ⟨first, rest, _, _, hcons, hfailed⟩
    · rw [hnil] at hnodes
      exact (List.append_eq_nil_iff.mp hnodes.symm).1
    · obtain ⟨_, _, hfault⟩ := hfault
      rw [hfailed, Option.some.injEq, Call.node.injEq] at hfault
      cases front with
      | nil => rfl
      | cons head tail =>
        rw [hcons, List.cons_append, List.cons.injEq] at hnodes
        rw [hcons, hnodes.2, List.map_cons, List.nodup_cons, List.map_append] at hips
        refine absurd ?_ hips.1
        rw [hfault.1]
        exact List.mem_append_right _ List.mem_cons_self
  | atConfigMap hfault hrotated =>
    refine ⟨hrotated.ready hready (hfirst.imp_right fun hfirst ↦ ?_), hrotated.password_eq⟩
    rcases hfirst with hnil | ⟨_, _, _, _, _, hfailed⟩
    · exact hnil
    · rw [hfailed] at hfault
      cases hfault

/-- A pass that fails later leaves the first node without the password of the ConfigMap. -/
theorem Interrupted.stuck (h : Interrupted instance_ (some failed) nodes before after)
    (hpending : before.password ≠ instance_.spec.password) (hnonempty : nodes ≠ []) (hlater : ¬ OnFirst nodes failed) :
    Stuck instance_ nodes after := by
  cases h with
  | @atNode front back node hnodes hfault hrotated =>
    cases front with
    | nil =>
      obtain ⟨password, command, hfault⟩ := hfault
      exact absurd ⟨node, back, password, command, hnodes, Option.some.inj hfault⟩ hlater
    | cons first rest => exact hrotated.stuck hnodes hpending
  | atConfigMap hfault hrotated =>
    cases nodes with
    | nil => exact absurd rfl hnonempty
    | cons first rest => exact hrotated.stuck (List.append_nil _).symm hpending

end Interrupted

/-! ## Runs of failing passes -/

theorem FailedPasses.stuck {mode : Mode} {final : World} {passes : List (StringMap × Call)}
    (hpasses : FailedPasses instance_ mode world passes final) (hstuck : Stuck instance_ mode.nodes world) :
    Stuck instance_ mode.nodes final := by
  induction hpasses with
  | nil world => exact hstuck
  | cons horder hfail hrest ih =>
    apply ih
    rw [(runPass_stuck hstuck).2]
    exact hstuck

/-- After passes that have failed, a pass without a fault finishes the rotation exactly if there was nothing to rotate
or every failure was a call to the first node. -/
theorem rotation_resumes_iff {instance_ : KVRocks} {mode : Mode} {world final : World}
    {passes : List (StringMap × Call)} (hips : (mode.nodes.map (·.ip)).Nodup)
    (hkeys : (instance_.spec.kvrocksConfig.map Prod.fst).Nodup)
    (hready : ∀ node ∈ mode.nodes, world.passwords node.ip = world.password)
    (hpasses : FailedPasses instance_ mode world passes final) :
    Resumes instance_ mode final ↔ world.password = instance_.spec.password ∨ mode.nodes = [] ∨
      ∀ failedPass ∈ passes, OnFirst mode.nodes failedPass.2 := by
  induction hpasses with
  | nil world =>
    refine ⟨fun _ ↦ .inr (.inr fun _ h ↦ (List.not_mem_nil h).elim), fun _ ↦ ?_⟩
    exact resumes_of_ready hips hkeys hready
  | @cons world final order failed rest error horder hfail hrest ih =>
    have hinterrupted := interrupted_of_failed hips hkeys horder hready hfail
    by_cases hfirst : world.password = instance_.spec.password ∨ mode.nodes = [] ∨ OnFirst mode.nodes failed
    · obtain ⟨hready, hpassword⟩ := hinterrupted.ready hips hready hfirst
      rw [ih hready, hpassword, List.forall_mem_cons]
      tauto
    · have hstuck : Stuck instance_ mode.nodes final := by
        apply hrest.stuck
        simp only [not_or] at hfirst
        exact hinterrupted.stuck hfirst.1 hfirst.2.1 hfirst.2.2
      refine iff_of_false (not_resumes_of_stuck hstuck) fun hholds ↦ hfirst ?_
      exact hholds.imp_right (Or.imp_right fun hall ↦ hall _ List.mem_cons_self)

/-- A cluster instance with the new password `new`. -/
def renewed : KVRocks :=
  .created ⟨"default", "kvrocks-cluster-1-demo"⟩
    { image := "kvrocks:2.0", type := .cluster, kvrocksConfig := [("maxclients", "100")],
      replicas := 1, master := 2, password := "new", resources := true }

/-- Two shards of one pod each. -/
def twoShards : Mode := .cluster [[.fresh "10.0.0.1" 0], [.fresh "10.0.0.2" 0]]

/-- Everything has the password `old`. -/
def outdated : World :=
  { passwords := fun _ ↦ "old"
    configs := fun _ _ ↦ "10000"
    configMap := { ns := "default", name := "kvrocks-cluster-1-demo", data := [("password", "old")] } }

/-- After a failure at the first node the rotation goes on. -/
theorem rotation_resumes_twoShards : ∃ final, FailedPasses renewed twoShards outdated
        [(renewed.spec.kvrocksConfig, .node "10.0.0.1" "old" (.changePassword "new"))] final ∧
      Resumes renewed twoShards final := by
  have hfail : (runPass renewed twoShards renewed.spec.kvrocksConfig
      (some (.node "10.0.0.1" "old" (.changePassword "new"))) outdated).1 = .err (.remote "failure") := by
    decide
  have hpasses := FailedPasses.cons (List.Perm.refl _) hfail (.nil _)
  refine ⟨_, hpasses, (rotation_resumes_iff (by decide) (by decide) ?_ hpasses).mpr (.inr (.inr ?_))⟩
  · intro node hnode
    rfl
  · intro failedPass hfailedPass
    rw [List.mem_singleton.mp hfailedPass]
    exact ⟨.fresh "10.0.0.1" 0, [.fresh "10.0.0.2" 0], "old", .changePassword "new", rfl, rfl⟩

/-- Once the first node has been changed, a failure at the second one is final: the pass after it has no fault and is
refused by the first node. -/
theorem rotation_stuck_twoShards : ∃ final, FailedPasses renewed twoShards outdated
        [(renewed.spec.kvrocksConfig, .node "10.0.0.2" "old" (.changePassword "new"))] final ∧
      (runPass renewed twoShards renewed.spec.kvrocksConfig none final).1 = .err (.remote "failure") := by
  have hfail : (runPass renewed twoShards renewed.spec.kvrocksConfig
      (some (.node "10.0.0.2" "old" (.changePassword "new"))) outdated).1 = .err (.remote "failure") := by
    decide
  exact ⟨_, .cons (List.Perm.refl _) hfail (.nil _), by decide⟩

end KvrocksOperator.Common.Rotation
