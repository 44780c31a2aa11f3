import KvrocksOperator.Segments.Smallest
import KvrocksOperator.Cluster.Kubernetes

/-!
# Which pods a scale-down removes

Both handlers scale down in the same way: they go through the nodes from the highest ordinal down, pass over the
master, and reserve the ordinals of the chosen nodes up to the master's.  The nodes above the master need not be
reserved, as the smaller number of replicas already leaves them out.  This module proves the counting argument behind
this for every list of nodes with one master.
-/

namespace KvrocksOperator

/-- The ordinals of the pods of a StatefulSet, as OpenKruise chooses them: as many as there are replicas, the smallest
ones that are not reserved. -/
def StatefulSet.ordinals (sts : StatefulSet) : List ℕ := Segments.smallest sts.replicas.toNat sts.reserveOrdinals

namespace Cluster

/-- The `count` nodes with the highest ordinals that are not the master, highest first. -/
def victims (count : ℕ) (nodes : List Node) : List Node :=
  (nodes.reverse.filter fun node ↦ decide (node.role ≠ .master)).take count

/-- The nodes that stay. -/
def survivors (count : ℕ) (nodes : List Node) : List Node := nodes.filter fun node ↦ decide (node ∉ victims count nodes)

/-- The nodes are in the order of their ordinals, which are all different. -/
def Ascending (nodes : List Node) : Prop := nodes.Pairwise (·.podIndex < ·.podIndex)

/-- There is one master. -/
def OneMaster (nodes : List Node) : Prop := (nodes.filter fun node ↦ decide (node.role = .master)).length = 1

instance (nodes : List Node) : Decidable (Ascending nodes) := inferInstanceAs (Decidable (List.Pairwise _ _))

instance (nodes : List Node) : Decidable (OneMaster nodes) := inferInstanceAs (Decidable (_ = _))

/-! ## Shards with one master -/

variable {count : ℕ}

section OneMaster

variable {nodes : List Node}

/-- The nodes before and after the only master are slaves. -/
theorem OneMaster.split (h : OneMaster nodes) :
    ∃ below master above, nodes = below ++ master :: above ∧ master.role = .master ∧
      (∀ node ∈ below, node.role ≠ .master) ∧ ∀ node ∈ above, node.role ≠ .master := by
  obtain ⟨master, hmaster⟩ := List.length_eq_one_iff.mp h
  obtain ⟨below, above, rfl, hbelow, hrole, habove⟩ := List.filter_eq_cons_iff.mp hmaster
  refine ⟨below, master, above, rfl, of_decide_eq_true hrole, fun node hnode ↦ ?_, fun node hnode hrole' ↦ ?_⟩
  · exact fun hrole' ↦ hbelow node hnode (decide_eq_true hrole')
  · exact List.filter_eq_nil_iff.mp habove node hnode (decide_eq_true hrole')

theorem OneMaster.length_slaves (h : OneMaster nodes) :
    (nodes.reverse.filter fun node ↦ decide (node.role ≠ .master)).length + 1 = nodes.length := by
  have hsplit := List.length_eq_length_filter_add (l := nodes) fun node ↦ decide (node.role = .master)
  have hone : (nodes.filter fun node ↦ decide (node.role = .master)).length = 1 := h
  rw [List.filter_reverse, List.length_reverse]
  simp only [← decide_not] at hsplit
  simp only [ne_eq]
  omega

theorem OneMaster.length_victims (h : OneMaster nodes) (hcount : count < nodes.length) :
    (victims count nodes).length = count := by
  have hslaves := h.length_slaves
  rw [victims, List.length_take]
  omega

end OneMaster

theorem mem_of_mem_victims {nodes : List Node} {node : Node} (h : node ∈ victims count nodes) :
    node ∈ nodes ∧ node.role ≠ .master := by
  obtain ⟨hmem, hrole⟩ := List.mem_filter.mp (List.mem_of_mem_take h)
  exact ⟨List.mem_reverse.mp hmem, of_decide_eq_true hrole⟩

/-- The masters stay. -/
theorem mem_survivors_of_master {nodes : List Node} {node : Node} (h : node ∈ nodes)
    (hrole : node.role = .master) : node ∈ survivors count nodes :=
  List.mem_filter.mpr ⟨h, decide_eq_true fun hvictim ↦ (mem_of_mem_victims hvictim).2 hrole⟩

theorem Ascending.podIndex_inj {nodes : List Node} (h : Ascending nodes) {first second : Node}
    (hfirst : first ∈ nodes) (hsecond : second ∈ nodes) (heq : first.podIndex = second.podIndex) : first = second := by
  have hnodup : (nodes.map (·.podIndex)).Nodup := List.pairwise_map.mpr (h.imp fun hlt ↦ hlt.ne)
  exact List.inj_on_of_nodup_map hnodup hfirst hsecond heq

/-! ## The first loop -/

theorem reserveLoop_fst (delta masterID : ℕ) (nodes : List Node) : (reserveLoop delta masterID nodes).1 =
      ((nodes.filter fun node ↦ decide (node.role ≠ .master)).take delta).map (·.podIndex) := by
  induction nodes generalizing delta masterID with
  | nil => cases delta <;> rfl
  | cons node nodes ih =>
    cases delta with
    | zero => simp [reserveLoop]
    | succ delta =>
      by_cases hrole : node.role = .master
      · simp [reserveLoop, hrole, ih]
      · simp [reserveLoop, hrole, ih]

/-- Slaves that are passed leave the last master seen as it is. -/
theorem reserveLoop_snd_append (delta masterID : ℕ) {front : List Node}
    (hfront : ∀ node ∈ front, node.role ≠ .master) (back : List Node) :
    (reserveLoop delta masterID (front ++ back)).2 = (reserveLoop (delta - front.length) masterID back).2 := by
  induction front generalizing delta with
  | nil => rfl
  | cons node front ih =>
    cases delta with
    | zero => simp [reserveLoop]
    | succ delta =>
      have hrole : node.role ≠ .master := hfront node List.mem_cons_self
      have hrest := ih delta fun other hother ↦ hfront other (List.mem_cons_of_mem _ hother)
      simp [reserveLoop, hrole, hrest]

theorem reserveLoop_snd_of_slaves (delta masterID : ℕ) {nodes : List Node}
    (h : ∀ node ∈ nodes, node.role ≠ .master) : (reserveLoop delta masterID nodes).2 = masterID := by
  have happend := reserveLoop_snd_append delta masterID h []
  rw [List.append_nil] at happend
  rw [happend]
  cases delta - nodes.length <;> rfl

variable {below above : List Node}

/-- The scan remembers the master only if it has to go beyond it. -/
theorem reserveLoop_snd_split (delta : ℕ) {master : Node} (hmaster : master.role = .master)
    (hbelow : ∀ node ∈ below, node.role ≠ .master) (habove : ∀ node ∈ above, node.role ≠ .master) :
    (reserveLoop delta 0 (below ++ master :: above).reverse).2 =
      if delta ≤ above.length then 0 else master.podIndex := by
  have hreverse : (below ++ master :: above).reverse = above.reverse ++ master :: below.reverse := by simp
  rw [hreverse, reserveLoop_snd_append delta 0 fun node hnode ↦ habove node (List.mem_reverse.mp hnode),
    List.length_reverse]
  by_cases hdelta : delta ≤ above.length
  · rw [if_pos hdelta, Nat.sub_eq_zero_of_le hdelta]
    rfl
  · obtain ⟨rest, hrest⟩ : ∃ rest, delta - above.length = rest + 1 := ⟨delta - above.length - 1, by omega⟩
    rw [if_neg hdelta, hrest]
    simp only [reserveLoop, hmaster, ne_eq, not_true_eq_false, if_false]
    exact reserveLoop_snd_of_slaves _ _ fun node hnode ↦ hbelow node (List.mem_reverse.mp hnode)

theorem victims_split (count : ℕ) {master : Node} (hmaster : master.role = .master)
    (hbelow : ∀ node ∈ below, node.role ≠ .master) (habove : ∀ node ∈ above, node.role ≠ .master) :
    victims count (below ++ master :: above) = (above.reverse ++ below.reverse).take count := by
  have hfilter {part : List Node} (h : ∀ node ∈ part, node.role ≠ .master) :
      part.reverse.filter (fun node ↦ decide (node.role ≠ .master)) = part.reverse :=
    List.filter_eq_self.mpr fun node hnode ↦ decide_eq_true (h node (List.mem_reverse.mp hnode))
  rw [victims, List.reverse_append, List.reverse_cons, List.filter_append, List.filter_append, hfilter hbelow,
    hfilter habove]
  simp [hmaster]

/-- What the scan has done when it ends: it has stopped above the master, and everything that stays lies below the
victims, or it has gone beyond the master and taken everything above it. -/
theorem scan_cases {master : Node} (hascending : Ascending (below ++ master :: above))
    (hmaster : master.role = .master) (hbelow : ∀ node ∈ below, node.role ≠ .master)
    (habove : ∀ node ∈ above, node.role ≠ .master) (count : ℕ) :
    ((reserveLoop count 0 (below ++ master :: above).reverse).2 = 0 ∧
        ∀ victim ∈ victims count (below ++ master :: above), master.podIndex < victim.podIndex ∧
          ∀ kept ∈ below ++ master :: above, kept ∉ victims count (below ++ master :: above) →
            kept.podIndex < victim.podIndex) ∨
      (reserveLoop count 0 (below ++ master :: above).reverse).2 = master.podIndex ∧
        ∀ node ∈ above, node ∈ victims count (below ++ master :: above) := by
  obtain ⟨-, hhigh, hbetween⟩ := List.pairwise_append.mp hascending
  obtain ⟨hmasterBelow, hsorted⟩ := List.pairwise_cons.mp hhigh
  rw [reserveLoop_snd_split count hmaster hbelow habove, victims_split count hmaster hbelow habove]
  by_cases hcount : count ≤ above.length
  · rw [if_pos hcount, List.take_append_of_le_length (by simpa using hcount), List.take_reverse]
    refine .inl ⟨rfl, fun victim hvictim ↦ ?_⟩
    have hdropped := List.mem_reverse.mp hvictim
    have hin : victim ∈ above := List.mem_of_mem_drop hdropped
    refine ⟨hmasterBelow victim hin, fun kept hkept hstays ↦ ?_⟩
    rcases List.mem_append.mp hkept with hlow | hrest
    · exact hbetween kept hlow victim (List.mem_cons_of_mem _ hin)
    · rcases List.mem_cons.mp hrest with rfl | hup
      · exact hmasterBelow victim hin
      · have hsplit := List.take_append_drop (above.length - count) above
        rw [← hsplit] at hsorted hup
        rcases List.mem_append.mp hup with htaken | hgone
        · exact (List.pairwise_append.mp hsorted).2.2 kept htaken victim hdropped
        · exact absurd (List.mem_reverse.mpr hgone) hstays
  · rw [if_neg hcount]
    refine .inr ⟨rfl, fun node hnode ↦ ?_⟩
    have hlength : above.reverse.length ≤ count := by
      rw [List.length_reverse]
      omega
    rw [List.take_append, List.take_of_length_le hlength]
    exact List.mem_append_left _ (List.mem_reverse.mpr hnode)

/-- A victim that is not reserved lies above every node that stays. -/
theorem lt_of_not_reserved {nodes : List Node} (hascending : Ascending nodes) (hone : OneMaster nodes)
    {victim kept : Node} (hvictim : victim ∈ victims count nodes)
    (hreserve : (reserveLoop count 0 nodes.reverse).2 < victim.podIndex) (hkept : kept ∈ nodes)
    (hstays : kept ∉ victims count nodes) : kept.podIndex < victim.podIndex := by
  obtain ⟨below, master, above, rfl, hmaster, hbelow, habove⟩ := hone.split
  rcases scan_cases hascending hmaster hbelow habove count with ⟨-, hstopped⟩ | ⟨hscan, htaken⟩
  · exact (hstopped victim hvictim).2 kept hkept hstays
  · rw [hscan] at hreserve
    obtain ⟨-, hhigh, hbetween⟩ := List.pairwise_append.mp hascending
    have hin : victim ∈ above := by
      rcases List.mem_append.mp (mem_of_mem_victims hvictim).1 with hlow | hrest
      · have hlt := hbetween victim hlow master List.mem_cons_self
        omega
      · rcases List.mem_cons.mp hrest with rfl | hup
        · omega
        · exact hup
    rcases List.mem_append.mp hkept with hlow | hrest
    · exact hbetween kept hlow victim (List.mem_cons_of_mem _ hin)
    · rcases List.mem_cons.mp hrest with rfl | hup
      · exact (List.pairwise_cons.mp hhigh).1 victim hin
      · exact absurd (htaken kept hup) hstays

/-! ## The pods afterwards -/

/-- The ordinals that a scale-down reserves: those of the victims up to the master that the scan has met. -/
def Reserved (count : ℕ) (nodes : List Node) (ids : List ℕ) : Prop :=
  ∀ id, id ∈ ids ↔ id ∈ (victims count nodes).map (·.podIndex) ∧ id ≤ (reserveLoop count 0 nodes.reverse).2

section Ordinals

variable {count : ℕ} {nodes : List Node}

theorem Ascending.podIndex_mem_victims (h : Ascending nodes) {node : Node} (hnode : node ∈ nodes) :
    node.podIndex ∈ (victims count nodes).map (·.podIndex) ↔ node ∈ victims count nodes := by
  constructor
  · intro hmem
    obtain ⟨victim, hvictim, heq⟩ := List.mem_map.mp hmem
    exact h.podIndex_inj (mem_of_mem_victims hvictim).1 hnode heq ▸ hvictim
  · exact fun hmem ↦ List.mem_map_of_mem hmem

theorem Ascending.nodup_victims (h : Ascending nodes) : ((victims count nodes).map (·.podIndex)).Nodup := by
  apply List.Nodup.map_on
  · intro first hfirst second hsecond heq
    exact h.podIndex_inj (mem_of_mem_victims hfirst).1 (mem_of_mem_victims hsecond).1 heq
  · have hnodes : nodes.Nodup := List.Pairwise.imp (fun hlt heq ↦ hlt.ne (by rw [heq])) h
    exact ((List.nodup_reverse.mpr hnodes).filter _).sublist (List.take_sublist _ _)

theorem Ascending.toFinset_survivors (h : Ascending nodes) : ((survivors count nodes).map (·.podIndex)).toFinset =
      (nodes.map (·.podIndex)).toFinset \ ((victims count nodes).map (·.podIndex)).toFinset := by
  ext id
  simp only [List.mem_toFinset, Finset.mem_sdiff, List.mem_map, survivors, List.mem_filter, decide_eq_true_eq]
  constructor
  · rintro ⟨node, ⟨hnode, hstays⟩, rfl⟩
    exact ⟨⟨node, hnode, rfl⟩, fun hgone ↦ hstays ((h.podIndex_mem_victims hnode).mp (List.mem_map.mpr hgone))⟩
  · rintro ⟨⟨node, hnode, rfl⟩, hstays⟩
    exact ⟨node, ⟨hnode, fun hgone ↦ hstays ⟨node, hgone, rfl⟩⟩, rfl⟩

/-- Nothing is reserved, or everything that stays lies up to the master. -/
theorem Reserved.nil_or_le {ids : List ℕ} (hids : Reserved count nodes ids) (hascending : Ascending nodes)
    (hone : OneMaster nodes) {master : Node} (hmem : master ∈ nodes) (hrole : master.role = .master) :
    (∀ id, id ∉ ids) ∨ ∀ kept ∈ survivors count nodes, kept.podIndex ≤ master.podIndex := by
  obtain ⟨below, found, above, rfl, hfound, hbelow, habove⟩ := hone.split
  obtain rfl : master = found := by
    rcases List.mem_append.mp hmem with hlow | hrest
    · exact absurd hrole (hbelow master hlow)
    · exact (List.mem_cons.mp hrest).resolve_right fun hup ↦ habove master hup hrole
  rcases scan_cases hascending hrole hbelow habove count with ⟨hscan, hstopped⟩ | ⟨-, htaken⟩
  · refine .inl fun id hid ↦ ?_
    obtain ⟨hvictim, hle⟩ := (hids id).mp hid
    obtain ⟨victim, hin, rfl⟩ := List.mem_map.mp hvictim
    have hlt := (hstopped victim hin).1
    omega
  · refine .inr fun kept hkept ↦ ?_
    obtain ⟨hin, hstays⟩ := List.mem_filter.mp hkept
    rcases List.mem_append.mp hin with hlow | hrest
    · exact ((List.pairwise_append.mp hascending).2.2 kept hlow master List.mem_cons_self).le
    · rcases List.mem_cons.mp hrest with rfl | hup
      · exact le_rfl
      · exact absurd (htaken kept hup) (of_decide_eq_true hstays)

/-- With the chosen ordinals reserved, the smaller number of replicas are the survivors. -/
theorem smallest_append_reserved {size : ℕ} {excluded ids : List ℕ} (hone : OneMaster nodes)
    (hlive : nodes.map (·.podIndex) = Segments.smallest size excluded) (hcount : count < size)
    (hids : Reserved count nodes ids) :
    Segments.smallest (size - count) (excluded ++ ids) = (survivors count nodes).map (·.podIndex) := by
  have hascending : Ascending nodes := by
    have hsorted := Segments.smallest_sorted size excluded
    rw [← hlive] at hsorted
    exact List.pairwise_map.mp hsorted
  have hlength : nodes.length = size := by
    rw [← List.length_map (f := (·.podIndex)), hlive, Segments.smallest_length]
  have hcard : ((victims count nodes).map (·.podIndex)).toFinset.card = count := by
    rw [List.toFinset_card_of_nodup hascending.nodup_victims, List.length_map, hone.length_victims (hlength ▸ hcount)]
  have hsmallest := Segments.smallest_isSmallest size excluded
  rw [← hlive] at hsmallest
  have hremoved : ((victims count nodes).map (·.podIndex)).toFinset ⊆ (nodes.map (·.podIndex)).toFinset := by
    intro id hid
    obtain ⟨node, hnode, rfl⟩ := List.mem_map.mp (List.mem_toFinset.mp hid)
    exact List.mem_toFinset.mpr (List.mem_map_of_mem (mem_of_mem_victims hnode).1)
  have hbarred : ids.toFinset ⊆ ((victims count nodes).map (·.podIndex)).toFinset := by
    intro id hid
    exact List.mem_toFinset.mpr ((hids id).mp (List.mem_toFinset.mp hid)).1
  have hafter := hsmallest.remove hremoved hbarred (by
    intro id hid hfree id' hid' hkept
    obtain ⟨victim, hmem, rfl⟩ := List.mem_map.mp (List.mem_toFinset.mp hid)
    obtain ⟨kept, hnode, rfl⟩ := List.mem_map.mp (List.mem_toFinset.mp hid')
    apply lt_of_not_reserved hascending hone hmem _ hnode
    · exact fun hgone ↦ hkept (List.mem_toFinset.mpr ((hascending.podIndex_mem_victims hnode).mpr hgone))
    · by_contra hle
      have hreserved := (hids victim.podIndex).mpr ⟨List.mem_map_of_mem hmem, not_lt.mp hle⟩
      exact hfree (List.mem_toFinset.mpr hreserved))
  have hsorted : ((survivors count nodes).map (·.podIndex)).Pairwise (· < ·) :=
    List.pairwise_map.mpr (hascending.filter _)
  rw [hcard, ← hascending.toFinset_survivors] at hafter
  symm
  rw [Segments.eq_smallest_iff hsorted]
  apply hafter.congr
  intro id _
  simp

/-- The ordinals of the victims, lowest first. -/
theorem reserveLoop_reverse (count : ℕ) (nodes : List Node) :
    (reserveLoop count 0 nodes.reverse).1.reverse = ((victims count nodes).map (·.podIndex)).reverse := by
  rw [reserveLoop_fst, victims]

theorem Ascending.victims_reverse (h : Ascending nodes) :
    ((victims count nodes).map (·.podIndex)).reverse.Pairwise (· < ·) := by
  have hdescending : nodes.reverse.Pairwise fun first second ↦ second.podIndex < first.podIndex :=
    List.pairwise_reverse.mpr h
  rw [List.pairwise_reverse]
  exact List.pairwise_map.mpr ((hdescending.filter _).sublist (List.take_sublist _ _))

/-- All ordinals up to the master's, as the cluster handler keeps them. -/
theorem reserved_filter : Reserved count nodes (((victims count nodes).map (·.podIndex)).reverse.filter
      fun id ↦ decide (id ≤ (reserveLoop count 0 nodes.reverse).2)) := by
  intro id
  simp [List.mem_filter]

/-- The ordinals before the first one above the master's, as the standard handler keeps them. -/
theorem Ascending.reserved_takeWhile (h : Ascending nodes) :
    Reserved count nodes (((victims count nodes).map (·.podIndex)).reverse.takeWhile
      fun id ↦ decide (id ≤ (reserveLoop count 0 nodes.reverse).2)) := by
  have hmem {bound : ℕ} {ids : List ℕ} (hsorted : ids.Pairwise (· < ·)) (id : ℕ) :
      id ∈ ids.takeWhile (fun id ↦ decide (id ≤ bound)) ↔ id ∈ ids ∧ id ≤ bound := by
    induction ids with
    | nil => simp
    | cons first ids ih =>
      obtain ⟨hfirst, hrest⟩ := List.pairwise_cons.mp hsorted
      by_cases hle : first ≤ bound
      · simp only [List.takeWhile_cons, decide_eq_true hle, if_true, List.mem_cons, ih hrest]
        constructor
        · rintro (rfl | hlater)
          · exact ⟨.inl rfl, hle⟩
          · exact ⟨.inr hlater.1, hlater.2⟩
        · rintro ⟨rfl | hlater, hbound⟩
          · exact .inl rfl
          · exact .inr ⟨hlater, hbound⟩
      · simp only [List.takeWhile_cons, hle, decide_false, Bool.false_eq_true, if_false, List.not_mem_nil,
          List.mem_cons, false_iff, not_and]
        rintro (rfl | hlater)
        · exact hle
        · have hlt := hfirst id hlater
          omega
  intro id
  rw [hmem h.victims_reverse, List.mem_reverse]

end Ordinals

/-- The pods are the nodes there were, less the slaves with the highest ordinals. -/
structure ScaledDown (nodes : List Node) (count : ℕ) (new : StatefulSet) : Prop where
  ordinals : new.ordinals = (survivors count nodes).map (·.podIndex)
  master : ∀ node ∈ nodes, node.role = .master → node.podIndex ∈ new.ordinals
  only : new.ordinals ⊆ nodes.map (·.podIndex)

theorem scaledDown_of_ordinals {nodes : List Node} {new : StatefulSet}
    (h : new.ordinals = (survivors count nodes).map (·.podIndex)) : ScaledDown nodes count new where
  ordinals := h
  master := fun node hnode hrole ↦ h ▸ List.mem_map_of_mem (mem_survivors_of_master hnode hrole)
  only := by
    rw [h]
    exact List.map_subset _ (List.filter_subset_self _)

/-! ## The second loop of `getReserveIndex` -/

/-- The list with the positions of some ids set to `nil`. -/
def eraseAt (ids : List ℕ) (nodes : List (Option Node)) : List (Option Node) :=
  ids.foldl (fun nodes id ↦ nodes.set id none) nodes

@[simp] theorem length_eraseAt (ids : List ℕ) (nodes : List (Option Node)) :
    (eraseAt ids nodes).length = nodes.length := by
  induction ids generalizing nodes with
  | nil => rfl
  | cons id ids ih => rw [eraseAt, List.foldl_cons, ← eraseAt, ih, List.length_set]

theorem getElem?_eraseAt (ids : List ℕ) (nodes : List (Option Node)) (position : ℕ) : (eraseAt ids nodes)[position]? =
      if position ∈ ids ∧ position < nodes.length then some none else nodes[position]? := by
  induction ids generalizing nodes with
  | nil => simp [eraseAt]
  | cons id ids ih =>
    rw [eraseAt, List.foldl_cons, ← eraseAt, ih, List.length_set, List.getElem?_set]
    grind

theorem removeLoop_eq (masterID : ℕ) (ids : List ℕ) (nodes : List (Option Node)) : removeLoop masterID ids nodes =
      if ∀ id ∈ ids, id < nodes.length then
        some (ids.filter fun id ↦ decide (id ≤ masterID), eraseAt ids nodes)
      else none := by
  induction ids generalizing nodes with
  | nil => simp [removeLoop, eraseAt]
  | cons id ids ih =>
    have hcons : (∀ other ∈ id :: ids, other < nodes.length) ↔
        id < nodes.length ∧ ∀ other ∈ ids, other < nodes.length := List.forall_mem_cons
    by_cases hid : id < nodes.length
    · rw [removeLoop, if_pos hid, ih, List.length_set]
      by_cases hids : ∀ other ∈ ids, other < nodes.length
      · rw [if_pos hids, if_pos (hcons.mpr ⟨hid, hids⟩), eraseAt, eraseAt, List.foldl_cons]
        by_cases habove : id > masterID
        · simp [habove]
        · simp [habove, not_lt.mp habove]
      · rw [if_neg hids, if_neg fun hall ↦ hids (hcons.mp hall).2]
        rfl
    · rw [removeLoop, if_neg hid, if_neg fun hall ↦ hid (hcons.mp hall).1]

/-- `getReserveIndex` for a shard that has too many nodes. -/
theorem getReserveIndex_eq {replicas : ℤ} {nodes : List Node} (h : replicas < nodes.length) :
    getReserveIndex replicas nodes =
      let count := (nodes.length - replicas).toNat
      let ids := ((victims count nodes).map (·.podIndex)).reverse
      if ∀ id ∈ ids, id < nodes.length then
        some (some (ids.filter fun id ↦ decide (id ≤ (reserveLoop count 0 nodes.reverse).2)),
          eraseAt ids (nodes.map some))
      else none := by
  have hdelta : (nodes.length : ℤ) - replicas > 0 := by omega
  simp only [getReserveIndex, hdelta, if_true, reserveLoop_reverse, removeLoop_eq, List.length_map]
  split
  · rfl
  · rfl

theorem mem_of_mem_eraseAt {ids : List ℕ} {nodes : List (Option Node)} {node : Node}
    (h : some node ∈ eraseAt ids nodes) : some node ∈ nodes := by
  obtain ⟨position, hposition⟩ := List.mem_iff_getElem?.mp h
  rw [getElem?_eraseAt] at hposition
  split at hposition
  · cases hposition
  · exact List.mem_of_getElem? hposition

/-- The nodes that are left were there before. -/
theorem mem_of_mem_getReserveIndex {replicas : ℤ} {nodes : List Node} {ids : Option (List ℕ)}
    {rest : List (Option Node)} (h : getReserveIndex replicas nodes = some (ids, rest)) {node : Node}
    (hnode : some node ∈ rest) : node ∈ nodes := by
  have hbefore : some node ∈ nodes.map some := by
    by_cases hdelta : replicas < nodes.length
    · rw [getReserveIndex_eq hdelta] at h
      simp only at h
      split at h
      · rw [← (Prod.mk.inj (Option.some.inj h)).2] at hnode
        exact mem_of_mem_eraseAt hnode
      · cases h
    · rw [getReserveIndex, if_neg (by omega)] at h
      rwa [← (Prod.mk.inj (Option.some.inj h)).2] at hnode
  simpa using hbefore

/-- The shards that stay are trimmed one by one. -/
theorem forall₂_shrinkShards {instance_ : KVRocks} {index : ℕ} {shards : Matrix}
    {reserves : List (String × List ℕ)} {kept : List (List (Option Node))}
    (h : shrinkShards instance_ index shards = some (reserves, kept)) :
    List.Forall₂ (fun nodes rest ↦ ∃ ids, getReserveIndex instance_.spec.replicas nodes = some (ids, rest))
      shards kept := by
  induction shards generalizing index reserves kept with
  | nil =>
    cases h
    exact .nil
  | cons nodes shards ih =>
    simp only [shrinkShards, Option.bind_eq_bind, Option.bind_eq_some_iff, Prod.exists] at h
    obtain ⟨ids, rest, hnodes, reserves', kept', hrest, hresult⟩ := h
    have hkept : rest :: kept' = kept := by
      cases ids <;> exact congrArg Prod.snd (Option.some.inj hresult)
    rw [← hkept]
    exact .cons ⟨ids, hnodes⟩ (ih hrest)

end Cluster

end KvrocksOperator
