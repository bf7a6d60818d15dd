import GraphLayout.Proofs.Arena.Slots

/-!
# Changes of an arena

What an insertion and a removal do to the nodes, to the occupied slots and to the
search for an id. An insertion is looked at only where no slot is vacant, as it is
while a graph is loaded.
-/

namespace GraphLayout
namespace Arena

variable {α : Type}

/-!
# Insertion
-/

theorem insert_of_full {arena : Arena α} (full : arena.vacant = []) (node : Node α) :
    arena.insert node =
      ({ arena with slots := arena.slots.push (some node) }, arena.slots.size) := by
  unfold insert
  rw [full]

theorem size_insert_of_full {arena : Arena α} (full : arena.vacant = []) (node : Node α) :
    (arena.insert node).1.slots.size = arena.slots.size + 1 := by
  rw [insert_of_full full]
  exact Array.size_push (some node)

theorem node?_insert_of_full {arena : Arena α} (full : arena.vacant = []) (node : Node α)
    (slot : Nat) :
    (arena.insert node).1.node? slot =
      if slot = arena.slots.size then some node else arena.node? slot := by
  rw [insert_of_full full]
  unfold node?
  rw [Array.getElem?_push]
  split <;> rfl

theorem occupied_insert_of_full {arena : Arena α} (full : arena.vacant = []) (node : Node α) :
    (arena.insert node).1.occupied = arena.occupied ++ [(arena.slots.size, node)] := by
  rw [insert_of_full full]
  unfold occupied
  rw [Array.toList_push, List.zipIdx_append, List.filterMap_append]
  simp

theorem holds_insert_of_full {arena : Arena α} (full : arena.vacant = []) (node : Node α)
    (slot : Nat) (id : NodeId) :
    (arena.insert node).1.Holds slot id <->
      arena.Holds slot id ∨ slot = arena.slots.size ∧ node.id = id := by
  unfold Holds
  rw [node?_insert_of_full full]
  by_cases hslot : slot = arena.slots.size
  · rw [if_pos hslot]
    constructor
    · intro h
      rcases h with ⟨present, hpresent, hid⟩
      cases hpresent
      exact Or.inr ⟨hslot, hid⟩
    · intro h
      rcases h with ⟨present, hpresent, _⟩ | ⟨_, hid⟩
      · exact absurd hslot (Nat.ne_of_lt (lt_size_of_node? hpresent))
      · exact ⟨node, rfl, hid⟩
  · rw [if_neg hslot]
    constructor
    · exact Or.inl
    · intro h
      cases h with
      | inl hold =>
          exact hold
      | inr hnew =>
          exact absurd hnew.1 hslot

/-- A new node is found only if its id was not held before. -/
theorem slotOf?_insert_of_full {arena : Arena α} (full : arena.vacant = []) (node : Node α)
    (id : NodeId) :
    (arena.insert node).1.slotOf? id =
      if id = node.id then some ((arena.slotOf? id).getD arena.slots.size)
      else arena.slotOf? id := by
  by_cases hid : id = node.id
  · rw [if_pos hid, slotOf?_eq_some_iff]
    have hnew : (arena.insert node).1.Holds arena.slots.size id :=
      (holds_insert_of_full full node _ _).mpr (Or.inr ⟨rfl, hid.symm⟩)
    cases hfound : arena.slotOf? id with
    | none =>
        constructor
        · exact hnew
        · intro slot hslot
          rcases (holds_insert_of_full full node _ _).mp hslot with hold | ⟨rfl, _⟩
          · exact absurd hold (slotOf?_eq_none_iff.mp hfound slot)
          · exact Nat.le_refl _
    | some first =>
        rcases slotOf?_eq_some_iff.mp hfound with ⟨hfirst, hleast⟩
        constructor
        · exact (holds_insert_of_full full node _ _).mpr (Or.inl hfirst)
        · intro slot hslot
          rcases (holds_insert_of_full full node _ _).mp hslot with hold | ⟨rfl, _⟩
          · exact hleast hold
          · rcases hfirst with ⟨present, hpresent, _⟩
            exact Nat.le_of_lt (lt_size_of_node? hpresent)
  · rw [if_neg hid]
    apply slotOf?_congr
    intro slot
    rw [holds_insert_of_full full]
    constructor
    · intro h
      cases h with
      | inl hold =>
          exact hold
      | inr hnew =>
          exact absurd hnew.2.symm hid
    · exact Or.inl

/-!
# Removal
-/

theorem holds_remove {arena : Arena α} {removed slot : Nat} {id : NodeId} :
    (arena.remove removed).Holds slot id <-> slot ≠ removed ∧ arena.Holds slot id := by
  unfold Holds
  rw [node?_remove]
  by_cases hslot : removed = slot
  · simp [hslot]
  · simp [hslot, Ne.symm hslot]

theorem slotOf?_remove_of_ne {arena : Arena α} {removed : Nat} {id other : NodeId}
    (hremoved : arena.Holds removed id) (hne : other ≠ id) :
    (arena.remove removed).slotOf? other = arena.slotOf? other := by
  apply slotOf?_congr
  intro slot
  rw [holds_remove]
  constructor
  · exact And.right
  · intro h
    refine ⟨?_, h⟩
    intro hslot
    rw [hslot] at h
    exact hne (h.unique hremoved)

theorem occupied_remove (arena : Arena α) (removed : Nat) :
    (arena.remove removed).occupied = arena.occupied.filter fun entry => entry.1 ≠ removed := by
  apply eq_of_mem_iff_of_ascending (pairwise_occupied _) (arena.pairwise_occupied.filter _)
  intro entry
  rcases entry with ⟨slot, node⟩
  rw [mem_occupied, node?_remove, List.mem_filter, mem_occupied, decide_eq_true_eq]
  by_cases hslot : removed = slot
  · simp [hslot]
  · simp [hslot, Ne.symm hslot]

theorem links_remove_of_holds {arena : Arena α} {removed : Nat} {id : NodeId}
    (h : arena.Holds removed id) :
    (arena.remove removed).links = arena.links.filter fun link => !link.touches removed := by
  rcases h with ⟨node, hnode, _⟩
  unfold remove
  rw [hnode]

/-!
# The first node with an id

The search for an id stops at the first occupied slot that holds it. Removing the
node found there takes the first entry with the id from the occupied slots.
-/

theorem occupied_split_of_slotOf? {arena : Arena α} {id : NodeId} {slot : Nat}
    (h : arena.slotOf? id = some slot) :
    exists front node back,
      arena.occupied = front ++ (slot, node) :: back ∧ node.id = id ∧
        forall entry, entry ∈ front -> entry.2.id ≠ id := by
  rcases slotOf?_eq_some_iff.mp h with ⟨⟨node, hnode, hid⟩, hleast⟩
  rcases List.append_of_mem (mem_occupied.mpr hnode) with ⟨front, back, hsplit⟩
  refine ⟨front, node, back, hsplit, hid, ?_⟩
  intro entry hentry hentryId
  have hsorted := arena.pairwise_occupied
  rw [hsplit] at hsorted
  have hlt : entry.1 < slot :=
    (List.pairwise_append.mp hsorted).2.2 entry hentry (slot, node) List.mem_cons_self
  have hmem : (entry.1, entry.2) ∈ arena.occupied := by
    rw [hsplit]
    exact List.mem_append_left _ hentry
  have hle : slot ≤ entry.1 := hleast ⟨entry.2, mem_occupied.mp hmem, hentryId⟩
  exact Nat.not_lt_of_le hle hlt

theorem slotOf?_eq_find?_occupied (arena : Arena α) (id : NodeId) :
    arena.slotOf? id = (arena.occupied.find? fun entry => entry.2.id == id).map Prod.fst := by
  cases h : arena.slotOf? id with
  | none =>
      have hnone : (arena.occupied.find? fun entry => entry.2.id == id) = none := by
        rw [List.find?_eq_none]
        intro entry hentry hid
        apply slotOf?_eq_none_iff.mp h entry.1
        exact ⟨entry.2, mem_occupied.mp hentry, by simpa using hid⟩
      rw [hnone]
      rfl
  | some slot =>
      rcases occupied_split_of_slotOf? h with ⟨front, node, back, hsplit, hid, hfront⟩
      have hnone : (front.find? fun entry => entry.2.id == id) = none := by
        rw [List.find?_eq_none]
        intro entry hentry
        simpa using hfront entry hentry
      rw [hsplit, List.find?_append, hnone, List.find?_cons_of_pos (by simpa using hid)]
      rfl

theorem occupied_remove_of_slotOf? {arena : Arena α} {id : NodeId} {slot : Nat}
    (h : arena.slotOf? id = some slot) :
    (arena.remove slot).occupied = arena.occupied.eraseP fun entry => entry.2.id == id := by
  rcases occupied_split_of_slotOf? h with ⟨front, node, back, hsplit, hid, hfront⟩
  have hsorted := arena.pairwise_occupied
  rw [hsplit] at hsorted
  rcases List.pairwise_append.mp hsorted with ⟨_, hrest, hacross⟩
  have hkeepFront : (front.filter fun entry => entry.1 ≠ slot) = front := by
    rw [List.filter_eq_self]
    intro entry hentry
    have hlt : entry.1 < slot := hacross entry hentry (slot, node) List.mem_cons_self
    simpa using Nat.ne_of_lt hlt
  have hkeepBack : (back.filter fun entry => entry.1 ≠ slot) = back := by
    rw [List.filter_eq_self]
    intro entry hentry
    have hlt : slot < entry.1 := (List.pairwise_cons.mp hrest).1 entry hentry
    simpa using Nat.ne_of_gt hlt
  have herase : (arena.occupied.eraseP fun entry => entry.2.id == id) = front ++ back := by
    rw [hsplit, List.eraseP_append_right, List.eraseP_cons_of_pos (by simpa using hid)]
    intro entry hentry
    simpa using hfront entry hentry
  rw [occupied_remove, herase, hsplit, List.filter_append, hkeepFront,
    List.filter_cons_of_neg (by simp), hkeepBack]

theorem eraseP_occupied_of_slotOf?_eq_none {arena : Arena α} {id : NodeId}
    (h : arena.slotOf? id = none) :
    (arena.occupied.eraseP fun entry => entry.2.id == id) = arena.occupied := by
  apply List.eraseP_of_forall_not
  intro entry hentry hid
  apply slotOf?_eq_none_iff.mp h entry.1
  exact ⟨entry.2, mem_occupied.mp hentry, by simpa using hid⟩

theorem node?_slotOf?_eq_find?_nodes (arena : Arena α) (id : NodeId) :
    (arena.slotOf? id).bind arena.node? = arena.nodes.find? fun node => node.id == id := by
  rw [slotOf?_eq_find?_occupied, nodes_eq_map_occupied, List.find?_map]
  change _ = ((arena.occupied.find? fun entry => entry.2.id == id).map Prod.snd)
  cases hfind : arena.occupied.find? fun entry => entry.2.id == id with
  | none =>
      rfl
  | some entry =>
      exact mem_occupied.mp (List.mem_of_find?_eq_some hfind)

end Arena
end GraphLayout
