import GraphLayout.Arena
import Mathlib.Data.List.Induction
import Mathlib.Data.List.Sort
import Mathlib.Order.Bounds.Basic

/-!
# The slots of an arena

Everything that an arena shows of its nodes follows from the node of each slot:
the occupied slots, the bound, the search for an id. This module turns these
views into statements about `Arena.node?`, and the later theory uses no other.
-/

namespace GraphLayout
namespace Arena

variable {α : Type}

/-!
# Occupied slots
-/

theorem node?_eq_some_iff {arena : Arena α} {slot : Nat} {node : Node α} :
    arena.node? slot = some node <-> arena.slots[slot]? = some (some node) := by
  unfold node?
  cases arena.slots[slot]? with
  | none =>
      simp
  | some entry =>
      simp

theorem lt_size_of_node? {arena : Arena α} {slot : Nat} {node : Node α}
    (h : arena.node? slot = some node) : slot < arena.slots.size := by
  rw [node?_eq_some_iff] at h
  exact (Array.getElem?_eq_some_iff.mp h).1

theorem mem_occupied {arena : Arena α} {slot : Nat} {node : Node α} :
    (slot, node) ∈ arena.occupied <-> arena.node? slot = some node := by
  rw [node?_eq_some_iff, ← Array.getElem?_toList, ← List.mk_mem_zipIdx_iff_getElem?]
  unfold occupied
  rw [List.mem_filterMap]
  constructor
  · intro h
    rcases h with ⟨⟨entry, i⟩, hmem, hentry⟩
    cases entry with
    | none =>
        cases hentry
    | some present =>
        cases hentry
        exact hmem
  · intro hmem
    exact ⟨(some node, slot), hmem, rfl⟩

theorem pairwise_occupied (arena : Arena α) :
    arena.occupied.Pairwise fun a b => a.1 < b.1 := by
  unfold occupied
  rw [List.pairwise_filterMap]
  have hsnd : (arena.slots.toList.zipIdx.map Prod.snd).Pairwise (· < ·) := by
    rw [List.zipIdx_map_snd]
    exact List.pairwise_lt_range'
  apply (List.pairwise_map.mp hsnd).imp
  intro a b hlt x hx y hy
  rcases Option.map_eq_some_iff.mp hx with ⟨_, _, rfl⟩
  rcases Option.map_eq_some_iff.mp hy with ⟨_, _, rfl⟩
  exact hlt

theorem eq_of_mem_iff_of_ascending {xs ys : List (Nat × Node α)}
    (hx : xs.Pairwise fun a b => a.1 < b.1) (hy : ys.Pairwise fun a b => a.1 < b.1)
    (h : forall entry, entry ∈ xs <-> entry ∈ ys) : xs = ys := by
  have irrefl : Std.Irrefl fun a b : Nat × Node α => a.1 < b.1 :=
    ⟨fun a => Nat.lt_irrefl a.1⟩
  exact hx.eq_of_mem_iff hy h

def presentSlots (arena : Arena α) : List Nat :=
  arena.occupied.map Prod.fst

theorem mem_presentSlots {arena : Arena α} {slot : Nat} :
    slot ∈ arena.presentSlots <-> exists node, arena.node? slot = some node := by
  unfold presentSlots
  rw [List.mem_map]
  constructor
  · intro h
    rcases h with ⟨⟨slot', node⟩, hmem, rfl⟩
    exact ⟨node, mem_occupied.mp hmem⟩
  · intro h
    rcases h with ⟨node, hnode⟩
    exact ⟨(slot, node), mem_occupied.mpr hnode, rfl⟩

theorem pairwise_presentSlots (arena : Arena α) : arena.presentSlots.Pairwise (· < ·) :=
  List.pairwise_map.mpr arena.pairwise_occupied

theorem nodup_presentSlots (arena : Arena α) : arena.presentSlots.Nodup :=
  arena.pairwise_presentSlots.imp Nat.ne_of_lt

/-!
# Present nodes
-/

theorem nodes_eq_map_occupied (arena : Arena α) :
    arena.nodes = arena.occupied.map Prod.snd := by
  unfold nodes occupied
  rw [List.map_filterMap]
  have hfst : arena.slots.toList = arena.slots.toList.zipIdx.map Prod.fst := by
    rw [List.zipIdx_map_fst]
  conv =>
    lhs
    rw [hfst]
  rw [List.filterMap_map]
  apply List.filterMap_congr
  intro entry _
  rcases entry with ⟨_ | node, slot⟩ <;> rfl

theorem nodes_eq_filterMap_presentSlots (arena : Arena α) :
    arena.nodes = arena.presentSlots.filterMap arena.node? := by
  rw [nodes_eq_map_occupied, presentSlots, List.filterMap_map, ← List.filterMap_eq_map]
  apply List.filterMap_congr
  intro entry hmem
  exact (mem_occupied.mp hmem).symm

theorem count_eq_length_presentSlots (arena : Arena α) :
    arena.count = arena.presentSlots.length := by
  have hfst : arena.slots.toList = arena.slots.toList.zipIdx.map Prod.fst := by
    rw [List.zipIdx_map_fst]
  unfold count presentSlots occupied
  conv =>
    lhs
    rw [hfst]
  rw [List.length_map, List.length_filterMap_eq_countP, List.countP_map]
  apply List.countP_congr
  intro entry _
  simp

/-!
# The bound
-/

theorem length_dropWhile_isNone_reverse_le_iff {β : Type} (xs : List (Option β)) (n : Nat) :
    (xs.reverse.dropWhile Option.isNone).length ≤ n <->
      forall i : Nat, n ≤ i -> (xs[i]?).join = none := by
  induction xs using List.reverseRecOn with
  | nil =>
      simp
  | append_singleton ys y ih =>
      rw [List.reverse_append, List.reverse_singleton, List.singleton_append]
      cases y with
      | none =>
          -- a vacant last entry says the same as no entry
          have hentry : forall i : Nat, ((ys ++ [none])[i]?).join = (ys[i]?).join := by
            intro i
            rw [List.getElem?_append]
            split
            · rfl
            · next hge =>
                rw [show ys[i]? = none from List.getElem?_eq_none (Nat.le_of_not_lt hge)]
                cases i - ys.length with
                | zero => rfl
                | succ k => rfl
          rw [List.dropWhile_cons_of_pos rfl, ih]
          simp only [hentry]
      | some present =>
          rw [List.dropWhile_cons_of_neg (by simp), List.length_cons, List.length_reverse]
          constructor
          · intro hlen i hi
            rw [List.getElem?_eq_none (by simp; omega)]
            rfl
          · intro h
            by_contra hlt
            have hvacant := h ys.length (Nat.le_of_lt_succ (Nat.lt_of_not_le hlt))
            simp at hvacant

theorem bound_le_iff {arena : Arena α} {n : Nat} :
    arena.bound ≤ n <-> forall slot, n ≤ slot -> arena.node? slot = none := by
  unfold bound
  rw [length_dropWhile_isNone_reverse_le_iff]
  simp only [node?, Array.getElem?_toList]

theorem lt_bound_of_node? {arena : Arena α} {slot : Nat} {node : Node α}
    (h : arena.node? slot = some node) : slot < arena.bound := by
  by_contra hle
  have hvacant := bound_le_iff.mp (Nat.le_refl arena.bound) slot
    (Nat.le_of_not_lt hle)
  rw [h] at hvacant
  cases hvacant

theorem presentSlots_eq_filter_range (arena : Arena α) :
    arena.presentSlots = (List.range arena.bound).filter fun slot => (arena.node? slot).isSome := by
  apply arena.pairwise_presentSlots.eq_of_mem_iff (List.pairwise_lt_range.filter _)
  intro slot
  rw [mem_presentSlots, List.mem_filter, List.mem_range, Option.isSome_iff_exists]
  constructor
  · intro h
    rcases h with ⟨node, hnode⟩
    exact ⟨lt_bound_of_node? hnode, node, hnode⟩
  · intro h
    exact h.2

/-!
# The search for an id
-/

def Holds (arena : Arena α) (slot : Nat) (id : NodeId) : Prop :=
  exists node, arena.node? slot = some node ∧ node.id = id

theorem Holds.unique {arena : Arena α} {slot : Nat} {id other : NodeId}
    (h : arena.Holds slot id) (h' : arena.Holds slot other) : id = other := by
  rcases h with ⟨node, hnode, rfl⟩
  rcases h' with ⟨node', hnode', rfl⟩
  rw [hnode] at hnode'
  cases hnode'
  rfl

theorem holds_iff_getElem? {arena : Arena α} {slot : Nat} {id : NodeId} :
    arena.Holds slot id <->
      exists entry, arena.slots.toList[slot]? = some entry ∧
        entry.any (fun node => node.id == id) = true := by
  unfold Holds
  constructor
  · intro h
    rcases h with ⟨node, hnode, hid⟩
    refine ⟨some node, ?_, ?_⟩
    · rw [Array.getElem?_toList]
      exact node?_eq_some_iff.mp hnode
    · simpa using hid
  · intro h
    rcases h with ⟨entry, hentry, hany⟩
    cases entry with
    | none =>
        cases hany
    | some node =>
        rw [Array.getElem?_toList] at hentry
        exact ⟨node, node?_eq_some_iff.mpr hentry, by simpa using hany⟩

theorem slotOf?_eq_none_iff {arena : Arena α} {id : NodeId} :
    arena.slotOf? id = none <-> forall slot, ¬arena.Holds slot id := by
  unfold slotOf?
  rw [List.findIdx?_eq_none_iff]
  constructor
  · intro h slot hholds
    rcases holds_iff_getElem?.mp hholds with ⟨entry, hentry, hany⟩
    have hnot := h entry (List.mem_of_getElem? hentry)
    rw [hany] at hnot
    cases hnot
  · intro h entry hmem
    rcases List.getElem?_of_mem hmem with ⟨slot, hslot⟩
    cases hany : entry.any fun node => node.id == id with
    | false =>
        rfl
    | true =>
        exact absurd (holds_iff_getElem?.mpr ⟨entry, hslot, hany⟩) (h slot)

theorem slotOf?_eq_some_iff {arena : Arena α} {id : NodeId} {slot : Nat} :
    arena.slotOf? id = some slot <-> IsLeast {s | arena.Holds s id} slot := by
  unfold slotOf?
  rw [List.findIdx?_eq_some_iff_getElem]
  constructor
  · intro h
    rcases h with ⟨hlt, hany, hlower⟩
    constructor
    · exact holds_iff_getElem?.mpr ⟨_, List.getElem?_eq_getElem hlt, hany⟩
    · intro s hs
      rcases holds_iff_getElem?.mp hs with ⟨entry, hentry, hentryAny⟩
      rcases List.getElem?_eq_some_iff.mp hentry with ⟨hslt, rfl⟩
      by_contra hnot
      exact hlower s (Nat.lt_of_not_le hnot) hentryAny
  · intro h
    rcases holds_iff_getElem?.mp h.1 with ⟨entry, hentry, hany⟩
    rcases List.getElem?_eq_some_iff.mp hentry with ⟨hlt, rfl⟩
    refine ⟨hlt, hany, ?_⟩
    intro s hs hsAny
    have hle : slot ≤ s :=
      h.2 (holds_iff_getElem?.mpr ⟨_, List.getElem?_eq_getElem (Nat.lt_trans hs hlt), hsAny⟩)
    exact Nat.not_lt_of_le hle hs

theorem holds_of_slotOf? {arena : Arena α} {id : NodeId} {slot : Nat}
    (h : arena.slotOf? id = some slot) : arena.Holds slot id :=
  (slotOf?_eq_some_iff.mp h).1

theorem slotOf?_congr {a b : Arena α} {id : NodeId}
    (h : forall slot, a.Holds slot id <-> b.Holds slot id) : a.slotOf? id = b.slotOf? id := by
  have hset : {s | a.Holds s id} = {s | b.Holds s id} := Set.ext h
  cases ha : a.slotOf? id with
  | none =>
      symm
      rw [slotOf?_eq_none_iff] at ha ⊢
      intro slot hb
      exact ha slot ((h slot).mpr hb)
  | some slot =>
      symm
      rw [slotOf?_eq_some_iff] at ha ⊢
      rw [← hset]
      exact ha

end Arena
end GraphLayout
