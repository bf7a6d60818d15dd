import GraphLayout.Layout.Simulate
import GraphLayout.Proofs.Arena.Agreement

/-!
# What moving the nodes leaves alone

Forces, steps and the final rescaling change where nodes are and how fast they move.
Which slots are occupied, the ids and attributes in them and the links stay. After
every step all nodes are at rest.
-/

namespace GraphLayout

variable {α : Type}

def Node.label (node : Node α) : NodeId × Attributes :=
  (node.id, node.attributes)

namespace Arena

/-- The second arena holds the nodes of the first one in the same slots, at other
places perhaps. -/
structure SameNodes (before after : Arena α) : Prop where
  label : forall slot, (after.node? slot).map Node.label = (before.node? slot).map Node.label
  size : after.slots.size = before.slots.size
  vacant : after.vacant = before.vacant
  links : after.links = before.links

namespace SameNodes

theorem refl (arena : Arena α) : SameNodes arena arena where
  label := AgreeBy.refl Node.label arena
  size := rfl
  vacant := rfl
  links := rfl

theorem trans {a b c : Arena α} (hab : SameNodes a b) (hbc : SameNodes b c) :
    SameNodes a c where
  label := AgreeBy.trans hab.label hbc.label
  size := hbc.size.trans hab.size
  vacant := hbc.vacant.trans hab.vacant
  links := hbc.links.trans hab.links

/-!
## Views of arenas with the same nodes
-/

theorem agreeBy {a b : Arena α} (h : SameNodes a b) : AgreeBy Node.label a b :=
  h.label

theorem isSome {a b : Arena α} (h : SameNodes a b) (slot : Nat) :
    (b.node? slot).isSome = (a.node? slot).isSome :=
  h.agreeBy.isSome slot

theorem node_after {a b : Arena α} (h : SameNodes a b) {slot : Nat} {node : Node α}
    (hnode : a.node? slot = some node) :
    exists moved, b.node? slot = some moved ∧ moved.label = node.label :=
  h.agreeBy.node_after hnode

theorem symm {a b : Arena α} (h : SameNodes a b) : SameNodes b a where
  label := h.agreeBy.symm
  size := h.size.symm
  vacant := h.vacant.symm
  links := h.links.symm

theorem holds_iff {a b : Arena α} (h : SameNodes a b) (slot : Nat) (id : NodeId) :
    b.Holds slot id <-> a.Holds slot id := by
  have hforward : forall {a b : Arena α}, SameNodes a b -> a.Holds slot id -> b.Holds slot id := by
    intro a b h hholds
    rcases hholds with ⟨node, hnode, hid⟩
    rcases h.node_after hnode with ⟨moved, hmoved, hlabel⟩
    exact ⟨moved, hmoved, (congrArg Prod.fst hlabel).trans hid⟩
  exact ⟨hforward h.symm, hforward h⟩

theorem slotOf? {a b : Arena α} (h : SameNodes a b) (id : NodeId) :
    b.slotOf? id = a.slotOf? id :=
  slotOf?_congr fun slot => h.holds_iff slot id

theorem presentSlots {a b : Arena α} (h : SameNodes a b) :
    b.presentSlots = a.presentSlots :=
  h.agreeBy.presentSlots

theorem bound {a b : Arena α} (h : SameNodes a b) : b.bound = a.bound := by
  have hle : forall {a b : Arena α}, SameNodes a b -> b.bound ≤ a.bound := by
    intro a b h
    rw [bound_le_iff]
    intro slot hslot
    rw [← Option.isNone_iff_eq_none, ← Option.not_isSome, h.isSome slot]
    rw [bound_le_iff.mp (Nat.le_refl a.bound) slot hslot]
    rfl
  exact Nat.le_antisymm (hle h) (hle h.symm)

theorem occupied_label {a b : Arena α} (h : SameNodes a b) :
    (b.occupied.map fun entry => (entry.1, entry.2.label)) =
      a.occupied.map fun entry => (entry.1, entry.2.label) :=
  h.agreeBy.occupied

end SameNodes

/-- The node of every slot, with the slots not in use and the links, is all there is. -/
theorem eq_of_sameNodes {a b : Arena α} (h : SameNodes a b)
    (hnode : forall slot, b.node? slot = a.node? slot) : b = a := by
  have hslots : b.slots = a.slots := by
    apply Array.ext_getElem?
    intro i
    by_cases hi : i < a.slots.size
    · have hslot := hnode i
      unfold node? at hslot
      rw [Array.getElem?_eq_getElem hi, Array.getElem?_eq_getElem (h.size ▸ hi)] at hslot ⊢
      exact congrArg some hslot
    · have hle := Nat.le_of_not_lt hi
      rw [Array.getElem?_eq_none hle, Array.getElem?_eq_none (h.size ▸ hle)]
  cases a
  cases b
  have hvacant := h.vacant
  have hlinks := h.links
  simp only at hslots hvacant hlinks
  rw [hslots, hvacant, hlinks]

/-!
# Forces
-/

theorem sameNodes_modify (arena : Arena α) (slot : Nat) {f : Node α -> Node α}
    (hf : forall node, (f node).label = node.label) :
    SameNodes arena (arena.modify slot f) where
  label i := by
    rw [node?_modify]
    split
    · rw [Option.map_map]
      congr 1
      funext node
      exact hf node
    · rfl
  size := by simp [modify]
  vacant := rfl
  links := rfl

theorem sameNodes_map (arena : Arena α) {f : Node α -> Node α}
    (hf : forall node, (f node).label = node.label) :
    SameNodes arena (arena.map f) where
  label i := by
    rw [node?_map, Option.map_map]
    congr 1
    funext node
    exact hf node
  size := by simp [map]
  vacant := rfl
  links := rfl

theorem sameNodes_foldl {β : Type} {f : Arena α -> β -> Arena α}
    (hf : forall arena x, SameNodes arena (f arena x)) (arena : Arena α) (xs : List β) :
    SameNodes arena (xs.foldl f arena) := by
  induction xs generalizing arena with
  | nil =>
      exact SameNodes.refl arena
  | cons x rest ih =>
      exact (hf arena x).trans (ih (f arena x))

variable [Scalar α]

theorem sameNodes_exert (arena : Arena α) (first second : Nat) (force : Vec3 α) :
    SameNodes arena (arena.exert first second force) := by
  unfold exert
  apply SameNodes.trans (sameNodes_modify arena first _) (sameNodes_modify _ second _)
  · intro node
    rfl
  · intro node
    rfl

theorem sameNodes_interact (force? : Vec3 α -> Vec3 α -> Option (Vec3 α)) (arena : Arena α)
    (pair : Nat × Nat) : SameNodes arena (arena.interact force? pair) := by
  unfold interact
  split
  · split
    · exact sameNodes_exert arena _ _ _
    · exact SameNodes.refl arena
  · exact SameNodes.refl arena

theorem sameNodes_attract (config : Config α) (dimensions : Dimensions) (edges : Array Edge)
    (arena : Arena α) : SameNodes arena (arena.attract config dimensions edges) := by
  unfold attract
  rw [← Array.foldl_toList]
  apply sameNodes_foldl
  intro arena edge
  unfold attractAlong
  split
  · exact sameNodes_interact _ arena _
  · exact SameNodes.refl arena

theorem sameNodes_repel (config : Config α) (dimensions : Dimensions) (arena : Arena α) :
    SameNodes arena (arena.repel config dimensions) :=
  sameNodes_foldl (sameNodes_interact _) arena _

theorem sameNodes_gravitate (config : Config α) (arena : Arena α) :
    SameNodes arena (arena.gravitate config) :=
  sameNodes_map arena fun _ => rfl

theorem sameNodes_advance (config : Config α) (arena : Arena α) :
    SameNodes arena (arena.advance config) :=
  sameNodes_map arena fun _ => rfl

theorem sameNodes_step (config : Config α) (dimensions : Dimensions) (edges : Array Edge)
    (arena : Arena α) : SameNodes arena (arena.step config dimensions edges).1 := by
  have hattract := sameNodes_attract config dimensions edges arena
  have hrepel := hattract.trans (sameNodes_repel config dimensions _)
  have hgravitate := hrepel.trans (sameNodes_gravitate config _)
  exact hgravitate.trans (sameNodes_advance config _)

theorem sameNodes_normalize (arena : Arena α) : SameNodes arena arena.normalize := by
  unfold normalize
  split
  · exact sameNodes_map arena fun _ => rfl
  · exact SameNodes.refl arena

/-!
# Rest
-/

def AtRest (arena : Arena α) : Prop :=
  forall slot node, arena.node? slot = some node -> node.velocity = Vec3.zero

theorem atRest_empty : (empty : Arena α).AtRest := by
  intro slot node h
  rw [node?_empty] at h
  cases h

theorem atRest_advance (config : Config α) (arena : Arena α) : (arena.advance config).AtRest := by
  intro slot node h
  unfold advance at h
  rw [node?_map, Option.map_eq_some_iff] at h
  rcases h with ⟨_, _, rfl⟩
  rfl

theorem atRest_step (config : Config α) (dimensions : Dimensions) (edges : Array Edge)
    (arena : Arena α) : (arena.step config dimensions edges).1.AtRest :=
  atRest_advance config _

theorem atRest_normalize {arena : Arena α} (h : arena.AtRest) : arena.normalize.AtRest := by
  unfold normalize
  split
  · intro slot node hnode
    rw [node?_map, Option.map_eq_some_iff] at hnode
    rcases hnode with ⟨still, hstill, rfl⟩
    exact h slot still hstill
  · exact h

end Arena
end GraphLayout
