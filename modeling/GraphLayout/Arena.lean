import GraphLayout.Node

/-!
# Node arena

The nodes of a graph sit in numbered slots. A node keeps its slot for as long
as it is present; a removal leaves the slot vacant, and the slot vacated last
is the first to be used again. Beside the nodes, the arena records the links
between slots; each link carries the place of its edge in a list of edges.
-/

namespace GraphLayout

structure Link where
  source : Nat
  target : Nat
  /-- The place of the edge that the link stands for. -/
  edge : Nat
  deriving DecidableEq, Repr

def Link.touches (slot : Nat) (link : Link) : Bool :=
  link.source == slot || link.target == slot

structure Arena (α : Type) where
  slots : Array (Option (Node α))
  /-- The vacant slots, the one vacated last in front. -/
  vacant : List Nat
  links : List Link

namespace Arena

variable {α : Type}

def empty : Arena α where
  slots := #[]
  vacant := []
  links := []

/-!
# Views
-/

def node? (arena : Arena α) (slot : Nat) : Option (Node α) :=
  arena.slots[slot]?.join

def nodes (arena : Arena α) : List (Node α) :=
  arena.slots.toList.filterMap id

def occupied (arena : Arena α) : List (Nat × Node α) :=
  arena.slots.toList.zipIdx.filterMap fun entry =>
    entry.fst.map fun node => (entry.snd, node)

def count (arena : Arena α) : Nat :=
  arena.slots.toList.countP Option.isSome

/-- One more than the highest occupied slot, or zero without any node. -/
def bound (arena : Arena α) : Nat :=
  (arena.slots.toList.reverse.dropWhile Option.isNone).length

def slotOf? (arena : Arena α) (id : NodeId) : Option Nat :=
  arena.slots.toList.findIdx? fun entry => entry.any fun node => node.id == id

def adjacent (arena : Arena α) (slot : Nat) : List Nat :=
  (arena.links.filter fun link => link.source == slot).map Link.target ++
    (arena.links.filter fun link => link.target == slot).map Link.source

/-!
# Changes
-/

def modify (arena : Arena α) (slot : Nat) (f : Node α -> Node α) : Arena α :=
  { arena with slots := arena.slots.modify slot (Option.map f) }

def map (arena : Arena α) (f : Node α -> Node α) : Arena α :=
  { arena with slots := arena.slots.map (Option.map f) }

/-- Puts a node into the slot vacated last, or into a new one, and tells which. -/
def insert (arena : Arena α) (node : Node α) : Arena α × Nat :=
  match arena.vacant with
  | slot :: vacant =>
      ({ arena with slots := arena.slots.setIfInBounds slot (some node), vacant := vacant }, slot)
  | [] =>
      ({ arena with slots := arena.slots.push (some node) }, arena.slots.size)

def connect (arena : Arena α) (link : Link) : Arena α :=
  { arena with links := link :: arena.links }

def remove (arena : Arena α) (slot : Nat) : Arena α :=
  match arena.node? slot with
  | some _ =>
      { slots := arena.slots.setIfInBounds slot none
        vacant := slot :: arena.vacant
        links := arena.links.filter fun link => !link.touches slot }
  | none => arena

/-!
# The node of every slot after a change
-/

@[simp]
theorem node?_empty (slot : Nat) : (empty : Arena α).node? slot = none := by
  simp [node?, empty]

theorem node?_modify (arena : Arena α) (slot : Nat) (f : Node α -> Node α) (i : Nat) :
    (arena.modify slot f).node? i =
      if slot = i then (arena.node? i).map f else arena.node? i := by
  simp only [node?, modify, Array.getElem?_modify]
  split
  · cases arena.slots[i]? with
    | none => rfl
    | some entry => rfl
  · rfl

@[simp]
theorem node?_map (arena : Arena α) (f : Node α -> Node α) (i : Nat) :
    (arena.map f).node? i = (arena.node? i).map f := by
  simp only [node?, map, Array.getElem?_map]
  cases arena.slots[i]? with
  | none => rfl
  | some entry => rfl

theorem filterMap_id_map_slots {β γ : Type} (f : β -> γ) (slots : Array (Option β)) :
    (slots.map (Option.map f)).toList.filterMap id = (slots.toList.filterMap id).map f := by
  rw [Array.toList_map, List.filterMap_map, List.map_filterMap]
  rfl

theorem nodes_map (arena : Arena α) (f : Node α -> Node α) :
    (arena.map f).nodes = arena.nodes.map f :=
  filterMap_id_map_slots f arena.slots

theorem node?_remove (arena : Arena α) (slot i : Nat) :
    (arena.remove slot).node? i = if slot = i then none else arena.node? i := by
  cases h : arena.node? slot with
  | none =>
      simp only [remove, h]
      split
      · next same => rw [← same, h]
      · rfl
  | some node =>
      simp only [remove, h]
      simp only [node?, Array.getElem?_setIfInBounds]
      split
      · split <;> rfl
      · rfl

end Arena
end GraphLayout
