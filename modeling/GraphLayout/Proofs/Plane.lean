import GraphLayout.Proofs.VanishingScalars
import GraphLayout.Proofs.Requests
import GraphLayout.Proofs.Simulation

/-!
# Flat layouts stay in the plane

In a flat layout every number on the third axis comes from zeros, by sums and differences, by
the lesser or greater of two, and by products and quotients with a number on the third axis as
their first operand. So it stays in any set of scalars that vanish, whatever the numbers on the
other axes have become.
-/

namespace GraphLayout

variable {α : Type} [Scalar α] {zeros : Set α}

/-!
# Forces between points of the plane
-/

namespace Config

variable (hzeros : Scalar.Vanishing zeros) {config : Config α} {a b force : Vec3 α}
include hzeros

theorem z_pull?_two (h : config.pull? .two a b = some force) : force.z ∈ zeros := by
  unfold pull? at h
  dsimp only at h
  split at h
  · cases h
  · cases h
    exact hzeros.mul (hzeros.div hzeros.zero _) _

theorem z_push?_two (h : config.push? .two a b = some force) : force.z ∈ zeros := by
  unfold push? at h
  dsimp only at h
  split at h
  · cases h
  · cases h
    exact hzeros.mul (hzeros.div hzeros.zero _) _

end Config

/-!
# The box of points in the plane
-/

namespace BoundingBox

variable (hzeros : Scalar.Vanishing zeros)
include hzeros

theorem z_foldl_extend {box : BoundingBox α} {points : List (Vec3 α)}
    (hmin : box.min.z ∈ zeros) (hmax : box.max.z ∈ zeros)
    (hpoints : forall point, point ∈ points -> point.z ∈ zeros) :
    (points.foldl extend box).min.z ∈ zeros ∧ (points.foldl extend box).max.z ∈ zeros := by
  induction points generalizing box with
  | nil =>
      exact ⟨hmin, hmax⟩
  | cons point rest ih =>
      have hpoint := hpoints point List.mem_cons_self
      apply ih (hzeros.min hmin hpoint) (hzeros.max hmax hpoint)
      intro other hother
      exact hpoints other (List.mem_cons_of_mem point hother)

theorem z_ofList? {box : BoundingBox α} {points : List (Vec3 α)} (h : ofList? points = some box)
    (hpoints : forall point, point ∈ points -> point.z ∈ zeros) :
    box.min.z ∈ zeros ∧ box.max.z ∈ zeros := by
  cases points with
  | nil =>
      cases h
  | cons first rest =>
      cases h
      have hfirst := hpoints first List.mem_cons_self
      have hrest : forall point, point ∈ rest -> point.z ∈ zeros := by
        intro point hpoint
        exact hpoints point (List.mem_cons_of_mem first hpoint)
      exact z_foldl_extend hzeros hfirst hfirst hrest

theorem z_rescale {box : BoundingBox α} (hmin : box.min.z ∈ zeros) (hmax : box.max.z ∈ zeros)
    {point : Vec3 α} (hpoint : point.z ∈ zeros) : (box.rescale point).z ∈ zeros :=
  hzeros.mul (hzeros.sub hpoint (hzeros.div (hzeros.add hmin hmax) _)) _

end BoundingBox

/-!
# Arenas in the plane
-/

structure Node.InPlane (zeros : Set α) (node : Node α) : Prop where
  position : node.position.z ∈ zeros
  velocity : node.velocity.z ∈ zeros

namespace Arena

def InPlane (zeros : Set α) (arena : Arena α) : Prop :=
  forall slot node, arena.node? slot = some node -> node.InPlane zeros

omit [Scalar α] in
theorem inPlane_empty : (empty : Arena α).InPlane zeros := by
  intro slot node h
  rw [node?_empty] at h
  cases h

omit [Scalar α] in
theorem inPlane_modify {arena : Arena α} (h : arena.InPlane zeros) {slot : Nat}
    {f : Node α -> Node α} (hf : forall node, node.InPlane zeros -> (f node).InPlane zeros) :
    (arena.modify slot f).InPlane zeros := by
  intro i node hnode
  rw [node?_modify] at hnode
  split at hnode
  · rcases Option.map_eq_some_iff.mp hnode with ⟨before, hbefore, rfl⟩
    exact hf before (h i before hbefore)
  · exact h i node hnode

omit [Scalar α] in
theorem inPlane_map {arena : Arena α} (h : arena.InPlane zeros) {f : Node α -> Node α}
    (hf : forall node, node.InPlane zeros -> (f node).InPlane zeros) :
    (arena.map f).InPlane zeros := by
  intro slot node hnode
  rw [node?_map] at hnode
  rcases Option.map_eq_some_iff.mp hnode with ⟨before, hbefore, rfl⟩
  exact hf before (h slot before hbefore)

omit [Scalar α] in
theorem inPlane_foldl {β : Type} {f : Arena α -> β -> Arena α}
    (hf : forall arena x, InPlane zeros arena -> (f arena x).InPlane zeros) {arena : Arena α}
    (h : arena.InPlane zeros) (xs : List β) : (xs.foldl f arena).InPlane zeros := by
  induction xs generalizing arena with
  | nil =>
      exact h
  | cons x rest ih =>
      exact ih (hf arena x h)

omit [Scalar α] in
theorem z_mem_positions {arena : Arena α} (h : arena.InPlane zeros) {point : Vec3 α}
    (hpoint : point ∈ arena.positions) : point.z ∈ zeros := by
  unfold positions at hpoint
  rw [nodes_eq_map_occupied, List.map_map] at hpoint
  rcases List.mem_map.mp hpoint with ⟨entry, hentry, rfl⟩
  exact (h entry.1 entry.2 (mem_occupied.mp hentry)).position

section Changes

variable (hzeros : Scalar.Vanishing zeros) {arena : Arena α} (h : arena.InPlane zeros)
include hzeros h

theorem inPlane_exert {force : Vec3 α} (hforce : force.z ∈ zeros) (first second : Nat) :
    (arena.exert first second force).InPlane zeros := by
  apply inPlane_modify
  · apply inPlane_modify h
    intro node hnode
    exact ⟨hnode.position, hzeros.add hnode.velocity hforce⟩
  · intro node hnode
    exact ⟨hnode.position, hzeros.sub hnode.velocity hforce⟩

theorem inPlane_interact {force? : Vec3 α -> Vec3 α -> Option (Vec3 α)}
    (hforce : forall a b force, force? a b = some force -> force.z ∈ zeros)
    (pair : Nat × Nat) : (arena.interact force? pair).InPlane zeros := by
  unfold interact
  split
  · split
    · next force hsome =>
        exact inPlane_exert hzeros h (hforce _ _ force hsome) _ _
    · exact h
  · exact h

theorem inPlane_attract (config : Config α) (edges : Array Edge) :
    (arena.attract config .two edges).InPlane zeros := by
  unfold attract
  rw [← Array.foldl_toList]
  apply inPlane_foldl _ h
  intro arena edge h
  unfold attractAlong
  split
  · exact inPlane_interact hzeros h (fun _ _ _ => Config.z_pull?_two hzeros) _
  · exact h

theorem inPlane_repel (config : Config α) : (arena.repel config .two).InPlane zeros :=
  inPlane_foldl
    (fun _ pair h => inPlane_interact hzeros h (fun _ _ _ => Config.z_push?_two hzeros) pair) h _

theorem inPlane_gravitate (config : Config α) : (arena.gravitate config).InPlane zeros := by
  apply inPlane_map h
  intro node hnode
  exact ⟨hnode.position, hzeros.sub hnode.velocity (hzeros.mul hnode.position _)⟩

theorem inPlane_advance (config : Config α) : (arena.advance config).InPlane zeros := by
  apply inPlane_map h
  intro node hnode
  exact ⟨hzeros.add hnode.position (hzeros.mul hnode.velocity _), hzeros.zero⟩

theorem inPlane_step (config : Config α) (edges : Array Edge) :
    (arena.step config .two edges).1.InPlane zeros := by
  have hattract := inPlane_attract hzeros h config edges
  have hrepel := inPlane_repel hzeros hattract config
  have hgravitate := inPlane_gravitate hzeros hrepel config
  exact inPlane_advance hzeros hgravitate config

theorem z_bounds? {box : BoundingBox α} (hbox : arena.bounds? = some box) :
    box.min.z ∈ zeros ∧ box.max.z ∈ zeros :=
  BoundingBox.z_ofList? hzeros hbox fun _ hpoint => z_mem_positions h hpoint

theorem inPlane_normalize : arena.normalize.InPlane zeros := by
  unfold normalize
  split
  · next box hbox =>
      rcases z_bounds? hzeros h hbox with ⟨hmin, hmax⟩
      apply inPlane_map h
      intro node hnode
      exact ⟨BoundingBox.z_rescale hzeros hmin hmax hnode.position, hnode.velocity⟩
  · exact h

end Changes
end Arena

/-!
# Flat layouts
-/

namespace Layout

structure InPlane (zeros : Set α) (layout : Layout α) : Prop where
  flat : layout.dimensions = .two
  nodes : layout.arena.InPlane zeros

theorem inPlane_new (config : Config α) : (new .two config).InPlane zeros where
  flat := rfl
  nodes := Arena.inPlane_empty

section Requests

variable (hzeros : Scalar.Vanishing zeros) {layout : Layout α} (h : layout.InPlane zeros)
include hzeros h

theorem inPlane_addNode (full : layout.arena.vacant = []) (element : Element) :
    (layout.addNode element).InPlane zeros where
  flat := h.flat
  nodes := by
    intro slot node hnode
    rw [arena_addNode, Arena.node?_insert_of_full full] at hnode
    split at hnode
    · cases hnode
      refine ⟨?_, hzeros.zero⟩
      change (layout.spiral.advance.point layout.dimensions).z ∈ zeros
      rw [h.flat]
      exact hzeros.zero
    · exact h.nodes slot node hnode

omit hzeros [Scalar α] in
theorem inPlane_addEdge (edge : Edge) : (layout.addEdge edge).InPlane zeros where
  flat := h.flat
  nodes := by
    intro slot node hnode
    rw [arena_addEdge] at hnode
    exact h.nodes slot node hnode

theorem inPlane_load (graph : Graph) : (layout.load graph).1.InPlane zeros := by
  apply load_induction (P := fun _ loaded => loaded.InPlane zeros)
  · exact ⟨h.flat, Arena.inPlane_empty⟩
  · intro _ loaded element full _ hloaded
    exact inPlane_addNode hzeros hloaded full element
  · intro _ loaded element _ hloaded
    exact inPlane_addEdge hloaded _

theorem inPlane_afterSteps (k : Nat) : (layout.afterSteps k).InPlane zeros := by
  induction k with
  | zero =>
      exact h.nodes
  | succ k ih =>
      change (Arena.step layout.config layout.dimensions layout.edges
        (layout.afterSteps k)).1.InPlane zeros
      rw [h.flat]
      exact Arena.inPlane_step hzeros ih layout.config layout.edges

theorem inPlane_simulate : layout.simulate.1.InPlane zeros where
  flat := h.flat
  nodes := by
    rcases layout.run_spec with ⟨k, _, hrun⟩
    change layout.run.arena.normalize.InPlane zeros
    rw [hrun]
    exact Arena.inPlane_normalize hzeros (inPlane_afterSteps hzeros h (k + 1))

omit hzeros [Scalar α] in
theorem inPlane_remove (id : NodeId) : (layout.remove id).1.InPlane zeros := by
  unfold remove
  split
  · next slot _ =>
      refine ⟨h.flat, ?_⟩
      intro i node hnode
      change (layout.arena.remove slot).node? i = some node at hnode
      rw [Arena.node?_remove] at hnode
      split at hnode
      · cases hnode
      · exact h.nodes i node hnode
  · exact h

theorem inPlane_perform (request : Request) : (layout.perform request).InPlane zeros := by
  cases request with
  | load graph =>
      exact inPlane_load hzeros h graph
  | simulate =>
      exact inPlane_simulate hzeros h
  | remove id =>
      exact inPlane_remove h id
  | clear =>
      exact ⟨h.flat, Arena.inPlane_empty⟩

theorem inPlane_performAll (requests : List Request) :
    (layout.performAll requests).InPlane zeros :=
  performAll_induction (P := InPlane zeros)
    (fun _ request hbefore => inPlane_perform hzeros hbefore request) h requests

end Requests

/-- What a caller sees of the third axis: the places of the nodes and the box around them. -/
theorem z_performAll_new_two (hzeros : Scalar.Vanishing zeros) (config : Config α)
    (requests : List Request) :
    (forall slot node, ((new .two config).performAll requests).node? slot = some node ->
        node.position.z ∈ zeros) ∧
      forall box, ((new .two config).performAll requests).bounds? = some box ->
        box.min.z ∈ zeros ∧ box.max.z ∈ zeros := by
  have hnodes := (inPlane_performAll hzeros (inPlane_new config) requests).nodes
  constructor
  · intro slot node hnode
    exact (hnodes slot node hnode).position
  · intro box hbox
    exact Arena.z_bounds? hzeros hnodes hbox

theorem performAll_new_two_inPlane :
    (forall (config : Config Float) (requests : List Request),
      (forall slot node, ((new .two config).performAll requests).node? slot = some node ->
          (node.position.z == 0.0) = true ∨ node.position.z.isNaN = true) ∧
        forall box, ((new .two config).performAll requests).bounds? = some box ->
          ((box.min.z == 0.0) = true ∨ box.min.z.isNaN = true) ∧
            ((box.max.z == 0.0) = true ∨ box.max.z.isNaN = true)) ∧
      forall (K : Type) [ExactScalar K] (config : Config K) (requests : List Request),
        (forall slot node, ((new .two config).performAll requests).node? slot = some node ->
            node.position.z = 0) ∧
          forall box, ((new .two config).performAll requests).bounds? = some box ->
            box.min.z = 0 ∧ box.max.z = 0 :=
  ⟨z_performAll_new_two vanishing_floats, fun _ => z_performAll_new_two vanishing_exact⟩

def linkedPair : Graph :=
  ⟨[.node 1 .empty, .node 2 .empty, .edge (-1) 1 2 .empty]⟩

theorem performAll_new_two_inPlane_linkedPair :
    exists node,
      ((new .two (Config.default : Config Float)).performAll
          [.load linkedPair, .simulate]).node? 1 = some node ∧
        ((node.position.z == 0.0) = true ∨ node.position.z.isNaN = true) := by
  let loaded : Layout Float := ((new .two Config.default).load linkedPair).1
  have hloaded : exists node, loaded.arena.node? 1 = some node := ⟨_, rfl⟩
  rcases hloaded with ⟨node, hnode⟩
  rcases loaded.sameNodes_simulate.node_after hnode with ⟨moved, hmoved, _⟩
  have hplane := (performAll_new_two_inPlane.1 Config.default [.load linkedPair, .simulate]).1
  exact ⟨moved, hmoved, hplane 1 moved hmoved⟩

end Layout
end GraphLayout
