import Mathlib.Algebra.Order.Field.Rat
import Mathlib.Data.List.Forall2
import Mathlib.Data.Nat.Sqrt
import Mathlib.Logic.Equiv.Basic
import GraphLayout.Proofs.Compaction
import GraphLayout.Proofs.Impulses

/-!
# The order of forces

Without rounding no order matters to a layout. The three forces may act in any order, the edges
may be listed in any order and each in either direction, and the nodes may sit in any slots: a
step gives every node the same place, and moves all of them by the same sum.
-/

namespace GraphLayout

variable {α : Type} [Scalar α]

namespace Arena

/-!
# Forces in any order
-/

structure IsForce (force : Arena α -> Arena α) (impulse : Arena α -> Nat -> Vec3 α) : Prop where
  eq_impel : forall arena, force arena = arena.impel (impulse arena)
  reads : forall {a b : Arena α}, AgreeBy Node.position a b -> impulse b = impulse a

variable [LawfulScalar α]

theorem IsForce.comm {force other : Arena α -> Arena α}
    {impulse impulse' : Arena α -> Nat -> Vec3 α}
    (h : IsForce force impulse) (h' : IsForce other impulse') (arena : Arena α) :
    other (force arena) = force (other arena) := by
  calc other (force arena)
      = (arena.impel (impulse arena)).impel (impulse' arena) := by
        rw [h'.eq_impel, h.eq_impel, h'.reads (agreeBy_position_impel _ arena)]
    _ = (arena.impel (impulse' arena)).impel (impulse arena) := by
        rw [impel_impel, impel_impel]
        congr 1
        funext slot
        exact add_comm _ _
    _ = force (other arena) := by
        rw [h.eq_impel, h'.eq_impel, h.reads (agreeBy_position_impel _ arena)]

variable (config : Config α) (dimensions : Dimensions) (edges : Array Edge)

theorem isForce_attract :
    IsForce (attract config dimensions edges) (pullAt config dimensions edges) where
  eq_impel := attract_eq_impel config dimensions edges
  reads h := h.pullAt config dimensions edges

theorem isForce_repel : IsForce (repel config dimensions) (pushAt config dimensions) where
  eq_impel := repel_eq_impel config dimensions
  reads h := h.pushAt config dimensions

theorem isForce_gravitate : IsForce (gravitate config) (weightAt config) where
  eq_impel := gravitate_eq_impel config
  reads h := h.weightAt config

def forces : List (Arena α -> Arena α) :=
  [attract config dimensions edges, repel config dimensions, gravitate config]

theorem exists_isForce {force : Arena α -> Arena α}
    (h : force ∈ forces config dimensions edges) : exists impulse, IsForce force impulse := by
  unfold forces at h
  rcases List.mem_cons.mp h with rfl | h
  · exact ⟨_, isForce_attract config dimensions edges⟩
  · rcases List.mem_cons.mp h with rfl | h
    · exact ⟨_, isForce_repel config dimensions⟩
    · rcases List.mem_singleton.mp h with rfl
      exact ⟨_, isForce_gravitate config⟩

theorem foldl_forces_of_perm {order : List (Arena α -> Arena α)}
    (h : order.Perm (forces config dimensions edges)) (arena : Arena α) :
    order.foldl (fun arena force => force arena) arena =
      ((arena.attract config dimensions edges).repel config dimensions).gravitate config := by
  have hcomm : forall force, force ∈ order -> forall other, other ∈ order ->
      forall arena, other (force arena) = force (other arena) := by
    intro force hforce other hother arena
    rcases exists_isForce config dimensions edges (h.mem_iff.mp hforce) with ⟨impulse, himpulse⟩
    rcases exists_isForce config dimensions edges (h.mem_iff.mp hother) with ⟨impulse', himpulse'⟩
    exact himpulse.comm himpulse' arena
  exact h.foldl_eq' hcomm arena

end Arena

/-!
# Edges in any order and direction
-/

def Edge.reversed (edge : Edge) : Edge :=
  { edge with source := edge.target, target := edge.source }

def Span.reversed (span : Span α) : Span α :=
  ⟨span.target, span.source, -span.delta⟩

theorem Edge.endpoints?_reversed (edge : Edge) :
    edge.reversed.endpoints? = edge.endpoints?.map Prod.swap := by
  obtain ⟨id, source, target, attributes⟩ := edge
  cases source with
  | none =>
      cases target <;> rfl
  | some s =>
      cases target <;> rfl

section Edges

variable [LawfulScalar α] (config : Config α) (dimensions : Dimensions)

theorem Config.pullShare_reversed (slot : Nat) (span : Span α) :
    config.pullShare slot span.reversed = config.pullShare slot span := by
  unfold pullShare Arena.share Span.reversed
  by_cases hsource : span.source = slot <;> by_cases htarget : span.target = slot <;>
    simp [hsource, htarget, config.pullAlong_neg]

namespace Arena

theorem spanBetween?_swap (arena : Arena α) (ends : Nat × Nat) :
    arena.spanBetween? dimensions ends.swap =
      (arena.spanBetween? dimensions ends).map Span.reversed := by
  unfold spanBetween?
  rw [Prod.fst_swap, Prod.snd_swap]
  cases arena.node? ends.1 with
  | none =>
      cases arena.node? ends.2 <;> rfl
  | some source =>
      cases arena.node? ends.2 with
      | none =>
          rfl
      | some target =>
          simp only [Option.bind_some]
          rw [dimensions.activeAxes_sub_comm source.position, Vec3.length_neg]
          split <;> rfl

theorem span?_reversed (arena : Arena α) (edge : Edge) :
    arena.span? dimensions edge.reversed =
      (arena.span? dimensions edge).map Span.reversed := by
  unfold span?
  rw [Edge.endpoints?_reversed]
  cases edge.endpoints? with
  | none =>
      rfl
  | some ends =>
      exact arena.spanBetween?_swap dimensions ends

theorem attract_of_perm {edges edges' : Array Edge} (h : edges'.toList.Perm edges.toList)
    (arena : Arena α) :
    arena.attract config dimensions edges' = arena.attract config dimensions edges := by
  rw [attract_eq_impel, attract_eq_impel]
  congr 1
  funext slot
  exact ((h.filterMap (arena.span? dimensions)).map (config.pullShare slot)).sum_eq

theorem attract_of_turned {edges edges' : Array Edge}
    (h : List.Forall₂ (fun edge edge' => edge' = edge ∨ edge' = edge.reversed)
      edges.toList edges'.toList) (arena : Arena α) :
    arena.attract config dimensions edges' = arena.attract config dimensions edges := by
  have hshare : forall (slot : Nat) (edge : Edge),
      (arena.span? dimensions edge.reversed).map (config.pullShare slot) =
        (arena.span? dimensions edge).map (config.pullShare slot) := by
    intro slot edge
    rw [span?_reversed, Option.map_map]
    simp only [Function.comp_def, config.pullShare_reversed]
  have hshares : forall slot,
      edges'.toList.filterMap (fun edge =>
          (arena.span? dimensions edge).map (config.pullShare slot)) =
        edges.toList.filterMap fun edge =>
          (arena.span? dimensions edge).map (config.pullShare slot) := by
    intro slot
    generalize edges.toList = listed, edges'.toList = turned at h
    induction h with
    | nil =>
        rfl
    | cons hedge _ ih =>
        rw [List.filterMap_cons, List.filterMap_cons, ih]
        rcases hedge with rfl | rfl
        · rfl
        · rw [hshare]
  rw [attract_eq_impel, attract_eq_impel]
  congr 1
  funext slot
  unfold pullAt spans
  rw [List.map_filterMap, List.map_filterMap, hshares]

end Arena
end Edges

/-!
# Nodes in any slots
-/

def Span.rename (ρ : Nat -> Nat) (span : Span α) : Span α :=
  { span with source := ρ span.source, target := ρ span.target }

theorem Config.pullShare_rename (config : Config α) (σ : Equiv.Perm Nat) (slot : Nat)
    (span : Span α) :
    config.pullShare (σ slot) (span.rename σ) = config.pullShare slot span := by
  unfold pullShare Arena.share Span.rename
  simp only [σ.injective.eq_iff]

namespace Arena

/-- The second arena holds the nodes of the first one in permuted slots. -/
def Relocated (σ : Equiv.Perm Nat) (a b : Arena α) : Prop :=
  forall slot, b.node? (σ slot) = a.node? slot

omit [Scalar α] in
theorem nodup_occupied (arena : Arena α) : arena.occupied.Nodup :=
  arena.pairwise_occupied.imp fun hlt heq => Nat.ne_of_lt hlt (congrArg Prod.fst heq)

namespace Relocated

variable {σ : Equiv.Perm Nat} {a b : Arena α} (h : Relocated σ a b)
include h

omit [Scalar α] in
theorem occupied : b.occupied.Perm (a.occupied.map (Prod.map σ id)) := by
  have hinjective : Function.Injective (Prod.map σ (id : Node α -> Node α)) :=
    σ.injective.prodMap Function.injective_id
  apply (List.perm_ext_iff_of_nodup b.nodup_occupied (a.nodup_occupied.map hinjective)).mpr
  intro entry
  rcases entry with ⟨slot, node⟩
  rw [mem_occupied, List.mem_map]
  constructor
  · intro hnode
    refine ⟨(σ.symm slot, node), ?_, ?_⟩
    · rw [mem_occupied, ← h, σ.apply_symm_apply, hnode]
    · exact Prod.ext (σ.apply_symm_apply slot) rfl
  · intro hentry
    rcases hentry with ⟨⟨s, present⟩, hpresent, heq⟩
    cases heq
    change b.node? (σ s) = some present
    rw [h, mem_occupied.mp hpresent]

omit [Scalar α] in
theorem nodes : b.nodes.Perm a.nodes := by
  have hsecond := h.occupied.map Prod.snd
  rw [List.map_map] at hsecond
  rw [nodes_eq_map_occupied, nodes_eq_map_occupied]
  exact hsecond

omit [Scalar α] in
theorem others (slot : Nat) :
    (b.others (σ slot)).Perm ((a.others slot).map (Prod.map σ id)) := by
  have hfiltered := h.occupied.filter fun other => other.1 ≠ σ slot
  rw [List.filter_map] at hfiltered
  have hsame : ((fun other : Nat × Node α => decide (other.1 ≠ σ slot)) ∘ Prod.map σ id) =
      fun other => decide (other.1 ≠ slot) := by
    funext other
    exact decide_eq_decide.mpr (not_congr σ.injective.eq_iff)
  rw [hsame] at hfiltered
  exact hfiltered

theorem spans (dimensions : Dimensions) (edges : Array Edge) :
    b.spans dimensions (edges.map (Edge.rename σ)) =
      (a.spans dimensions edges).map (Span.rename σ) := by
  have hbetween : forall ends : Nat × Nat, b.spanBetween? dimensions (Prod.map σ σ ends) =
      (a.spanBetween? dimensions ends).map (Span.rename σ) := by
    intro ends
    unfold spanBetween?
    rw [Prod.map_fst, Prod.map_snd, h, h]
    cases a.node? ends.1 with
    | none =>
        rfl
    | some source =>
        cases a.node? ends.2 with
        | none =>
            rfl
        | some target =>
            simp only [Option.bind_some]
            split <;> rfl
  unfold Arena.spans
  rw [Array.toList_map, List.filterMap_map, List.map_filterMap]
  apply List.filterMap_congr
  intro edge _
  unfold span?
  rw [Function.comp_apply, Edge.endpoints?_rename]
  cases edge.endpoints? with
  | none =>
      rfl
  | some ends =>
      exact hbetween ends

theorem pullAt (config : Config α) (dimensions : Dimensions) (edges : Array Edge) (slot : Nat) :
    b.pullAt config dimensions (edges.map (Edge.rename σ)) (σ slot) =
      a.pullAt config dimensions edges slot := by
  unfold Arena.pullAt
  rw [h.spans, List.map_map]
  congr 2
  funext span
  exact config.pullShare_rename σ slot span

theorem impel {impulse impulse' : Nat -> Vec3 α}
    (himpulse : forall slot, impulse' (σ slot) = impulse slot) :
    Relocated σ (a.impel impulse) (b.impel impulse') := by
  intro slot
  rw [node?_impel, node?_impel, h, himpulse]

omit [Scalar α] in
theorem map (f : Node α -> Node α) : Relocated σ (a.map f) (b.map f) := by
  intro slot
  rw [node?_map, node?_map, h]

variable [LawfulScalar α]

theorem pushAt (config : Config α) (dimensions : Dimensions) (slot : Nat) :
    b.pushAt config dimensions (σ slot) = a.pushAt config dimensions slot := by
  unfold Arena.pushAt
  rw [h]
  congr 2
  funext node
  have hshares := (h.others slot).map fun other =>
    config.pushShare dimensions node.position other.2.position
  rw [List.map_map] at hshares
  exact hshares.sum_eq

variable (config : Config α) (dimensions : Dimensions) (edges : Array Edge)

theorem attract : Relocated σ (a.attract config dimensions edges)
    (b.attract config dimensions (edges.map (Edge.rename σ))) := by
  rw [attract_eq_impel, attract_eq_impel]
  exact h.impel (h.pullAt config dimensions edges)

theorem repel : Relocated σ (a.repel config dimensions) (b.repel config dimensions) := by
  rw [repel_eq_impel, repel_eq_impel]
  exact h.impel (h.pushAt config dimensions)

omit [LawfulScalar α] in
theorem gravitate : Relocated σ (a.gravitate config) (b.gravitate config) :=
  h.map _

omit [LawfulScalar α] in
theorem advance : Relocated σ (a.advance config) (b.advance config) :=
  h.map _

theorem step : Relocated σ (a.step config dimensions edges).1
      (b.step config dimensions (edges.map (Edge.rename σ))).1 ∧
    (b.step config dimensions (edges.map (Edge.rename σ))).2 =
      (a.step config dimensions edges).2 := by
  have hpushed := ((h.attract config dimensions edges).repel config dimensions).gravitate config
  exact ⟨hpushed.advance config, Scalar.sum_perm (hpushed.nodes.map Node.speed)⟩

end Relocated

/-!
# Steps without rounding
-/

/-- In a field no order has an effect: of the forces, of the edges and their ends, and of the
nodes among the slots. -/
theorem forces_in_any_order {K : Type} [FieldScalar K] (config : Config K)
    (dimensions : Dimensions) (edges : Array Edge) (arena : Arena K) :
    (forall order : List (Arena K -> Arena K),
        order.Perm [attract config dimensions edges, repel config dimensions, gravitate config] ->
        order.foldl (fun arena force => force arena) arena =
          ((arena.attract config dimensions edges).repel config dimensions).gravitate config) ∧
      (forall edges' : Array Edge, edges'.toList.Perm edges.toList ->
        arena.attract config dimensions edges' = arena.attract config dimensions edges) ∧
      (forall edges' : Array Edge,
        List.Forall₂ (fun edge edge' => edge' = edge ∨ edge' = edge.reversed)
          edges.toList edges'.toList ->
        arena.attract config dimensions edges' = arena.attract config dimensions edges) ∧
      forall (σ : Equiv.Perm Nat) (relocated : Arena K), Relocated σ arena relocated ->
        Relocated σ (arena.step config dimensions edges).1
            (relocated.step config dimensions (edges.map (Edge.rename σ))).1 ∧
          (relocated.step config dimensions (edges.map (Edge.rename σ))).2 =
            (arena.step config dimensions edges).2 := by
  refine ⟨?_, ?_, ?_, ?_⟩
  · intro order hperm
    exact foldl_forces_of_perm config dimensions edges hperm arena
  · intro edges' hperm
    exact attract_of_perm config dimensions hperm arena
  · intro edges' hturned
    exact attract_of_turned config dimensions hturned arena
  · intro σ relocated hrelocated
    exact hrelocated.step config dimensions edges

/-- Rational numbers, with a root that is right for the squares among them, and the first terms
of the functions of an angle. -/
instance : FieldScalar Rat where
  sqrt q := (Nat.sqrt (q.num.toNat * q.den) : Rat) / q.den
  sin q := q
  cos q := 1 - q * q / 2
  min := Min.min
  max := Max.max
  ble a b := decide (a ≤ b)

def corner : Arena Rat where
  slots := #[some (.atRest ⟨1⟩ ⟨0, 0, 0⟩ .empty), none, some (.atRest ⟨2⟩ ⟨300, 400, 0⟩ .empty),
    some (.atRest ⟨3⟩ ⟨300, 0, 0⟩ .empty)]
  vacant := [1]
  links := []

def turnedCorner : Arena Rat where
  slots := #[some (.atRest ⟨3⟩ ⟨300, 0, 0⟩ .empty), none, some (.atRest ⟨2⟩ ⟨300, 400, 0⟩ .empty),
    some (.atRest ⟨1⟩ ⟨0, 0, 0⟩ .empty)]
  vacant := [1]
  links := []

theorem relocated_turnedCorner : Relocated (Equiv.swap 0 3) corner turnedCorner := by
  intro slot
  match slot with
  | 0 => rfl
  | 1 => rfl
  | 2 => rfl
  | 3 => rfl
  | n + 4 =>
      have hfixed : Equiv.swap 0 3 (n + 4) = n + 4 :=
        Equiv.swap_apply_of_ne_of_ne (by omega) (by omega)
      rw [hfixed]
      rfl

def cornerEdges : Array Edge :=
  #[⟨⟨-1⟩, some 0, some 2, .empty⟩, ⟨⟨-2⟩, some 3, some 3, .empty⟩, ⟨⟨-3⟩, some 2, some 7, .empty⟩]

theorem forces_in_any_order_corner :
    let config : Config Rat := .default
    let forces := [attract config .two cornerEdges, repel config .two, gravitate config]
    let turned := cornerEdges.map Edge.reversed
    forces.reverse.foldl (fun arena force => force arena) corner =
        ((corner.attract config .two cornerEdges).repel config .two).gravitate config ∧
      corner.attract config .two cornerEdges.reverse = corner.attract config .two cornerEdges ∧
      corner.attract config .two turned = corner.attract config .two cornerEdges ∧
      Relocated (Equiv.swap 0 3) (corner.step config .two cornerEdges).1
        (turnedCorner.step config .two (cornerEdges.map (Edge.rename (Equiv.swap 0 3)))).1 := by
  intro config forces turned
  rcases forces_in_any_order config .two cornerEdges corner with
    ⟨horder, hperm, hturned, hrelocated⟩
  have hreversed : List.Forall₂ (fun edge edge' => edge' = edge ∨ edge' = edge.reversed)
      cornerEdges.toList turned.toList := by
    rw [Array.toList_map, List.forall₂_map_right_iff, List.forall₂_same]
    intro edge _
    exact Or.inr rfl
  refine ⟨horder _ (List.reverse_perm forces), hperm _ ?_, hturned turned hreversed,
    (hrelocated _ _ relocated_turnedCorner).1⟩
  rw [Array.toList_reverse]
  exact List.reverse_perm _

end Arena
end GraphLayout
