import GraphLayout.Proofs.Arena.Pairs
import Mathlib.Data.List.Nodup

/-!
# Arenas that move alike

Two arenas correspond if their present nodes are at the same places with the same
velocities, one after the other, whatever the numbers of the slots are. Forces, steps
and the final rescaling read nothing else of an arena, so that they keep the
correspondence and give the same numbers on both sides.
-/

namespace GraphLayout

variable {α : Type}

def Node.body (node : Node α) : Vec3 α × Vec3 α :=
  (node.position, node.velocity)

/-- A change of a node that depends on its body alone and keeps its label. -/
structure Node.Moves (f : Node α -> Node α) : Prop where
  label : forall node, (f node).label = node.label
  body : forall {a b : Node α}, a.body = b.body -> (f a).body = (f b).body

namespace Node

theorem position_eq_of_body {a b : Node α} (h : a.body = b.body) : a.position = b.position :=
  congrArg Prod.fst h

theorem moves_of_body (g : Vec3 α × Vec3 α -> Vec3 α × Vec3 α) :
    Moves fun node : Node α =>
      { node with position := (g node.body).1, velocity := (g node.body).2 } where
  label _ := rfl
  body h := by
    unfold body at h ⊢
    rw [h]

end Node

namespace Arena

/-!
# The correspondence
-/

/-- The second arena holds the bodies of the first one in the slots that `ρ` names, and
nothing else. -/
structure Corresponds (ρ : Nat -> Nat) (a b : Arena α) : Prop where
  slots : b.presentSlots = a.presentSlots.map ρ
  bodies : forall slot, slot ∈ a.presentSlots ->
    (b.node? (ρ slot)).map Node.body = (a.node? slot).map Node.body

namespace Corresponds

variable {ρ : Nat -> Nat} {a b : Arena α}

theorem injective (h : Corresponds ρ a b) {s t : Nat} (hs : s ∈ a.presentSlots)
    (ht : t ∈ a.presentSlots) (heq : ρ s = ρ t) : s = t := by
  have hnodup : (a.presentSlots.map ρ).Nodup := by
    rw [← h.slots]
    exact b.pairwise_presentSlots.imp Nat.ne_of_lt
  exact List.inj_on_of_nodup_map hnodup hs ht heq

theorem image (h : Corresponds ρ a b) {slot : Nat} {node : Node α}
    (hnode : a.node? slot = some node) :
    exists other, b.node? (ρ slot) = some other ∧ other.body = node.body := by
  have hbody := h.bodies slot (mem_presentSlots.mpr ⟨node, hnode⟩)
  rw [hnode, Option.map_some, Option.map_eq_some_iff] at hbody
  exact hbody

theorem map_body_nodes (h : Corresponds ρ a b) :
    b.nodes.map Node.body = a.nodes.map Node.body := by
  rw [nodes_eq_filterMap_presentSlots, nodes_eq_filterMap_presentSlots, h.slots,
    List.filterMap_map, List.map_filterMap, List.map_filterMap]
  apply List.filterMap_congr
  intro slot hslot
  exact h.bodies slot hslot

theorem positions (h : Corresponds ρ a b) : b.positions = a.positions := by
  have hfirst := congrArg (List.map Prod.fst) h.map_body_nodes
  rw [List.map_map, List.map_map] at hfirst
  exact hfirst

theorem speeds [Scalar α] (h : Corresponds ρ a b) : b.speeds = a.speeds := by
  have hlength := congrArg (List.map fun body : Vec3 α × Vec3 α => body.2.length)
    h.map_body_nodes
  rw [List.map_map, List.map_map] at hlength
  exact hlength

/-!
# Changes of bodies
-/

theorem map (h : Corresponds ρ a b) {f : Node α -> Node α} (hf : Node.Moves f) :
    Corresponds ρ (a.map f) (b.map f) where
  slots := by
    rw [(sameNodes_map b hf.label).presentSlots, (sameNodes_map a hf.label).presentSlots]
    exact h.slots
  bodies slot hslot := by
    rw [(sameNodes_map a hf.label).presentSlots] at hslot
    rcases mem_presentSlots.mp hslot with ⟨node, hnode⟩
    rcases h.image hnode with ⟨other, hother, hbody⟩
    rw [node?_map, node?_map, hnode, hother]
    exact congrArg some (hf.body hbody)

theorem modify (h : Corresponds ρ a b) {f : Node α -> Node α} (hf : Node.Moves f) {slot : Nat}
    (hslot : slot ∈ a.presentSlots) :
    Corresponds ρ (a.modify slot f) (b.modify (ρ slot) f) where
  slots := by
    rw [(sameNodes_modify b (ρ slot) hf.label).presentSlots,
      (sameNodes_modify a slot hf.label).presentSlots]
    exact h.slots
  bodies other hother := by
    rw [(sameNodes_modify a slot hf.label).presentSlots] at hother
    rcases mem_presentSlots.mp hother with ⟨node, hnode⟩
    rcases h.image hnode with ⟨image, himage, hbody⟩
    rw [node?_modify, node?_modify, hnode, himage]
    by_cases heq : slot = other
    · rw [if_pos heq, if_pos (congrArg ρ heq)]
      exact congrArg some (hf.body hbody)
    · have hne : ρ slot ≠ ρ other := fun hρ => heq (h.injective hslot hother hρ)
      rw [if_neg heq, if_neg hne]
      exact congrArg some hbody

variable [Scalar α]

theorem interact (h : Corresponds ρ a b) (force? : Vec3 α -> Vec3 α -> Option (Vec3 α))
    {pair : Nat × Nat} (hfirst : pair.1 ∈ a.presentSlots) (hsecond : pair.2 ∈ a.presentSlots) :
    Corresponds ρ (a.interact force? pair) (b.interact force? (Prod.map ρ ρ pair)) := by
  rcases mem_presentSlots.mp hfirst with ⟨first, hnode⟩
  rcases mem_presentSlots.mp hsecond with ⟨second, hnode'⟩
  rcases h.image hnode with ⟨other, hother, hbody⟩
  rcases h.image hnode' with ⟨other', hother', hbody'⟩
  have hforce : force? other.position other'.position =
      force? first.position second.position := by
    rw [Node.position_eq_of_body hbody, Node.position_eq_of_body hbody']
  unfold Arena.interact
  simp only [Prod.map_fst, Prod.map_snd, hnode, hnode', hother, hother', hforce]
  cases force? first.position second.position with
  | none =>
      exact h
  | some force =>
      have hadd : Node.Moves fun node : Node α => node.accelerate force :=
        Node.moves_of_body fun body => (body.1, body.2 + force)
      have hsub : Node.Moves fun node : Node α => node.decelerate force :=
        Node.moves_of_body fun body => (body.1, body.2 - force)
      apply (h.modify hadd hfirst).modify hsub
      rw [(sameNodes_modify a pair.1 hadd.label).presentSlots]
      exact hsecond

theorem foldl_interact (h : Corresponds ρ a b) (force? : Vec3 α -> Vec3 α -> Option (Vec3 α))
    {pairs : List (Nat × Nat)}
    (hpairs : forall pair, pair ∈ pairs -> pair.1 ∈ a.presentSlots ∧ pair.2 ∈ a.presentSlots) :
    Corresponds ρ (pairs.foldl (Arena.interact force?) a)
      ((pairs.map (Prod.map ρ ρ)).foldl (Arena.interact force?) b) := by
  induction pairs generalizing a b with
  | nil =>
      exact h
  | cons pair rest ih =>
      have hpair := hpairs pair List.mem_cons_self
      apply ih (h.interact force? hpair.1 hpair.2)
      intro other hother
      rw [(sameNodes_interact force? a pair).presentSlots]
      exact hpairs other (List.mem_cons_of_mem pair hother)

/-!
# Forces
-/

theorem attract (h : Corresponds ρ a b) (config : Config α) (dimensions : Dimensions)
    {edges edges' : Array Edge}
    (hdrawn : b.drawn edges' = (a.drawn edges).map (Prod.map ρ ρ)) :
    Corresponds ρ (a.attract config dimensions edges) (b.attract config dimensions edges') := by
  rw [attract_eq_foldl, attract_eq_foldl, hdrawn]
  apply h.foldl_interact
  intro pair hpair
  exact hasBoth_iff.mp (List.mem_filter.mp hpair).2

theorem repel (h : Corresponds ρ a b) (config : Config α) (dimensions : Dimensions) :
    Corresponds ρ (a.repel config dimensions) (b.repel config dimensions) := by
  rw [repel_eq_foldl, repel_eq_foldl, h.slots, orderedPairs_map]
  apply h.foldl_interact
  intro pair hpair
  exact mem_of_mem_orderedPairs hpair

theorem gravitate (h : Corresponds ρ a b) (config : Config α) :
    Corresponds ρ (a.gravitate config) (b.gravitate config) :=
  h.map (Node.moves_of_body fun body => (body.1, body.2 - body.1 * config.gravity))

theorem advance (h : Corresponds ρ a b) (config : Config α) :
    Corresponds ρ (a.advance config) (b.advance config) :=
  h.map (Node.moves_of_body fun body => (body.1 + body.2 * config.damper, Vec3.zero))

theorem normalize (h : Corresponds ρ a b) : Corresponds ρ a.normalize b.normalize := by
  unfold Arena.normalize bounds?
  rw [h.positions]
  cases BoundingBox.ofList? a.positions with
  | none =>
      exact h
  | some box =>
      exact h.map (Node.moves_of_body fun body => (box.rescale body.1, body.2))

end Corresponds

/-!
# Steps
-/

structure Alike (ρ : Nat -> Nat) (edges edges' : Array Edge) (a b : Arena α) : Prop where
  nodes : Corresponds ρ a b
  drawn : b.drawn edges' = (a.drawn edges).map (Prod.map ρ ρ)

namespace Alike

variable {ρ : Nat -> Nat} {edges edges' : Array Edge} {a b : Arena α}

theorem of_sameNodes (h : Alike ρ edges edges' a b) {c d : Arena α}
    (ha : SameNodes a c) (hb : SameNodes b d) (hnodes : Corresponds ρ c d) :
    Alike ρ edges edges' c d where
  nodes := hnodes
  drawn := by
    rw [ha.drawn, hb.drawn]
    exact h.drawn

variable [Scalar α]

theorem step (h : Alike ρ edges edges' a b) (config : Config α) (dimensions : Dimensions) :
    Alike ρ edges edges' (a.step config dimensions edges).1 (b.step config dimensions edges').1 ∧
      (b.step config dimensions edges').2 = (a.step config dimensions edges).2 := by
  have hpushed :=
    ((h.nodes.attract config dimensions h.drawn).repel config dimensions).gravitate config
  constructor
  · exact h.of_sameNodes (sameNodes_step config dimensions edges a)
      (sameNodes_step config dimensions edges' b) (hpushed.advance config)
  · exact congrArg Scalar.sum hpushed.speeds

theorem normalize (h : Alike ρ edges edges' a b) :
    Alike ρ edges edges' a.normalize b.normalize :=
  h.of_sameNodes (sameNodes_normalize a) (sameNodes_normalize b) h.nodes.normalize

end Alike

/-!
# Sequences of steps
-/

variable [Scalar α]

/-- Steps that keep a relation and move equally much end after equally many, with the
same last movement. -/
theorem settle_related {R : Arena α -> Arena α -> Prop}
    {step step' : Arena α -> Arena α × α}
    (hstep : forall a b, R a b -> R (step a).1 (step' b).1 ∧ (step' b).2 = (step a).2)
    (threshold : α) (left : Nat) (iterations : UInt32) {a b : Arena α} (h : R a b) :
    R (settle step threshold left iterations a).arena
        (settle step' threshold left iterations b).arena ∧
      (settle step' threshold left iterations b).iterations =
        (settle step threshold left iterations a).iterations ∧
      (settle step' threshold left iterations b).movement =
        (settle step threshold left iterations a).movement := by
  induction left generalizing iterations a b with
  | zero =>
      rcases hstep a b h with ⟨hnext, hmovement⟩
      exact ⟨hnext, rfl, hmovement⟩
  | succ left ih =>
      rcases hstep a b h with ⟨hnext, hmovement⟩
      unfold settle
      simp only [hmovement]
      cases Scalar.ble threshold (step a).2 with
      | false =>
          exact ⟨hnext, rfl, rfl⟩
      | true =>
          exact ih (iterations + 1) hnext

end Arena
end GraphLayout
