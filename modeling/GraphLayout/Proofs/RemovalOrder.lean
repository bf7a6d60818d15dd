import GraphLayout.Proofs.Neighbors
import GraphLayout.Proofs.Topology

/-!
# The order of removals

Nodes may be removed in any order: of two lists of ids that are permutations of each other,
both lead to layouts that show the same, with the same answers for each id. The arenas
differ in the order in which vacant slots would be used again, and the indexes in the order
of their entries. Neither shows, as a coherent layout is determined by its slots and edges.
-/

namespace GraphLayout

theorem Edge.detach_comm (s t : Nat) (edge : Edge) :
    (edge.detach s).detach t = (edge.detach t).detach s := by
  have hsource : ((edge.detach s).detach t).source = ((edge.detach t).detach s).source := by
    apply Option.ext
    intro slot
    simp only [source_detach_eq_some_iff]
    tauto
  have htarget : ((edge.detach s).detach t).target = ((edge.detach t).detach s).target := by
    apply Option.ext
    intro slot
    simp only [target_detach_eq_some_iff]
    tauto
  exact congrArg₂ (fun source target => { edge with source := source, target := target })
    hsource htarget

theorem Arena.slots_remove {α : Type} (arena : Arena α) (slot : Nat) :
    (arena.remove slot).slots = arena.slots.setIfInBounds slot none := by
  cases hnode : arena.node? slot with
  | some node =>
      simp only [remove, hnode]
  | none =>
      -- a vacant slot is made vacant again, or there is no such slot
      simp only [remove, hnode]
      apply Array.ext_getElem?
      intro i
      rw [Array.getElem?_setIfInBounds]
      by_cases hi : slot = i
      · rw [if_pos hi]
        subst hi
        unfold node? at hnode
        cases hentry : arena.slots[slot]? with
        | none =>
            rw [Array.getElem?_eq_none_iff] at hentry
            rw [if_neg (Nat.not_lt_of_le hentry)]
        | some entry =>
            rw [hentry, Option.join_some] at hnode
            rw [if_pos (Array.getElem?_eq_some_iff.mp hentry).1, hnode]
      · rw [if_neg hi]

namespace Layout

variable {α : Type}

def removeAll (layout : Layout α) : List NodeId -> Layout α × List (NodeId × Bool)
  | [] => (layout, [])
  | id :: rest =>
      let (removed, found) := layout.remove id
      let (last, answers) := removed.removeAll rest
      (last, (id, found) :: answers)

theorem removeAll_cons (layout : Layout α) (id : NodeId) (rest : List NodeId) :
    layout.removeAll (id :: rest) =
      (((layout.remove id).1.removeAll rest).1,
        (id, (layout.remove id).2) :: ((layout.remove id).1.removeAll rest).2) :=
  rfl

/-!
# Agreement

What determines a coherent layout.
-/

def settings (layout : Layout α) : Config α × Dimensions × Spiral α × UInt32 :=
  (layout.config, layout.dimensions, layout.spiral, layout.iterations)

structure Agrees (first second : Layout α) : Prop where
  settings : second.settings = first.settings
  slots : second.arena.slots = first.arena.slots
  edges : second.edges = first.edges

namespace Agrees

variable {first second third : Layout α}

theorem refl (layout : Layout α) : Agrees layout layout :=
  ⟨rfl, rfl, rfl⟩

theorem trans (h : Agrees first second) (h' : Agrees second third) : Agrees first third where
  settings := h'.settings.trans h.settings
  slots := h'.slots.trans h.slots
  edges := h'.edges.trans h.edges

theorem node? (h : Agrees first second) (slot : Nat) : second.node? slot = first.node? slot := by
  change second.arena.node? slot = first.arena.node? slot
  unfold Arena.node?
  rw [h.slots]

theorem slotOf? (h : Agrees first second) (id : NodeId) :
    second.arena.slotOf? id = first.arena.slotOf? id := by
  unfold Arena.slotOf?
  rw [h.slots]

theorem nodeBound (h : Agrees first second) : second.nodeBound = first.nodeBound := by
  unfold Layout.nodeBound Arena.bound
  rw [h.slots]

theorem presentSlots (h : Agrees first second) :
    second.arena.presentSlots = first.arena.presentSlots := by
  unfold Arena.presentSlots Arena.occupied
  rw [h.slots]

theorem alike (h : Agrees first second) : Alike id first second where
  config := congrArg (·.1) h.settings
  dimensions := congrArg (·.2.1) h.settings
  iterations := congrArg (·.2.2.2) h.settings
  arena := by
    have hnodes : Arena.Corresponds id first.arena second.arena := by
      constructor
      · rw [h.presentSlots, List.map_id]
      · intro slot _
        exact congrArg (Option.map Node.body) (h.node? slot)
    have hboth : second.arena.hasBoth = first.arena.hasBoth := by
      funext pair
      rw [Bool.eq_iff_iff, Arena.hasBoth_iff, Arena.hasBoth_iff, h.presentSlots]
    refine ⟨hnodes, ?_⟩
    unfold Arena.drawn
    rw [h.edges, hboth, Prod.map_id, List.map_id]

end Agrees

variable [Scalar α]

namespace Agrees

variable {first second : Layout α}

theorem nodeIndex? (h : Agrees first second) (hfirst : first.Coherent)
    (hsecond : second.Coherent) (id : NodeId) :
    second.nodeIndex? id = first.nodeIndex? id := by
  change second.index.slot? id = first.index.slot? id
  rw [hsecond.lookup, hfirst.lookup, h.slotOf?]

theorem neighbors (h : Agrees first second) (hfirst : first.Coherent)
    (hsecond : second.Coherent) (id : NodeId) : second.neighbors id = first.neighbors id := by
  have hlinks : second.arena.links = first.arena.links := by
    rw [hsecond.links, hfirst.links, h.edges]
  unfold Layout.neighbors Arena.adjacent
  rw [h.nodeIndex? hfirst hsecond, hlinks]
  simp only [h.node?]

end Agrees

/-!
# One removal
-/

theorem Coherent.agrees_remove {first second : Layout α} (hfirst : first.Coherent)
    (hsecond : second.Coherent) (h : Agrees first second) (id : NodeId) :
    Agrees (first.remove id).1 (second.remove id).1 ∧
      (second.remove id).2 = (first.remove id).2 := by
  have hindex := h.nodeIndex? hfirst hsecond id
  unfold remove
  rw [hindex]
  cases first.nodeIndex? id with
  | none =>
      exact ⟨h, rfl⟩
  | some slot =>
      refine ⟨⟨h.settings, ?_, ?_⟩, ?_⟩
      · change (second.arena.remove slot).slots = (first.arena.remove slot).slots
        rw [Arena.slots_remove, Arena.slots_remove, h.slots]
      · change second.edges.map _ = first.edges.map _
        rw [h.edges]
      · exact congrArg Option.isSome (h.node? slot)

omit [Scalar α] in
theorem nodeIndex?_remove_of_ne (layout : Layout α) {id other : NodeId} (hne : other ≠ id) :
    (layout.remove id).1.nodeIndex? other = layout.nodeIndex? other := by
  unfold remove
  cases layout.nodeIndex? id with
  | none =>
      rfl
  | some slot =>
      change (layout.index.replace id _).slot? other = layout.index.slot? other
      rw [SlotIndex.slot?_replace, if_neg hne]

theorem Coherent.snd_remove {layout : Layout α} (h : layout.Coherent) (id : NodeId) :
    (layout.remove id).2 = (layout.nodeIndex? id).isSome := by
  unfold remove
  cases hindex : layout.nodeIndex? id with
  | none =>
      rfl
  | some slot =>
      rcases h.holds_of_nodeIndex? hindex with ⟨node, hnode, _⟩
      exact congrArg Option.isSome hnode

theorem Coherent.snd_remove_remove {layout : Layout α} (h : layout.Coherent)
    {id other : NodeId} (hne : other ≠ id) :
    ((layout.remove id).1.remove other).2 = (layout.remove other).2 := by
  rw [(coherent_remove h id).snd_remove, h.snd_remove, layout.nodeIndex?_remove_of_ne hne]

/-!
# Two removals
-/

omit [Scalar α] in
theorem settings_remove (layout : Layout α) (id : NodeId) :
    (layout.remove id).1.settings = layout.settings := by
  unfold remove
  cases layout.nodeIndex? id with
  | none =>
      rfl
  | some slot =>
      rfl

omit [Scalar α] in
theorem slots_remove (layout : Layout α) (id : NodeId) :
    (layout.remove id).1.arena.slots =
      (layout.nodeIndex? id).elim layout.arena.slots fun slot =>
        layout.arena.slots.setIfInBounds slot none := by
  unfold remove
  cases layout.nodeIndex? id with
  | none =>
      rfl
  | some slot =>
      exact layout.arena.slots_remove slot

omit [Scalar α] in
theorem edges_remove (layout : Layout α) (id : NodeId) :
    (layout.remove id).1.edges =
      (layout.nodeIndex? id).elim layout.edges fun slot =>
        layout.edges.map (Edge.detach slot) := by
  unfold remove
  cases layout.nodeIndex? id with
  | none =>
      rfl
  | some slot =>
      rfl

omit [Scalar α] in
theorem agrees_remove_comm (layout : Layout α) {a b : NodeId} (hne : a ≠ b) :
    Agrees ((layout.remove a).1.remove b).1 ((layout.remove b).1.remove a).1 := by
  have ha := layout.nodeIndex?_remove_of_ne hne
  have hb := layout.nodeIndex?_remove_of_ne hne.symm
  constructor
  case settings =>
    simp only [settings_remove]
  case slots =>
    simp only [slots_remove, ha, hb]
    cases layout.nodeIndex? a with
    | none =>
        rfl
    | some s =>
        cases layout.nodeIndex? b with
        | none =>
            rfl
        | some t =>
            by_cases hst : s = t
            · rw [hst]
            · exact Array.setIfInBounds_comm none none (Ne.symm hst)
  case edges =>
    simp only [edges_remove, ha, hb]
    cases layout.nodeIndex? a with
    | none =>
        rfl
    | some s =>
        cases layout.nodeIndex? b with
        | none =>
            rfl
        | some t =>
            simp only [Option.elim_some, Array.map_map]
            exact congrArg (Array.map · layout.edges) (funext (Edge.detach_comm t s))

/-!
# Lists of removals
-/

theorem Coherent.removeAll {layout : Layout α} (h : layout.Coherent) (ids : List NodeId) :
    (layout.removeAll ids).1.Coherent := by
  induction ids generalizing layout with
  | nil =>
      exact h
  | cons id rest ih =>
      exact ih (coherent_remove h id)

theorem Coherent.agrees_removeAll_same {first second : Layout α} (hfirst : first.Coherent)
    (hsecond : second.Coherent) (h : Agrees first second) (ids : List NodeId) :
    Agrees (first.removeAll ids).1 (second.removeAll ids).1 ∧
      (second.removeAll ids).2 = (first.removeAll ids).2 := by
  induction ids generalizing first second with
  | nil =>
      exact ⟨h, rfl⟩
  | cons id rest ih =>
      rcases hfirst.agrees_remove hsecond h id with ⟨hremoved, hanswer⟩
      rcases ih (coherent_remove hfirst id) (coherent_remove hsecond id) hremoved with
        ⟨hrest, hanswers⟩
      rw [removeAll_cons, removeAll_cons, hanswer, hanswers]
      exact ⟨hrest, rfl⟩

/-- The induction is on how the permutation comes about: the step that changes the order
exchanges two ids that stand next to each other. -/
theorem Coherent.agrees_removeAll {first second : Layout α} (hfirst : first.Coherent)
    (hsecond : second.Coherent) (h : Agrees first second) {ids ids' : List NodeId}
    (hperm : ids.Perm ids') :
    Agrees (first.removeAll ids).1 (second.removeAll ids').1 ∧
      (second.removeAll ids').2.Perm (first.removeAll ids).2 := by
  induction hperm generalizing first second with
  | nil =>
      exact ⟨h, List.Perm.refl _⟩
  | cons id _ ih =>
      rcases hfirst.agrees_remove hsecond h id with ⟨hremoved, hanswer⟩
      rcases ih (coherent_remove hfirst id) (coherent_remove hsecond id) hremoved with
        ⟨hrest, hanswers⟩
      rw [removeAll_cons, removeAll_cons, hanswer]
      exact ⟨hrest, hanswers.cons _⟩
  | swap a b rest =>
      rcases hfirst.agrees_removeAll_same hsecond h (b :: a :: rest) with ⟨hsame, hanswers⟩
      by_cases hne : a = b
      · subst hne
        exact ⟨hsame, List.Perm.of_eq hanswers⟩
      · have hb := coherent_remove hsecond b
        have ha := coherent_remove hsecond a
        rcases (coherent_remove hb a).agrees_removeAll_same (coherent_remove ha b)
          (second.agrees_remove_comm (Ne.symm hne)) rest with ⟨hswapped, hrest⟩
        refine ⟨hsame.trans hswapped, ?_⟩
        rw [← hanswers]
        simp only [removeAll_cons, hrest, hsecond.snd_remove_remove hne,
          hsecond.snd_remove_remove (Ne.symm hne)]
        exact List.Perm.swap _ _ _
  | trans _ _ ih ih' =>
      rcases ih hfirst hfirst (Agrees.refl first) with ⟨hagrees, hanswers⟩
      rcases ih' hfirst hsecond h with ⟨hagrees', hanswers'⟩
      exact ⟨hagrees.trans hagrees', hanswers'.trans hanswers⟩

structure SameView (first second : Layout α) : Prop where
  nodes : forall slot, second.node? slot = first.node? slot
  bound : second.nodeBound = first.nodeBound
  index : forall id, second.nodeIndex? id = first.nodeIndex? id
  edges : second.edges = first.edges
  neighbors : forall id, second.neighbors id = first.neighbors id
  iterations : second.iterations = first.iterations

theorem Agrees.sameView {first second : Layout α} (h : Agrees first second)
    (hfirst : first.Coherent) (hsecond : second.Coherent) : SameView first second where
  nodes := h.node?
  bound := h.nodeBound
  index := h.nodeIndex? hfirst hsecond
  edges := h.edges
  neighbors := h.neighbors hfirst hsecond
  iterations := congrArg (·.2.2.2) h.settings

theorem removeAll_perm (dimensions : Dimensions) (config : Config α) (requests : List Request)
    {ids ids' : List NodeId} (hperm : ids.Perm ids') :
    let layout := (new dimensions config).performAll requests
    let first := layout.removeAll ids
    let second := layout.removeAll ids'
    SameView first.1 second.1 ∧
      (forall id, second.2.count (id, true) = first.2.count (id, true)) ∧
      second.1.simulate.1.positions = first.1.simulate.1.positions ∧
      second.1.simulate.1.iterations = first.1.simulate.1.iterations := by
  intro layout first second
  have hcoherent : layout.Coherent := coherent_performAll (coherent_new dimensions config) requests
  rcases hcoherent.agrees_removeAll hcoherent (Agrees.refl layout) hperm with
    ⟨hagrees, hanswers⟩
  have hsimulated := hagrees.alike.simulate
  exact ⟨hagrees.sameView (hcoherent.removeAll ids) (hcoherent.removeAll ids'),
    fun id => hanswers.count_eq (id, true), hsimulated.positions, hsimulated.iterations⟩

/-- Two nodes share an id, one of them with a loop, and one id is unknown. -/
theorem removeAll_perm_twins :
    let graph : Graph := ⟨[.node 1 .empty, .node 2 .empty, .node 1 .empty, .node 3 .empty,
      .edge (-1) 1 2 .empty, .edge (-2) 1 1 .empty, .edge (-3) 2 3 .empty]⟩
    let layout := (new .two (Config.default : Config Float)).performAll [.load graph, .simulate]
    let ids : List NodeId := [⟨1⟩, ⟨2⟩, ⟨9⟩, ⟨1⟩]
    let ids' : List NodeId := [⟨2⟩, ⟨9⟩, ⟨1⟩, ⟨1⟩]
    let first := layout.removeAll ids
    let second := layout.removeAll ids'
    ids.Perm ids' ∧ SameView first.1 second.1 ∧
      (forall id, second.2.count (id, true) = first.2.count (id, true)) ∧
      second.1.simulate.1.positions = first.1.simulate.1.positions ∧
      second.1.simulate.1.iterations = first.1.simulate.1.iterations := by
  intro graph layout ids ids' first second
  have hperm : ids.Perm ids' := by decide
  exact ⟨hperm, removeAll_perm .two Config.default [.load graph, .simulate] hperm⟩

example :
    let graph : Graph := ⟨[.node 1 .empty, .node 2 .empty]⟩
    let layout := (new .two (Config.default : Config Float)).performAll [.load graph]
    (layout.removeAll [⟨1⟩, ⟨2⟩]).1.arena.vacant = [1, 0] ∧
      (layout.removeAll [⟨2⟩, ⟨1⟩]).1.arena.vacant = [0, 1] := by
  decide

end Layout
end GraphLayout
