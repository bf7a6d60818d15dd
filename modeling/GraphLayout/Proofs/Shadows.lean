import Mathlib.Data.List.Forall2
import GraphLayout.Proofs.Arena.Changes
import GraphLayout.Proofs.Arena.Gather

/-!
# Shadows

The shadow of a vector is what shows of it in the plane. As long as a layout is flat, shadows
come from shadows alone: whatever the numbers on the third axis are, they have no effect on the
forces, on the coincidence of nodes, or on the first two axes of the box and of the rescaling.
Nothing is asked of the scalars.

A node that is added sits in the slot vacated last. So two arenas get it into the same slot only
if their slots have been vacated in the same order.
-/

namespace GraphLayout

variable {α : Type}

/-!
# What shows in the plane
-/

def Vec3.shadow (a : Vec3 α) : α × α :=
  (a.x, a.y)

def Node.shadow (node : Node α) : (α × α) × (α × α) :=
  (node.position.shadow, node.velocity.shadow)

def BoundingBox.shadow (box : BoundingBox α) : (α × α) × (α × α) :=
  (box.min.shadow, box.max.shadow)

theorem Vec3.eq_of_shadow {a b : Vec3 α} (h : b.shadow = a.shadow) : b = ⟨a.x, a.y, b.z⟩ := by
  rcases Prod.mk.inj h with ⟨hx, hy⟩
  rw [← hx, ← hy]

theorem BoundingBox.eq_of_shadow {box other : BoundingBox α} (h : other.shadow = box.shadow) :
    other =
      ⟨⟨box.min.x, box.min.y, other.min.z⟩, ⟨box.max.x, box.max.y, other.max.z⟩⟩ := by
  rcases Prod.mk.inj h with ⟨hmin, hmax⟩
  rw [← Vec3.eq_of_shadow hmin, ← Vec3.eq_of_shadow hmax]

variable [Scalar α]

section Vectors

variable {a a' b b' : Vec3 α} (ha : a'.shadow = a.shadow) (hb : b'.shadow = b.shadow)
include ha

namespace Vec3

theorem shadow_mul (s : α) : (a' * s).shadow = (a * s).shadow := by
  rw [eq_of_shadow ha]
  rfl

include hb

theorem shadow_add : (a' + b').shadow = (a + b).shadow := by
  rw [eq_of_shadow ha, eq_of_shadow hb]
  rfl

theorem shadow_sub : (a' - b').shadow = (a - b).shadow := by
  rw [eq_of_shadow ha, eq_of_shadow hb]
  rfl

end Vec3

include hb

theorem Dimensions.activeAxes_two_sub :
    Dimensions.two.activeAxes (b' - a') = Dimensions.two.activeAxes (b - a) := by
  rw [Vec3.eq_of_shadow ha, Vec3.eq_of_shadow hb]
  rfl

namespace Config

theorem pull?_two (config : Config α) : config.pull? .two a' b' = config.pull? .two a b := by
  unfold pull?
  rw [Dimensions.activeAxes_two_sub ha hb]

theorem push?_two (config : Config α) : config.push? .two a' b' = config.push? .two a b := by
  unfold push?
  rw [Dimensions.activeAxes_two_sub hb ha]

end Config
end Vectors

/-!
# Boxes
-/

namespace BoundingBox

theorem shadow_extend {box box' : BoundingBox α} {point point' : Vec3 α}
    (hbox : box'.shadow = box.shadow) (hpoint : point'.shadow = point.shadow) :
    (box'.extend point').shadow = (box.extend point).shadow := by
  rw [eq_of_shadow hbox, Vec3.eq_of_shadow hpoint]
  rfl

theorem shadow_rescale {box box' : BoundingBox α} {point point' : Vec3 α}
    (hbox : box'.shadow = box.shadow) (hpoint : point'.shadow = point.shadow) :
    (box'.rescale point').shadow = (box.rescale point).shadow := by
  rw [eq_of_shadow hbox, Vec3.eq_of_shadow hpoint]
  rfl

theorem shadow_foldl_extend {points points' : List (Vec3 α)}
    (h : points'.map Vec3.shadow = points.map Vec3.shadow) {box box' : BoundingBox α}
    (hbox : box'.shadow = box.shadow) :
    (points'.foldl extend box').shadow = (points.foldl extend box).shadow := by
  induction points generalizing points' box box' with
  | nil =>
      cases points' with
      | nil =>
          exact hbox
      | cons point' rest' =>
          cases h
  | cons point rest ih =>
      cases points' with
      | nil =>
          cases h
      | cons point' rest' =>
          rcases List.cons.inj h with ⟨hpoint, hrest⟩
          exact ih hrest (shadow_extend hbox hpoint)

theorem shadow_ofList? {points points' : List (Vec3 α)}
    (h : points'.map Vec3.shadow = points.map Vec3.shadow) :
    (ofList? points').map shadow = (ofList? points).map shadow := by
  cases points with
  | nil =>
      cases points' with
      | nil =>
          rfl
      | cons point' rest' =>
          cases h
  | cons point rest =>
      cases points' with
      | nil =>
          cases h
      | cons point' rest' =>
          rcases List.cons.inj h with ⟨hpoint, hrest⟩
          exact congrArg some (shadow_foldl_extend hrest (Prod.ext hpoint hpoint))

end BoundingBox

namespace Arena

/-!
# Forces between shadows
-/

theorem shadow_feel {velocity velocity' : Vec3 α} (h : velocity'.shadow = velocity.shadow)
    (slot : Nat) (pair : Nat × Nat) (force : Vec3 α) :
    (feel slot velocity' pair force).shadow = (feel slot velocity pair force).shadow := by
  unfold feel
  dsimp only
  split
  · split
    · exact Vec3.shadow_sub (Vec3.shadow_add h rfl) rfl
    · exact Vec3.shadow_sub h rfl
  · split
    · exact Vec3.shadow_add h rfl
    · exact h

namespace AgreeBy

variable {a b : Arena α}

section Laws

variable {law : Vec3 α -> Vec3 α -> Option (Vec3 α)}
  (hlaw : forall {p p' q q' : Vec3 α}, p'.shadow = p.shadow -> q'.shadow = q.shadow ->
    law p' q' = law p q)
include hlaw

omit [Scalar α] in
theorem forceBetween? (h : AgreeBy Node.shadow a b) (pair : Nat × Nat) :
    b.forceBetween? law pair = a.forceBetween? law pair := by
  unfold Arena.forceBetween?
  cases hfirst : a.node? pair.1 with
  | none =>
      rw [h.node?_eq_none hfirst]
      rfl
  | some first =>
      rcases h.node_after hfirst with ⟨first', hfirst', hfirstShadow⟩
      rw [hfirst']
      cases hsecond : a.node? pair.2 with
      | none =>
          rw [h.node?_eq_none hsecond]
          rfl
      | some second =>
          rcases h.node_after hsecond with ⟨second', hsecond', hsecondShadow⟩
          rw [hsecond']
          exact hlaw (congrArg Prod.fst hfirstShadow) (congrArg Prod.fst hsecondShadow)

theorem interact (h : AgreeBy Node.shadow a b) (pair : Nat × Nat) :
    AgreeBy Node.shadow (a.interact law pair) (b.interact law pair) := by
  intro slot
  rw [node?_interact, node?_interact]
  apply h.map_node?
  intro node node' hnode
  rcases Prod.mk.inj hnode with ⟨hposition, hvelocity⟩
  unfold felt
  rw [h.forceBetween? hlaw]
  cases a.forceBetween? law pair with
  | none =>
      exact Prod.ext hposition hvelocity
  | some force =>
      exact Prod.ext hposition (shadow_feel hvelocity slot pair force)

theorem foldl_interact (h : AgreeBy Node.shadow a b) (pairs : List (Nat × Nat)) :
    AgreeBy Node.shadow (pairs.foldl (Arena.interact law) a)
      (pairs.foldl (Arena.interact law) b) := by
  induction pairs generalizing a b with
  | nil =>
      exact h
  | cons pair rest ih =>
      exact ih (h.interact hlaw pair)

end Laws

variable (h : AgreeBy Node.shadow a b) (config : Config α)
include h

theorem attract_two (edges : Array Edge) :
    AgreeBy Node.shadow (a.attract config .two edges) (b.attract config .two edges) := by
  rw [attract_eq_foldl_endpoints, attract_eq_foldl_endpoints]
  exact h.foldl_interact (fun hp hq => Config.pull?_two hp hq config) _

theorem repel_two : AgreeBy Node.shadow (a.repel config .two) (b.repel config .two) := by
  rw [repel_eq_foldl, repel_eq_foldl, h.presentSlots]
  exact h.foldl_interact (fun hp hq => Config.push?_two hp hq config) _

theorem gravitate : AgreeBy Node.shadow (a.gravitate config) (b.gravitate config) := by
  apply h.map
  intro node node' hnode
  rcases Prod.mk.inj hnode with ⟨hposition, hvelocity⟩
  exact Prod.ext hposition (Vec3.shadow_sub hvelocity (Vec3.shadow_mul hposition _))

theorem advance : AgreeBy Node.shadow (a.advance config) (b.advance config) := by
  apply h.map
  intro node node' hnode
  rcases Prod.mk.inj hnode with ⟨hposition, hvelocity⟩
  exact Prod.ext (Vec3.shadow_add hposition (Vec3.shadow_mul hvelocity _)) rfl

omit config

theorem bounds? : b.bounds?.map BoundingBox.shadow = a.bounds?.map BoundingBox.shadow := by
  apply BoundingBox.shadow_ofList?
  unfold positions
  rw [List.map_map, List.map_map]
  exact (h.comp Prod.fst).nodes

theorem normalize : AgreeBy Node.shadow a.normalize b.normalize := by
  have hboxes := h.bounds?
  unfold Arena.normalize
  cases hbox : a.bounds? with
  | none =>
      rw [hbox, Option.map_none, Option.map_eq_none_iff] at hboxes
      rw [hboxes]
      exact h
  | some box =>
      rw [hbox, Option.map_some, Option.map_eq_some_iff] at hboxes
      rcases hboxes with ⟨box', hbox', hshadow⟩
      rw [hbox']
      intro slot
      rw [node?_map, node?_map]
      apply h.map_node?
      intro node node' hnode
      rcases Prod.mk.inj hnode with ⟨hposition, hvelocity⟩
      exact Prod.ext (BoundingBox.shadow_rescale hshadow hposition) hvelocity

end AgreeBy

/-!
# Nodes that come and go
-/

/-- The next nodes to be added get the same slots. -/
structure SameVacancy (a b : Arena α) : Prop where
  vacant : b.vacant = a.vacant
  size : b.slots.size = a.slots.size

namespace SameVacancy

variable {a b : Arena α} (h : SameVacancy a b)
include h

omit [Scalar α] in
theorem of_sameNodes {f : Arena α -> Arena α} (hf : forall arena, SameNodes arena (f arena)) :
    SameVacancy (f a) (f b) where
  vacant := by rw [(hf b).vacant, (hf a).vacant, h.vacant]
  size := by rw [(hf b).size, (hf a).size, h.size]

omit [Scalar α] in
theorem insert (node node' : Node α) : SameVacancy (a.insert node).1 (b.insert node').1 := by
  unfold Arena.insert
  rw [h.vacant]
  cases a.vacant with
  | nil =>
      exact ⟨rfl, by rw [Array.size_push, Array.size_push, h.size]⟩
  | cons slot vacant =>
      exact ⟨rfl, by rw [Array.size_setIfInBounds, Array.size_setIfInBounds, h.size]⟩

omit [Scalar α] in
theorem remove {β : Type} {view : Node α -> β} (hview : AgreeBy view a b) (slot : Nat) :
    SameVacancy (a.remove slot) (b.remove slot) := by
  unfold Arena.remove
  cases hnode : a.node? slot with
  | none =>
      rw [hview.node?_eq_none hnode]
      exact h
  | some node =>
      rcases hview.node_after hnode with ⟨node', hnode', _⟩
      rw [hnode']
      constructor
      · exact congrArg (slot :: ·) h.vacant
      · rw [Array.size_setIfInBounds, Array.size_setIfInBounds, h.size]

end SameVacancy

namespace AgreeBy

variable {β : Type} {view : Node α -> β} {a b : Arena α} (h : AgreeBy view a b)
include h

omit [Scalar α] in
theorem insert (hvacancy : SameVacancy a b) {node node' : Node α} (hnode : view node' = view node) :
    AgreeBy view (a.insert node).1 (b.insert node').1 := by
  intro i
  cases hvacant : a.vacant with
  | nil =>
      rw [node?_insert_of_full hvacant, node?_insert_of_full (hvacancy.vacant.trans hvacant),
        hvacancy.size]
      split
      · exact congrArg some hnode
      · exact h i
  | cons slot vacant =>
      have hslot := h i
      unfold Arena.insert
      rw [hvacancy.vacant, hvacant]
      unfold node? at hslot ⊢
      rw [Array.getElem?_setIfInBounds, Array.getElem?_setIfInBounds, hvacancy.size]
      split
      · split
        · exact congrArg some hnode
        · rfl
      · exact hslot

omit [Scalar α] in
theorem remove (slot : Nat) : AgreeBy view (a.remove slot) (b.remove slot) := by
  intro i
  rw [node?_remove, node?_remove]
  split
  · rfl
  · exact h i

end AgreeBy

/-!
# Changes
-/

inductive Change (α : Type) where
  | attract (config : Config α) (edges : Array Edge)
  | repel (config : Config α)
  | gravitate (config : Config α)
  | advance (config : Config α)
  | insert (node : Node α)
  | remove (slot : Nat)
  | normalize

namespace Change

def apply (arena : Arena α) : Change α -> Arena α
  | attract config edges => arena.attract config .two edges
  | repel config => arena.repel config .two
  | gravitate config => arena.gravitate config
  | advance config => arena.advance config
  | insert node => (arena.insert node).1
  | remove slot => arena.remove slot
  | normalize => arena.normalize

omit [Scalar α] in
def inserts : Change α -> Bool
  | insert _ => true
  | _ => false

/-- The same change, but for what does not show of a node that is added. -/
inductive SameShadow : Change α -> Change α -> Prop where
  | refl (change : Change α) : SameShadow change change
  | insert {node node' : Node α} (h : node'.shadow = node.shadow) :
      SameShadow (insert node) (insert node')

end Change

variable {change change' : Change α} {a b : Arena α}

theorem AgreeBy.apply (h : AgreeBy Node.shadow a b) (hchange : change.SameShadow change')
    (hvacancy : change.inserts = true -> SameVacancy a b) :
    AgreeBy Node.shadow (change.apply a) (change'.apply b) := by
  cases hchange with
  | insert hnode =>
      exact h.insert (hvacancy rfl) hnode
  | refl =>
      cases change with
      | attract config edges =>
          exact h.attract_two config edges
      | repel config =>
          exact h.repel_two config
      | gravitate config =>
          exact h.gravitate config
      | advance config =>
          exact h.advance config
      | insert node =>
          exact h.insert (hvacancy rfl) rfl
      | remove slot =>
          exact h.remove slot
      | normalize =>
          exact h.normalize

theorem SameVacancy.apply (hvacancy : SameVacancy a b) (h : AgreeBy Node.shadow a b)
    (hchange : change.SameShadow change') : SameVacancy (change.apply a) (change'.apply b) := by
  cases hchange with
  | insert hnode =>
      exact hvacancy.insert _ _
  | refl =>
      cases change with
      | attract config edges =>
          exact hvacancy.of_sameNodes (sameNodes_attract config .two edges)
      | repel config =>
          exact hvacancy.of_sameNodes (sameNodes_repel config .two)
      | gravitate config =>
          exact hvacancy.of_sameNodes (sameNodes_gravitate config)
      | advance config =>
          exact hvacancy.of_sameNodes (sameNodes_advance config)
      | insert node =>
          exact hvacancy.insert node node
      | remove slot =>
          exact hvacancy.remove h slot
      | normalize =>
          exact hvacancy.of_sameNodes sameNodes_normalize

theorem AgreeBy.foldl_apply {changes changes' : List (Change α)}
    (hchanges : List.Forall₂ Change.SameShadow changes changes') {a b : Arena α}
    (h : AgreeBy Node.shadow a b)
    (hvacancy : changes.any Change.inserts = true -> SameVacancy a b) :
    AgreeBy Node.shadow (changes.foldl Change.apply a) (changes'.foldl Change.apply b) := by
  induction hchanges generalizing a b with
  | nil =>
      exact h
  | cons hchange _ ih =>
      rw [List.any_cons, Bool.or_eq_true] at hvacancy
      apply ih
      · exact h.apply hchange fun hinserts => hvacancy (Or.inl hinserts)
      · intro hinserts
        exact (hvacancy (Or.inr hinserts)).apply h hchange

/-- In a flat layout the third axis never has an effect on what shows in the plane. -/
theorem third_axis_hidden {changes changes' : List (Change α)}
    (hchanges : List.Forall₂ Change.SameShadow changes changes') {a b : Arena α}
    (h : AgreeBy Node.shadow a b)
    (hvacancy : changes.any Change.inserts = true -> SameVacancy a b) :
    AgreeBy Node.shadow (changes.foldl Change.apply a) (changes'.foldl Change.apply b) ∧
      (changes'.foldl Change.apply b).bounds?.map BoundingBox.shadow =
        (changes.foldl Change.apply a).bounds?.map BoundingBox.shadow :=
  ⟨h.foldl_apply hchanges hvacancy, (h.foldl_apply hchanges hvacancy).bounds?⟩

def rod (z : Float) : Arena Float where
  slots := #[some (.atRest ⟨1⟩ ⟨0, 0, 0⟩ .empty), none, some (.atRest ⟨2⟩ ⟨300, 400, z⟩ .empty)]
  vacant := [1]
  links := []

def rodChanges (z : Float) : List (Change Float) :=
  [.attract .default #[⟨⟨-1⟩, some 0, some 2, .empty⟩], .insert (.atRest ⟨3⟩ ⟨300, 0, z⟩ .empty),
    .repel .default, .gravitate .default, .advance .default, .remove 0, .normalize]

theorem agreeBy_shadow_rod (z w : Float) : AgreeBy Node.shadow (rod z) (rod w) := by
  intro slot
  match slot with
  | 0 => rfl
  | 1 => rfl
  | 2 => rfl
  | n + 3 => rfl

theorem sameVacancy_rod (z w : Float) : SameVacancy (rod z) (rod w) where
  vacant := rfl
  size := rfl

theorem sameShadow_rodChanges (z w : Float) :
    List.Forall₂ Change.SameShadow (rodChanges z) (rodChanges w) :=
  .cons (.refl _) (.cons (.insert rfl) (.cons (.refl _) (.cons (.refl _) (.cons (.refl _)
    (.cons (.refl _) (.cons (.refl _) .nil))))))

theorem third_axis_hidden_rod :
    AgreeBy Node.shadow ((rodChanges 0).foldl Change.apply (rod 0))
      ((rodChanges (0 / 0)).foldl Change.apply (rod (0 / 0))) :=
  (third_axis_hidden (sameShadow_rodChanges 0 (0 / 0)) (agreeBy_shadow_rod 0 (0 / 0)) fun _ =>
    sameVacancy_rod 0 (0 / 0)).1

def triangle : Arena Float where
  slots := #[some (.atRest ⟨1⟩ ⟨0, 0, 0⟩ .empty), some (.atRest ⟨2⟩ ⟨300, 400, 0⟩ .empty),
    some (.atRest ⟨3⟩ ⟨300, 0, 0⟩ .empty)]
  vacant := []
  links := []

/-- Two slots that have been vacated in either order: the same node is left, but a node that is
added comes to sit in different slots. -/
theorem shadows_differ_by_vacancy :
    let first := (triangle.remove 0).remove 2
    let second := (triangle.remove 2).remove 0
    let added : Change Float := .insert (.atRest ⟨4⟩ ⟨100, 100, 0⟩ .empty)
    AgreeBy Node.shadow first second ∧
      ¬AgreeBy Node.shadow (added.apply first) (added.apply second) := by
  intro first second added
  constructor
  · intro slot
    match slot with
    | 0 => rfl
    | 1 => rfl
    | 2 => rfl
    | n + 3 => rfl
  · intro h
    have hvacant : (added.apply first).node? 0 = none := rfl
    have hnone := h.node?_eq_none hvacant
    cases hnone

end Arena
end GraphLayout
