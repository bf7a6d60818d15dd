import GraphLayout.Proofs.Arena.Gather

/-!
# Attraction, node by node

Attraction walks over the edges and changes two nodes in each turn. The same velocities come
about when every node gathers what its own edges give it, in their order. An edge without an
end, with an end at a slot that is vacant or was never in use, or between two nodes at the same
place gives nothing to any node.
-/

namespace GraphLayout

variable {α : Type} [Scalar α]

/-- What an edge spans: the slots of its ends, and the way from its source to its target on
the active axes. -/
structure Span (α : Type) where
  source : Nat
  target : Nat
  delta : Vec3 α

namespace Config

def pullAlong (config : Config α) (delta : Vec3 α) : Vec3 α :=
  delta / delta.length *
    (config.attraction * Scalar.max (delta.length - config.springLength) 0)

theorem pull?_eq (config : Config α) (dimensions : Dimensions) (source target : Vec3 α) :
    config.pull? dimensions source target =
      if (dimensions.activeAxes (target - source)).length == 0 then none
      else some (config.pullAlong (dimensions.activeAxes (target - source))) :=
  rfl

/-- The velocity of the node in a slot after what one edge gives it: the source gains the pull,
and then the target loses it. -/
def pulledBy (config : Config α) (slot : Nat) (velocity : Vec3 α) (span : Span α) : Vec3 α :=
  let gained :=
    if span.source = slot then velocity + config.pullAlong span.delta else velocity
  if span.target = slot then gained - config.pullAlong span.delta else gained

end Config

namespace Arena

/-!
# Spans
-/

def spanBetween? (dimensions : Dimensions) (arena : Arena α) (ends : Nat × Nat) :
    Option (Span α) :=
  (arena.node? ends.1).bind fun source =>
    (arena.node? ends.2).bind fun target =>
      let delta := dimensions.activeAxes (target.position - source.position)
      if delta.length == 0 then none else some ⟨ends.1, ends.2, delta⟩

def span? (dimensions : Dimensions) (arena : Arena α) (edge : Edge) : Option (Span α) :=
  edge.endpoints?.bind (arena.spanBetween? dimensions)

def spans (dimensions : Dimensions) (arena : Arena α) (edges : Array Edge) : List (Span α) :=
  edges.toList.filterMap (arena.span? dimensions)

theorem ends_of_spanBetween? {dimensions : Dimensions} {arena : Arena α} {ends : Nat × Nat}
    {span : Span α} (h : arena.spanBetween? dimensions ends = some span) :
    (span.source, span.target) = ends := by
  unfold spanBetween? at h
  rcases Option.bind_eq_some_iff.mp h with ⟨source, _, hsource⟩
  rcases Option.bind_eq_some_iff.mp hsource with ⟨target, _, htarget⟩
  dsimp only at htarget
  split at htarget
  · cases htarget
  · cases htarget
    rfl

variable (config : Config α) (dimensions : Dimensions)

theorem forceBetween?_pull? (arena : Arena α) (ends : Nat × Nat) :
    arena.forceBetween? (config.pull? dimensions) ends =
      (arena.spanBetween? dimensions ends).map fun span => config.pullAlong span.delta := by
  unfold forceBetween? spanBetween?
  cases arena.node? ends.1 with
  | none =>
      rfl
  | some source =>
      cases arena.node? ends.2 with
      | none =>
          rfl
      | some target =>
          simp only [Option.bind_some, Config.pull?_eq]
          cases (dimensions.activeAxes (target.position - source.position)).length == 0 with
          | true =>
              rfl
          | false =>
              rfl

theorem felt_pull? (arena : Arena α) (slot : Nat) (velocity : Vec3 α) (ends : Nat × Nat) :
    arena.felt (config.pull? dimensions) slot velocity ends =
      ((arena.spanBetween? dimensions ends).map (config.pulledBy slot velocity)).getD
        velocity := by
  unfold felt
  rw [forceBetween?_pull?, Option.map_map]
  cases hspan : arena.spanBetween? dimensions ends with
  | none =>
      rfl
  | some span =>
      rw [← ends_of_spanBetween? hspan]
      rfl

/-!
# Attraction
-/

theorem node?_attract (edges : Array Edge) (arena : Arena α) (slot : Nat) :
    (arena.attract config dimensions edges).node? slot =
      (arena.node? slot).map fun node =>
        { node with
          velocity := (arena.spans dimensions edges).foldl (config.pulledBy slot)
            node.velocity } := by
  rw [attract_eq_foldl_endpoints, node?_foldl_interact]
  congr 1
  funext node
  congr 1
  unfold spans span?
  rw [← List.filterMap_filterMap, List.foldl_filterMap (f := arena.spanBetween? dimensions)]
  congr 1
  funext velocity ends
  rw [felt_pull?]
  cases arena.spanBetween? dimensions ends with
  | none =>
      rfl
  | some span =>
      rfl

theorem attract_filter_span? (edges : Array Edge) (arena : Arena α) :
    arena.attract config dimensions
        (edges.filter fun edge => (arena.span? dimensions edge).isSome) =
      arena.attract config dimensions edges := by
  have hpairs : (edges.filter fun edge => (arena.span? dimensions edge).isSome).toList.filterMap
        Edge.endpoints? =
      (edges.toList.filterMap Edge.endpoints?).filter fun ends =>
        (arena.forceBetween? (config.pull? dimensions) ends).isSome := by
    rw [Array.toList_filter, List.filterMap_filter, List.filter_filterMap]
    apply List.filterMap_congr
    intro edge _
    unfold span?
    cases edge.endpoints? with
    | none =>
        simp
    | some ends =>
        rw [Option.filter_some, forceBetween?_pull?, Option.isSome_map]
        rfl
  rw [attract_eq_foldl_endpoints, attract_eq_foldl_endpoints, hpairs, foldl_interact_filter_force]

/-!
# Faults

A turn of the walk looks at two slots and writes to them later. In the walk below a write to a
vacant slot is a fault, which ends the walk without a result.
-/

omit [Scalar α] in
def modify? (arena : Arena α) (slot : Nat) (f : Node α -> Node α) : Option (Arena α) :=
  if (arena.node? slot).isSome then some (arena.modify slot f) else none

def exert? (arena : Arena α) (first second : Nat) (force : Vec3 α) : Option (Arena α) :=
  (arena.modify? first (·.accelerate force)).bind fun gained =>
    gained.modify? second (·.decelerate force)

def attractAlong? (arena : Arena α) (edge : Edge) : Option (Arena α) :=
  match edge.endpoints? with
  | some (source, target) =>
      match arena.node? source, arena.node? target with
      | some a, some b =>
          match config.pull? dimensions a.position b.position with
          | some force => arena.exert? source target force
          | none => some arena
      | _, _ => some arena
  | none => some arena

def attract? (edges : Array Edge) (arena : Arena α) : Option (Arena α) :=
  edges.foldlM (attractAlong? config dimensions) arena

theorem exert?_eq_some {arena : Arena α} {first second : Nat} {a b : Node α}
    (hfirst : arena.node? first = some a) (hsecond : arena.node? second = some b)
    (force : Vec3 α) :
    arena.exert? first second force = some (arena.exert first second force) := by
  have hstays : ((arena.modify first (·.accelerate force)).node? second).isSome = true := by
    rw [node?_modify, hsecond]
    split <;> rfl
  unfold exert? modify? exert
  rw [hfirst, Option.isSome_some, if_pos rfl, Option.bind_some, if_pos hstays]

theorem attractAlong?_eq_some (arena : Arena α) (edge : Edge) :
    arena.attractAlong? config dimensions edge =
      some (arena.attractAlong config dimensions edge) := by
  unfold attractAlong? attractAlong interact
  cases edge.endpoints? with
  | none =>
      rfl
  | some ends =>
      obtain ⟨first, second⟩ := ends
      cases hfirst : arena.node? first with
      | none =>
          simp [hfirst]
      | some a =>
          cases hsecond : arena.node? second with
          | none =>
              simp [hfirst, hsecond]
          | some b =>
              simp only [hfirst, hsecond]
              cases config.pull? dimensions a.position b.position with
              | none =>
                  rfl
              | some force =>
                  exact exert?_eq_some hfirst hsecond force

theorem attract?_eq_some (edges : Array Edge) (arena : Arena α) :
    arena.attract? config dimensions edges = some (arena.attract config dimensions edges) := by
  unfold attract? attract
  rw [funext fun arena => funext (attractAlong?_eq_some config dimensions arena)]
  exact Array.foldlM_pure

/-!
# Attraction as a whole
-/

/-- Every node gathers what the edges between present nodes at different places give it. No
other edge matters, and no access fails. -/
theorem attract_gathers (edges : Array Edge) (arena : Arena α) :
    arena.attract? config dimensions edges = some (arena.attract config dimensions edges) ∧
      SameNodes arena (arena.attract config dimensions edges) ∧
      (forall slot, (arena.attract config dimensions edges).node? slot =
        (arena.node? slot).map fun node =>
          { node with
            velocity := (arena.spans dimensions edges).foldl (config.pulledBy slot)
              node.velocity }) ∧
      arena.attract config dimensions
          (edges.filter fun edge => (arena.span? dimensions edge).isSome) =
        arena.attract config dimensions edges :=
  ⟨attract?_eq_some config dimensions edges arena, sameNodes_attract config dimensions edges arena,
    node?_attract config dimensions edges arena, attract_filter_span? config dimensions edges arena⟩

end Arena
end GraphLayout
