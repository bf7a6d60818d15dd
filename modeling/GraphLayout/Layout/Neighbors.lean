import GraphLayout.Layout.Basic

/-!
# Neighbors

The neighbors of a node are the nodes at the other ends of its links, in either
direction, in ascending order of their ids and without repeats.
-/

namespace GraphLayout

/-!
# Ascending ids
-/

namespace NodeId

def place (id : NodeId) : List NodeId -> List NodeId
  | [] => [id]
  | first :: rest =>
      if id < first then id :: first :: rest
      else if id = first then first :: rest
      else first :: place id rest

def ascending (ids : List NodeId) : List NodeId :=
  ids.foldr place []

theorem mem_place {id other : NodeId} {ids : List NodeId} :
    other ∈ place id ids <-> other = id ∨ other ∈ ids := by
  induction ids with
  | nil =>
      simp [place]
  | cons first rest ih =>
      simp only [place]
      split
      · simp
      · split
        · next same => simp [same]
        · simp only [List.mem_cons, ih]
          constructor
          · intro h
            rcases h with h | h | h
            · exact Or.inr (Or.inl h)
            · exact Or.inl h
            · exact Or.inr (Or.inr h)
          · intro h
            rcases h with h | h | h
            · exact Or.inr (Or.inl h)
            · exact Or.inl h
            · exact Or.inr (Or.inr h)

@[simp]
theorem mem_ascending {id : NodeId} {ids : List NodeId} : id ∈ ascending ids <-> id ∈ ids := by
  induction ids with
  | nil =>
      simp [ascending]
  | cons first rest ih =>
      rw [List.mem_cons, ← ih]
      exact mem_place

end NodeId

namespace Layout

variable {α : Type}

def neighbors (layout : Layout α) (id : NodeId) : List NodeId :=
  match layout.nodeIndex? id with
  | some slot =>
      NodeId.ascending
        ((layout.arena.adjacent slot).filterMap fun other =>
          (layout.node? other).map Node.id)
  | none => []

end Layout
end GraphLayout
