import GraphLayout.Layout.Basic

/-!
# Removal

A removed node leaves its slot vacant and its edges without that end. Another node
with the same id, if there is one, is then the one that the id finds.
-/

namespace GraphLayout
namespace Layout

variable {α : Type}

def remove (layout : Layout α) (id : NodeId) : Layout α × Bool :=
  match layout.nodeIndex? id with
  | some slot =>
      let arena := layout.arena.remove slot
      let removed : Layout α :=
        { layout with
          arena := arena
          index := layout.index.replace id (arena.slotOf? id)
          edges := layout.edges.map (Edge.detach slot) }
      (removed, (layout.node? slot).isSome)
  | none => (layout, false)

end Layout
end GraphLayout
