import GraphLayout.Decode.Graph
import GraphLayout.Layout.Load

/-!
# Loading from JSON

A text that is refused leaves the layout as it is.
-/

namespace GraphLayout
namespace Layout

variable {α : Type} [Scalar α]

def loadJson (layout : Layout α) (text : String) :
    Layout α × Except Graph.DecodeError (Log α) :=
  match Graph.ofJson text with
  | .ok graph =>
      let (loaded, log) := layout.load graph
      (loaded, .ok log)
  | .error error => (layout, .error error)

end Layout
end GraphLayout
