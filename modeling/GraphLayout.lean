import GraphLayout.Spiral
import GraphLayout.Node
import GraphLayout.Edge
import GraphLayout.Graph
import GraphLayout.Decimal.Fixed
import GraphLayout.Decimal.Style
import GraphLayout.Forces
import GraphLayout.Bounds
import GraphLayout.Layout.Load
import GraphLayout.Layout.Simulate
import GraphLayout.Layout.Remove
import GraphLayout.Layout.Neighbors
import GraphLayout.Encode
import GraphLayout.Layout.Timed
import GraphLayout.Layout.FloatIds
import GraphLayout.Decode.Config
import GraphLayout.Decode.Dimensions
import GraphLayout.Decode.Element
import GraphLayout.Decode.Graph
import GraphLayout.Decode.Vec3
import GraphLayout.Proofs.Arena.Changes
import GraphLayout.Proofs.Arena.Frame
import GraphLayout.Proofs.Arena.Correspondence
import GraphLayout.Proofs.Arena.Settling
import GraphLayout.Proofs.Consistency
import GraphLayout.Proofs.LoadedGraph
import GraphLayout.Proofs.Topology
import GraphLayout.Proofs.Compaction
import GraphLayout.Proofs.Neighbors
import GraphLayout.Proofs.History
import GraphLayout.Proofs.Json.Grammar
import GraphLayout.Proofs.Json.Readers
import GraphLayout.Proofs.Json.Strings
import GraphLayout.Proofs.Json.Numbers
import GraphLayout.Proofs.Json.Values
import GraphLayout.Proofs.Decoding
import GraphLayout.Proofs.RemovalOrder
import GraphLayout.Proofs.Json.Nesting
import GraphLayout.Proofs.Json.Brackets
import GraphLayout.Proofs.Rendering
import GraphLayout.Proofs.WireShapes
import GraphLayout.Proofs.WholeFloats
import GraphLayout.Proofs.NumberedIds
import GraphLayout.Proofs.Arena.Gather
import GraphLayout.Proofs.Repulsion
import GraphLayout.Proofs.Attraction
import GraphLayout.Proofs.Exact
import GraphLayout.Proofs.VanishingScalars
import GraphLayout.Proofs.Plane
import GraphLayout.Proofs.Readings
import GraphLayout.Proofs.ReadBounds
import GraphLayout.Proofs.TightBox
import GraphLayout.Proofs.CheckedScalars
import GraphLayout.Proofs.UnitBox
import GraphLayout.Proofs.Reframing
import GraphLayout.Proofs.LawfulScalars
import GraphLayout.Proofs.Impulses
import GraphLayout.Proofs.ForceOrder
import GraphLayout.Proofs.Lengths
import GraphLayout.Proofs.CheckedForces
import GraphLayout.Proofs.Momentum
import GraphLayout.Proofs.CentralForces
import GraphLayout.Proofs.Shadows
import GraphLayout.Proofs.Removal
import GraphLayout.Proofs.Seeding
import GraphLayout.Proofs.SeedDistances
import GraphLayout.Proofs.Json.Skipping
import GraphLayout.Proofs.Json.Records
import GraphLayout.Proofs.Parameters
import GraphLayout.Proofs.Overrides
import GraphLayout.Proofs.EmptyLayouts
