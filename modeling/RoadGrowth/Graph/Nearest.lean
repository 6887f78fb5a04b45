import RoadGrowth.Graph.Basic

/-!
# The nearest node

A search answers with the node nearest to a point among those within a radius; of
several at the same distance the one with the lowest number. With cells at least as
wide as the radius only the block of cells around the point is looked at.
-/

namespace RoadGrowth

namespace Graph

/-- A node found by a search. -/
structure Hit where
  distance : Float32
  node : Nat
  deriving DecidableEq

/-- The better of what was found so far and a node of the index, whose nodes come in any order. -/
def Hit.orNearer (radius : Float32) (best : Option Hit) (hit : Hit) : Option Hit :=
  if radius < hit.distance then
    best
  else
    match best with
    | none => some hit
    | some other =>
      if hit.distance < other.distance ||
          (hit.distance == other.distance && hit.node < other.node) then
        some hit
      else
        best

/-- The better of what was found so far and a node with a higher number. -/
def Hit.orLater (radius : Float32) (best : Option Hit) (hit : Hit) : Option Hit :=
  if hit.distance ≤ radius then
    match best with
    | none => some hit
    | some other => if hit.distance < other.distance then some hit else best
  else
    best

/-- Distance of a node from a point. -/
def hitOf (position : Point) (node : Node) : Hit :=
  ⟨node.position.distance position, node.id⟩

/-- The nearest node within a radius, among all nodes. -/
def nearestOfAll (graph : Graph) (position : Point) (radius : Float32) : Option Nat :=
  (graph.nodes.foldl (fun best node => Hit.orLater radius best (hitOf position node)) none).map
    Hit.node

/-- The nearest node within a radius, among those in the block of cells around a point. -/
def nearestAround (graph : Graph) (index : CellIndex) (position : Point) (radius : Float32) :
    Option Nat :=
  ((index.around position).foldl (fun best id =>
    match graph.nodes[id]? with
    | some node => Hit.orNearer radius best (hitOf position node)
    | none => best) none).map Hit.node

/-- The nearest node within a radius. -/
def nearest (graph : Graph) (position : Point) (radius : Float32) : Option Nat :=
  match graph.index with
  | some index =>
    if index.coversRadius radius then
      graph.nearestAround index position radius
    else
      graph.nearestOfAll position radius
  | none => graph.nearestOfAll position radius

end Graph

end RoadGrowth
