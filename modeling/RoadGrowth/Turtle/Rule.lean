import RoadGrowth.Graph.Growth
import RoadGrowth.Turtle.Jitter
import RoadGrowth.Turtle.Survey

/-!
# Drawing rules

A rule acts on the turtle, on the turtles saved at open branches and on the graph.
It may take a number from the script in place of its usual measure; turns and arcs
are given in degrees there. Rules that open and close branches apply even on a
branch that has ended.
-/

namespace RoadGrowth

open Numeric

/-- What a rule acts on; the turtle saved last comes first. -/
structure Drawing where
  turtle : Turtle
  saved : List Turtle
  graph : Graph

/-- What a script symbol does. -/
inductive Rule where
  /-- Draw a segment. -/
  | draw
  | turnLeft
  | turnRight
  /-- Save the turtle. With a terrain, a branch that opens in water ends at once. -/
  | openBranch (land : Option Terrain)
  /-- Go back to the turtle saved last. -/
  | closeBranch
  | scaleLength
  | scaleAngle
  /-- Turn at random. -/
  | jitter (seed : UInt64) (limit : Float32)
  /-- Turn to where most people live. -/
  | towardPopulation (terrain : Terrain) (arc : Float32) (samples : UInt32)
  /-- Turn to where fewest people live. -/
  | awayFromPopulation (terrain : Terrain) (arc : Float32) (samples : UInt32)
  /-- Draw a segment across a band of density. -/
  | span (terrain : Terrain) (threshold : Float32) (mode : SpanMode) (steps : UInt32)

/-- How a rule is treated on a branch that has ended. -/
inductive RuleKind where
  /-- Left out. -/
  | geometry
  | branchStart
  | branchEnd
  deriving DecidableEq

/-- The kind of a rule. -/
def Rule.kind : Rule → RuleKind
  | .openBranch _ => .branchStart
  | .closeBranch => .branchEnd
  | _ => .geometry

namespace Drawing

/-- The same drawing with another heading. -/
def withDirection (drawing : Drawing) (direction : Float32) : Drawing :=
  { drawing with turtle := { drawing.turtle with direction } }

/-- Draw a segment and walk along it; a rejected segment ends the branch. -/
def forward (drawing : Drawing) (length : Float32) : Except Fault Drawing :=
  match drawing with
  | ⟨turtle, saved, graph⟩ => do
    match ← graph.grow turtle.node (turtle.ahead length) turtle.direction turtle.roadClass with
    | (graph, some growth) =>
      return ⟨{ turtle with
        position := growth.position
        direction := growth.segment.rotation
        node := growth.segment.finish }, saved, graph⟩
    | (graph, none) => return ⟨{ turtle with ended := true }, saved, graph⟩

/-- Save the turtle. -/
def openBranch (drawing : Drawing) (land : Option Terrain) : Drawing :=
  let turtle := drawing.turtle
  let inWater := land.any fun terrain => !terrain.isLand turtle.position
  { drawing with
    turtle := { turtle with ended := turtle.ended || inWater }
    saved := turtle :: drawing.saved }

/-- Go back to the turtle saved last; without one nothing changes. -/
def closeBranch (drawing : Drawing) : Drawing :=
  match drawing.saved with
  | [] => drawing
  | turtle :: saved => { drawing with turtle, saved }

end Drawing

/-- Carry out a rule at a site, with the number given in the script if there is one. -/
def Rule.apply (rule : Rule) (site : UInt64) (given : Option Float32) (drawing : Drawing) :
    Except Fault Drawing :=
  let turtle := drawing.turtle
  match rule with
  | .draw => drawing.forward (given.getD turtle.segmentLength)
  | .turnLeft =>
    .ok (drawing.withDirection (turtle.direction + (given.map radians).getD turtle.angle))
  | .turnRight =>
    .ok (drawing.withDirection (turtle.direction - (given.map radians).getD turtle.angle))
  | .openBranch land => .ok (drawing.openBranch land)
  | .closeBranch => .ok drawing.closeBranch
  | .scaleLength =>
    .ok { drawing with turtle := { turtle with
      segmentLength := turtle.segmentLength * given.getD turtle.lengthScale } }
  | .scaleAngle =>
    .ok { drawing with turtle := { turtle with
      angle := turtle.angle * given.getD turtle.angleScale } }
  | .jitter seed limit => do
    let offset ← jitterAt seed site ((given.map radians).getD limit)
    return drawing.withDirection (turtle.direction + offset)
  | .towardPopulation terrain arc samples =>
    .ok (drawing.withDirection (turtle.steer terrain ((given.map radians).getD arc) samples
      fun density best => best < density))
  | .awayFromPopulation terrain arc samples =>
    .ok (drawing.withDirection (turtle.steer terrain ((given.map radians).getD arc) samples
      fun density best => density < best))
  | .span terrain threshold mode steps =>
    drawing.forward (turtle.spanLength terrain (given.getD threshold) mode steps)

end RoadGrowth
