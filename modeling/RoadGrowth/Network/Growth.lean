import RoadGrowth.Graph.Summary
import RoadGrowth.Placement.Bounds
import RoadGrowth.Problem
import RoadGrowth.Turtle.Interpreter

/-!
# Growing a network

Highways grow from a root node by one run of the highway script. A street grid then
grows from each of some highway nodes, which are spread evenly over all of them, by
a run of the street script that starts from the heading of the road that came first
to the node. All runs share one graph and one interpreter.
-/

namespace RoadGrowth

/-- A grown network on its terrain. -/
structure Network where
  settings : NetworkSettings
  terrain : Terrain
  graph : Graph
  /-- Number of segments when the highways were finished. -/
  highwayCount : Nat
  /-- The nodes that street grids grew from, in order. -/
  origins : List Nat

/-- Growth under way. -/
structure NetworkState where
  interpreter : Interpreter
  graph : Graph

namespace NetworkSettings

/-- The policy of a network: stay on the map, then stay on land. -/
def policy (settings : NetworkSettings) (terrain : Terrain) : Policy :=
  ⟨[.bounds Terrain.mapBounds, .water terrain settings.shortening], settings.adjusts⟩

/-- The symbols of a network: the usual ones, and those that look at the population. -/
def interpreter (settings : NetworkSettings) (terrain : Terrain) : Interpreter :=
  let population := settings.population
  let usual := Interpreter.standard settings.roadSeed (some terrain)
  (((usual.bind '~' (.jitter settings.roadSeed settings.jitterLimit)).bind
    'P' (.towardPopulation terrain population.arc population.samples)).bind
    'p' (.awayFromPopulation terrain population.arc population.samples)).bind
    'S' (.span terrain population.threshold population.mode population.steps)

/-- The script of a grammar, within the limit of the settings. -/
def script (settings : NetworkSettings) (grammar : GrammarSettings) : Except Problem Script :=
  match grammar.grammar.expandWithin settings.scriptLimit.toNat with
  | .ok script => .ok script
  | .error found => .error (.overflow found)

end NetworkSettings

/-- Indices spread evenly over a length, starting at zero; as many as asked for, or all. -/
def evenlySpaced (length count : Nat) : List Nat :=
  let count := min count length
  (List.range count).map fun place => place * length / count

namespace NetworkState

/-- Replay a script. -/
def run (state : NetworkState) (script : Script) (turtle : Turtle) :
    Except Problem NetworkState :=
  match state with
  | ⟨interpreter, graph⟩ =>
    match interpreter.run script turtle graph with
    | .ok (interpreter, _, graph) => .ok ⟨interpreter, graph⟩
    | .error fault => .error (.fault fault)

/-- Grow the highways from a new root. -/
def growHighways (state : NetworkState) (settings : NetworkSettings) :
    Except Problem NetworkState := do
  let script ← settings.script settings.highway
  let root := state.graph.nodes.size
  let turtle := settings.highwayTurtle.spawn settings.root root
  run { state with graph := state.graph.addNode settings.root } script turtle

/-- The heading of the road that came first to a node; zero if none did. -/
def arrival (graph : Graph) (node : Node) : Except Fault Float32 :=
  match node.inbound[0]? with
  | some first => do return (← graph.segment first).rotation
  | none => .ok 0.0

/-- The turtle of the street grid at a node. -/
def streetTurtle (graph : Graph) (settings : NetworkSettings) (origin : Nat) :
    Except Fault Turtle := do
  let node ← graph.node origin
  let heading ← arrival graph node
  return { settings.streetTurtle.spawn node.position origin with
    direction := heading + settings.streetTurn }

/-- Grow a street grid from a node. -/
def growStreets (settings : NetworkSettings) (script : Script) (state : NetworkState)
    (origin : Nat) : Except Problem NetworkState :=
  match streetTurtle state.graph settings origin with
  | .ok turtle => state.run script turtle
  | .error fault => .error (.fault fault)

end NetworkState

namespace Network

/-- The state before any growth. -/
def ungrown (settings : NetworkSettings) (terrain : Terrain) : Except Problem NetworkState :=
  match (Graph.empty (settings.policy terrain) settings.snapDistance).withIndex terrain with
  | .ok graph => .ok ⟨settings.interpreter terrain, graph⟩
  | .error fault => .error (.fault fault)

/-- Grow a network. -/
def generate (settings : NetworkSettings) (terrain : Terrain) : Except Problem Network := do
  let settings ← settings.checked
  let highways ← (← ungrown settings terrain).growHighways settings
  let highwayCount := highways.graph.segments.size
  if settings.neighborhoods = 0 then
    return ⟨settings, terrain, highways.graph, highwayCount, []⟩
  else
    let script ← settings.script settings.streets
    let origins := evenlySpaced highways.graph.nodes.size settings.neighborhoods.toNat
    let finished ← origins.foldlM (NetworkState.growStreets settings script) highways
    return ⟨settings, terrain, finished.graph, highwayCount, origins⟩

/-- The segments of the first phase. -/
def highwaySegments (network : Network) : List Segment :=
  network.graph.segments.toList.take network.highwayCount

/-- The segments of the second phase. -/
def streetSegments (network : Network) : List Segment :=
  network.graph.segments.toList.drop network.highwayCount

end Network

end RoadGrowth
