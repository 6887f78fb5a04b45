import RoadGrowth.Grammar.Basic
import RoadGrowth.Graph.Basic
import RoadGrowth.Numeric.PlainText
import RoadGrowth.Placement.Shore
import RoadGrowth.Turtle.Survey

/-!
# Network settings

Highways grow first, from one root. Street grids then grow from some of the
highway nodes. Each phase has a grammar and a turtle of its own. Settings are
checked in a fixed order and the first problem is the one reported.
-/

namespace RoadGrowth

open Numeric

/-- A grammar whose rules are all fixed texts. -/
structure GrammarSettings where
  start : Script
  rules : SymbolTable Script
  rounds : UInt32

/-- The grammar of grammar settings. -/
def GrammarSettings.grammar (settings : GrammarSettings) : Grammar :=
  ⟨settings.start, settings.rules.map Production.constant, settings.rounds.toNat⟩

/-- A comb of short side roads. -/
def combText : Script :=
  "[-F[+F]F[+F]F[+F]F[+F]F[+F]F[+F]F[+F]F[+F]F[+F]F[+F]]".toList

/-- A trunk that keeps sprouting side branches. -/
def GrammarSettings.highway : GrammarSettings where
  start := "FL".toList
  rules := .ofList [
    ('B', "[-LB][+LB]".toList),
    ('L', "FPFPFPFPF[--L]PFPFPFPFPFPFPFFPFPFPFPF[++L]PFPFPFPFPFL".toList),
    ('X', combText)]
  rounds := 3

/-- A comb of short side streets. -/
def GrammarSettings.streets : GrammarSettings where
  start := "FXFFXFXFFX".toList
  rules := .ofList [('X', combText)]
  rounds := 1

/-- Measures of the rules that look at the population. -/
structure PopulationRuleSettings where
  arc : Float32 := usualArc
  samples : UInt32 := usualSamples
  threshold : Float32 := Float32.ofBits 0x3dcccccd
  mode : SpanMode := .dense
  steps : UInt32 := 4
  deriving DecidableEq

/-- Everything that growing a network needs besides the terrain. -/
structure NetworkSettings where
  roadSeed : UInt64 := 1
  highway : GrammarSettings := .highway
  streets : GrammarSettings := .streets
  /-- Number of street grids. -/
  neighborhoods : UInt32 := 1
  highwayTurtle : TurtleSettings := {}
  streetTurtle : TurtleSettings :=
    { roadClass := .street, segmentLength := Float32.ofBits 0x3cf5c28f, angle := halfPi }
  /-- Where the root stands. -/
  root : Point := Point.origin
  /-- Added to the heading of the road that leads to a street grid. -/
  streetTurn : Float32 := quarterPi
  snapDistance : Float32 := Graph.usualSnapDistance
  /-- Most bytes of a script. -/
  scriptLimit : UInt64 := 1048576
  /-- Whether a rejected segment may be shortened. -/
  adjusts : Bool := false
  shortening : Shortening := {}
  jitterLimit : Float32 := eighthPi
  population : PopulationRuleSettings := {}

/-- The two phases of growth. -/
inductive Phase where
  | highway
  | street
  deriving DecidableEq

/-- The name of a phase. -/
def Phase.name : Phase → String
  | highway => "highway"
  | street => "street"

/-- What may be wrong with settings. -/
inductive SettingsProblem where
  | emptyStart (phase : Phase)
  | segmentLength (phase : Phase) (value : Float32)
  | turtleAngles (phase : Phase)
  | snapDistance (value : Float32)
  | scriptLimit
  | placement
  | shorteningSteps
  | shorteningFraction (value : Float32)
  | jitterLimit
  | populationCounts
  | spanThreshold (value : Float32)
  deriving DecidableEq

/-- The text of a problem. -/
def SettingsProblem.message : SettingsProblem → String
  | emptyStart phase => phase.name ++ " axiom must not be empty"
  | segmentLength phase value =>
    phase.name ++ " segment_length must be positive, got " ++ plainText value
  | turtleAngles phase => phase.name ++ " turtle angles must be finite"
  | snapDistance value => "snap_distance must be non-negative, got " ++ plainText value
  | scriptLimit => "max_script_len must be non-zero"
  | placement => "start_position and street_heading_offset must be finite"
  | shorteningSteps => "water_adjust_steps must be at least 1"
  | shorteningFraction value => "water_min_fraction must lie in [0, 1], got " ++ plainText value
  | jitterLimit => "random_angle_max must be finite"
  | populationCounts => "steer_samples and span_max_steps must be at least 1"
  | spanThreshold value => "span_threshold must lie in [0, 1], got " ++ plainText value

/-- A problem unless a condition holds. -/
def require (condition : Bool) (problem : SettingsProblem) : Except SettingsProblem Unit :=
  if condition then .ok () else .error problem

/-- Whether a value lies between 0 and 1. -/
def isShare (value : Float32) : Bool := 0.0 ≤ value && value ≤ 1.0

/-- Check the turtle of a phase. -/
def TurtleSettings.check (settings : TurtleSettings) (phase : Phase) :
    Except SettingsProblem Unit := do
  require (0.0 < settings.segmentLength && settings.segmentLength.isFinite)
    (.segmentLength phase settings.segmentLength)
  require (settings.angle.isFinite && settings.direction.isFinite) (.turtleAngles phase)

/-- Check settings. -/
def NetworkSettings.check (settings : NetworkSettings) : Except SettingsProblem Unit := do
  require (!settings.highway.start.isEmpty) (.emptyStart .highway)
  require (!settings.streets.start.isEmpty) (.emptyStart .street)
  settings.highwayTurtle.check .highway
  settings.streetTurtle.check .street
  require (0.0 ≤ settings.snapDistance && settings.snapDistance.isFinite)
    (.snapDistance settings.snapDistance)
  require (settings.scriptLimit != 0) .scriptLimit
  require (settings.root.isFinite && settings.streetTurn.isFinite) .placement
  require (settings.shortening.steps != 0) .shorteningSteps
  require (isShare settings.shortening.smallest) (.shorteningFraction settings.shortening.smallest)
  require settings.jitterLimit.isFinite .jitterLimit
  require (settings.population.samples != 0 && settings.population.steps != 0) .populationCounts
  require (isShare settings.population.threshold) (.spanThreshold settings.population.threshold)

end RoadGrowth
