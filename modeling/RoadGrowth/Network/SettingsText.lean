import RoadGrowth.Json.Writer
import RoadGrowth.Problem
import RoadGrowth.Terrain.SettingsText

/-!
# Network settings as JSON

A field that is absent has its default, except in a grammar, whose fields must all
be there; the turtle of a phase takes the defaults of a turtle and not those of
the phase. Rules are an object with one symbol for each key. What is read is
checked before it is accepted.
-/

namespace RoadGrowth

open Json

/-- A class by its name. -/
def RoadClass.ofJson? (value : Value) : Option RoadClass := value.choice?.bind RoadClass.ofName?

/-- A mode by its name. -/
def SpanMode.ofJson? (value : Value) : Option SpanMode := value.choice?.bind SpanMode.ofName?

/-- A rule with its symbol, from a member of an object. -/
def ruleOfMember? : Content × Value → Option (Char × Script)
  | (some [symbol], value) => value.text?.map fun text => (symbol, text)
  | _ => none

/-- The rules of an object. -/
def rulesOfJson? : Value → Option (SymbolTable Script)
  | .object members => (members.mapM ruleOfMember?).map SymbolTable.ofList
  | _ => none

namespace GrammarSettings

/-- The keys of grammar settings. -/
def keys : List String := ["axiom", "rules", "iterations"]

/-- The grammar settings that a value describes. -/
def ofJson? (value : Value) : Option GrammarSettings := do
  let fields ← value.fields? keys
  return {
    start := ← fields.required "axiom" Value.text?
    rules := ← fields.required "rules" rulesOfJson?
    rounds := ← fields.required "iterations" Value.word32? }

/-- The settings as an object. -/
def toJson (settings : GrammarSettings) : Value :=
  .object [
    Value.member "axiom" (.ofText settings.start),
    Value.member "rules" (.object (settings.rules.entries.map fun (symbol, text) =>
      (some [symbol], .ofText text))),
    Value.member "iterations" (.ofCount settings.rounds.toNat)]

end GrammarSettings

namespace TurtleSettings

/-- The keys of turtle settings. -/
def keys : List String :=
  ["direction", "road_type", "segment_length", "length_scale", "angle", "angle_scale"]

/-- The turtle settings that a value describes. -/
def ofJson? (value : Value) : Option TurtleSettings := do
  let fields ← value.fields? keys
  let absent : TurtleSettings := {}
  return {
    direction := ← fields.optional "direction" Value.single? absent.direction
    roadClass := ← fields.optional "road_type" RoadClass.ofJson? absent.roadClass
    segmentLength := ← fields.optional "segment_length" Value.single? absent.segmentLength
    lengthScale := ← fields.optional "length_scale" Value.single? absent.lengthScale
    angle := ← fields.optional "angle" Value.single? absent.angle
    angleScale := ← fields.optional "angle_scale" Value.single? absent.angleScale }

/-- The settings as an object. -/
def toJson (settings : TurtleSettings) : Value :=
  .object [
    Value.member "direction" (.ofSingle settings.direction),
    Value.member "road_type" (.ofText settings.roadClass.name.toList),
    Value.member "segment_length" (.ofSingle settings.segmentLength),
    Value.member "length_scale" (.ofSingle settings.lengthScale),
    Value.member "angle" (.ofSingle settings.angle),
    Value.member "angle_scale" (.ofSingle settings.angleScale)]

end TurtleSettings

namespace PopulationRuleSettings

/-- The keys of population rules. -/
def keys : List String :=
  ["steer_arc", "steer_samples", "span_threshold", "span_mode", "span_max_steps"]

/-- The population rules that a value describes. -/
def ofJson? (value : Value) : Option PopulationRuleSettings := do
  let fields ← value.fields? keys
  let absent : PopulationRuleSettings := {}
  return {
    arc := ← fields.optional "steer_arc" Value.single? absent.arc
    samples := ← fields.optional "steer_samples" Value.word32? absent.samples
    threshold := ← fields.optional "span_threshold" Value.single? absent.threshold
    mode := ← fields.optional "span_mode" SpanMode.ofJson? absent.mode
    steps := ← fields.optional "span_max_steps" Value.word32? absent.steps }

/-- The settings as an object. -/
def toJson (settings : PopulationRuleSettings) : Value :=
  .object [
    Value.member "steer_arc" (.ofSingle settings.arc),
    Value.member "steer_samples" (.ofCount settings.samples.toNat),
    Value.member "span_threshold" (.ofSingle settings.threshold),
    Value.member "span_mode" (.ofText settings.mode.name.toList),
    Value.member "span_max_steps" (.ofCount settings.steps.toNat)]

end PopulationRuleSettings

namespace NetworkSettings

/-- The keys of network settings. -/
def keys : List String :=
  ["road_seed", "highway", "streets", "neighborhood_count", "highway_turtle", "street_turtle",
    "start_position", "street_heading_offset", "snap_distance", "max_script_len",
    "allow_adjustment", "water_adjust_steps", "water_min_fraction", "random_angle_max",
    "population_rules"]

/-- The settings that a value describes. -/
def ofJson? (value : Value) : Option NetworkSettings := do
  let fields ← value.fields? keys
  let absent : NetworkSettings := {}
  return {
    roadSeed := ← fields.optional "road_seed" Value.word64? absent.roadSeed
    highway := ← fields.optional "highway" GrammarSettings.ofJson? absent.highway
    streets := ← fields.optional "streets" GrammarSettings.ofJson? absent.streets
    neighborhoods := ← fields.optional "neighborhood_count" Value.word32? absent.neighborhoods
    highwayTurtle := ← fields.optional "highway_turtle" TurtleSettings.ofJson? absent.highwayTurtle
    streetTurtle := ← fields.optional "street_turtle" TurtleSettings.ofJson? absent.streetTurtle
    root := ← fields.optional "start_position" Point.ofJson? absent.root
    streetTurn := ← fields.optional "street_heading_offset" Value.single? absent.streetTurn
    snapDistance := ← fields.optional "snap_distance" Value.single? absent.snapDistance
    scriptLimit := ← fields.optional "max_script_len" Value.word64? absent.scriptLimit
    adjusts := ← fields.optional "allow_adjustment" Value.truth? absent.adjusts
    shortening := {
      steps := ← fields.optional "water_adjust_steps" Value.word32? absent.shortening.steps
      smallest := ← fields.optional "water_min_fraction" Value.single? absent.shortening.smallest }
    jitterLimit := ← fields.optional "random_angle_max" Value.single? absent.jitterLimit
    population := ← fields.optional "population_rules" PopulationRuleSettings.ofJson?
      absent.population }

/-- The settings as an object. -/
def toJson (settings : NetworkSettings) : Value :=
  .object [
    Value.member "road_seed" (.ofCount settings.roadSeed.toNat),
    Value.member "highway" settings.highway.toJson,
    Value.member "streets" settings.streets.toJson,
    Value.member "neighborhood_count" (.ofCount settings.neighborhoods.toNat),
    Value.member "highway_turtle" settings.highwayTurtle.toJson,
    Value.member "street_turtle" settings.streetTurtle.toJson,
    Value.member "start_position" settings.root.toJson,
    Value.member "street_heading_offset" (.ofSingle settings.streetTurn),
    Value.member "snap_distance" (.ofSingle settings.snapDistance),
    Value.member "max_script_len" (.ofCount settings.scriptLimit.toNat),
    Value.member "allow_adjustment" (.bool settings.adjusts),
    Value.member "water_adjust_steps" (.ofCount settings.shortening.steps.toNat),
    Value.member "water_min_fraction" (.ofSingle settings.shortening.smallest),
    Value.member "random_angle_max" (.ofSingle settings.jitterLimit),
    Value.member "population_rules" settings.population.toJson]

/-- The settings that a text describes. -/
def ofText (text : List Char) : Except Problem NetworkSettings :=
  match (Value.read? text).bind ofJson? with
  | some settings => settings.checked
  | none => .error .notSettings

/-- The text of settings. -/
def toText (settings : NetworkSettings) : List Char := settings.toJson.indented 0 []

/-- The settings in a file of bytes. -/
def ofBytes (bytes : ByteArray) : Except Problem NetworkSettings :=
  match String.fromUTF8? bytes with
  | some text => ofText text.toList
  | none => .error (.file .notText)

end NetworkSettings

end RoadGrowth
