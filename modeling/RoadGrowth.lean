import RoadGrowth.CommandLine.Options
import RoadGrowth.CommandLine.Report
import RoadGrowth.CommandLine.Session
import RoadGrowth.Fault
import RoadGrowth.Grammar.Basic
import RoadGrowth.Grammar.SymbolTable
import RoadGrowth.Graph.Basic
import RoadGrowth.Graph.CellIndex
import RoadGrowth.Graph.Growth
import RoadGrowth.Graph.Nearest
import RoadGrowth.Graph.RoadClass
import RoadGrowth.Graph.Summary
import RoadGrowth.Json.Lexeme
import RoadGrowth.Json.Numeral
import RoadGrowth.Json.Record
import RoadGrowth.Json.Value
import RoadGrowth.Json.Writer
import RoadGrowth.Main
import RoadGrowth.Network.Growth
import RoadGrowth.Network.Settings
import RoadGrowth.Network.SettingsText
import RoadGrowth.Noise.Fractal
import RoadGrowth.Noise.Lattice
import RoadGrowth.Numeric.Arctangent
import RoadGrowth.Numeric.Decimal
import RoadGrowth.Numeric.Literal
import RoadGrowth.Numeric.PlainText
import RoadGrowth.Numeric.Rounding
import RoadGrowth.Numeric.Shortest
import RoadGrowth.Numeric.Sine
import RoadGrowth.Placement.Bounds
import RoadGrowth.Placement.Candidate
import RoadGrowth.Placement.Policy
import RoadGrowth.Placement.Shore
import RoadGrowth.Plane.Heading
import RoadGrowth.Plane.Point
import RoadGrowth.Plane.Rectangle
import RoadGrowth.Problem
import RoadGrowth.Random.Keystream
import RoadGrowth.Random.Range
import RoadGrowth.Terrain.Basic
import RoadGrowth.Terrain.Elevation
import RoadGrowth.Terrain.Population
import RoadGrowth.Terrain.Query
import RoadGrowth.Terrain.Settings
import RoadGrowth.Terrain.SettingsText
import RoadGrowth.Text.Blank
import RoadGrowth.Turtle.Basic
import RoadGrowth.Turtle.Interpreter
import RoadGrowth.Turtle.Jitter
import RoadGrowth.Turtle.Rule
import RoadGrowth.Turtle.Survey
import RoadGrowth.Turtle.Token
import RoadGrowth.Proofs.Numeric.Grid
import RoadGrowth.Proofs.Numeric.Single
import RoadGrowth.Proofs.Numeric.Nearest
import RoadGrowth.Proofs.Graph.Block
import RoadGrowth.Proofs.Graph.Nearest
import RoadGrowth.Proofs.Network.Placement
import RoadGrowth.Proofs.Network.Ancestry
import RoadGrowth.Proofs.Network.Faults
import RoadGrowth.Proofs.Network.SettingsText
import RoadGrowth.Proofs.Turtle.Ended
import RoadGrowth.Proofs.Turtle.Depth
import RoadGrowth.Proofs.Turtle.Accounts
import RoadGrowth.Proofs.Network.RoadClasses
import RoadGrowth.Proofs.Network.Origins
import RoadGrowth.Proofs.Network.UndefinedEnds
import RoadGrowth.Proofs.Graph.Changes
import RoadGrowth.Proofs.Graph.Separation
import RoadGrowth.Proofs.Turtle.Sequence
import RoadGrowth.Proofs.Turtle.Sites
import RoadGrowth.Proofs.Placement.Resolution
import RoadGrowth.Proofs.Graph.Buckets
import RoadGrowth.Proofs.Graph.Closest
import RoadGrowth.Proofs.Graph.Repetition
import RoadGrowth.Proofs.Placement.Edges
import RoadGrowth.Proofs.Placement.Landing
import RoadGrowth.Proofs.Turtle.Spelling
import RoadGrowth.Proofs.Turtle.Unbound
import RoadGrowth.Proofs.Network.Scripts
import RoadGrowth.Proofs.Graph.Summary
import RoadGrowth.Proofs.Terrain.Aggregation
import RoadGrowth.Proofs.Terrain.Land
import RoadGrowth.Proofs.Terrain.Outside
import RoadGrowth.Proofs.Turtle.Steering
import RoadGrowth.Proofs.Turtle.Spanning
