import RoadGrowth.Network.Growth

/-!
# Report

The lines that are printed about a network: what it is grown from, how long its
terrain and its roads took, and what came of it.
-/

namespace RoadGrowth.CommandLine

open Numeric

/-- A text filled up with spaces on its right. -/
def padded (width : Nat) (text : String) : String :=
  text ++ String.ofList (List.replicate (width - text.length) ' ')

/-- What the network is grown from. -/
def headerLines (network : NetworkSettings) (terrain : TerrainSettings) : List String :=
  ["=== Roadgen Network Generator ===",
    s!"Terrain:  {terrain.divisions.columns} x {terrain.divisions.rows} cells, aspect " ++
      plainText terrain.aspectRatio,
    s!"Seeds:    elevation {terrain.elevationSeed}, population {terrain.populationSeed}, road " ++
      toString network.roadSeed,
    s!"Grammar:  {network.highway.rounds} highway rounds, {network.neighborhoods} neighbourhoods",
    ""]

/-- The line about a terrain that took some milliseconds. -/
def terrainLine (milliseconds : String) (terrain : Terrain) : String :=
  "Terrain built in " ++ milliseconds ++ "ms (" ++
    fixedText 0 (terrain.landFraction * 100.0) ++ "% land)"

/-- The line about roads that took some milliseconds. -/
def roadsLine (milliseconds : String) : String :=
  "Roads grown in " ++ milliseconds ++ "ms"

/-- A point in parentheses. -/
def pointText (point : Point) : String :=
  "(" ++ fixedText 3 point.x ++ ", " ++ fixedText 3 point.y ++ ")"

/-- The extent of a network; an empty one has none. -/
def extentLines (bounds : Rectangle) : List String :=
  if bounds.isEmpty then
    []
  else
    ["Extent:        " ++ pointText bounds.lower ++ " .. " ++ pointText bounds.upper ++ ", " ++
      fixedText 3 bounds.size.x ++ " x " ++ fixedText 3 bounds.size.y]

/-- What came of a network. -/
def summaryLines (summary : Summary) : List String :=
  ["",
    "Intersections: " ++ toString summary.nodes,
    "Segments:      " ++ toString summary.segments] ++
  (RoadClass.all.map fun roadClass =>
    "  " ++ padded 10 roadClass.name ++ " " ++ toString (summary.count roadClass)) ++
  ["Total length:  " ++ fixedText 3 summary.totalLength,
    "Paved area:    " ++ fixedText 5 summary.pavedArea,
    "Dead ends:     " ++ toString summary.deadEnds,
    "Retraced:      " ++ toString summary.retraced] ++
  extentLines summary.bounds

end RoadGrowth.CommandLine
