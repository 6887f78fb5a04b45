import RoadGrowth.CommandLine.Options
import RoadGrowth.CommandLine.Report

/-!
# Sessions

A session reads the settings, grows a network and prints a report of it. It reaches
files, the output and the clock only through a console. Lines printed before a
problem stay printed.
-/

namespace RoadGrowth.CommandLine

/-- What a session needs of its surroundings. -/
structure Console (m : Type → Type) where
  /-- The bytes of a file. -/
  contents : String → m (Except FileProblem ByteArray)
  printLine : String → m Unit
  /-- A value with the text of the milliseconds that it took. -/
  timed : {α : Type} → (Unit → α) → m (α × String)

/-- How a session ended; nothing is a success. -/
abbrev Ending := Option Problem

/-- The exit code of an ending. -/
def exitCode : Ending → UInt32
  | none => 0
  | some (.fault _) => 101
  | some _ => 1

/-- The settings of the file that the options name; the usual ones without one. -/
def loadSettings {m : Type → Type} [Monad m] (console : Console m) (arguments : List String) :
    m (Except Problem NetworkSettings) := do
  match value? arguments "--config" with
  | none => return .ok {}
  | some path =>
    match ← console.contents path with
    | .ok bytes => return NetworkSettings.ofBytes bytes
    | .error problem => return .error (.file problem)

/-- Print lines in order. -/
def printAll {m : Type → Type} [Monad m] (console : Console m) (lines : List String) : m Unit :=
  lines.forM console.printLine

/-- Grow a network and report on it. -/
def growAndReport {m : Type → Type} [Monad m] (console : Console m) (settings : NetworkSettings)
    (terrainSettings : TerrainSettings) : m Ending := do
  printAll console (headerLines settings terrainSettings)
  match ← console.timed fun _ => Terrain.standard terrainSettings with
  | (.error fault, _) => return some (.fault fault)
  | (.ok terrain, milliseconds) =>
    console.printLine (terrainLine milliseconds terrain)
    match ← console.timed fun _ => Network.generate settings terrain with
    | (.error problem, _) => return some problem
    | (.ok network, milliseconds) =>
      match network.graph.summary with
      | .error fault => return some (.fault fault)
      | .ok summary =>
        console.printLine (roadsLine milliseconds)
        printAll console (summaryLines summary)
        return none

/-- Run a session with the arguments of the command line. -/
def session {m : Type → Type} [Monad m] (console : Console m) (arguments : List String) :
    m Ending := do
  match ← loadSettings console arguments with
  | .error problem => return some problem
  | .ok loaded =>
    match (networkSettings arguments loaded).checked with
    | .error problem => return some problem
    | .ok settings =>
      if arguments.contains "--print-config" then
        console.printLine (String.ofList settings.toText)
        return none
      else
        growAndReport console settings (terrainSettings arguments)

end RoadGrowth.CommandLine
