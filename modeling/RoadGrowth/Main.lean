import RoadGrowth.CommandLine.Session

/-!
# Command line

Grows a road network on a terrain and prints a report of it.
-/

open RoadGrowth CommandLine

/-- Read a file as bytes. -/
def readBytes (path : String) : IO (Except FileProblem ByteArray) := do
  try
    return .ok (← IO.FS.readBinFile path)
  catch problem =>
    match problem with
    | .noFileOrDirectory .. => return .error .missing
    | _ => return .error .unreadable

/-- Milliseconds with one place, from a count of nanoseconds. -/
def millisecondsText (nanoseconds : Nat) : String :=
  let tenths := (nanoseconds + 50000) / 100000
  toString (tenths / 10) ++ "." ++ toString (tenths % 10)

/-- The console of the running program. -/
def systemConsole : Console IO where
  contents := readBytes
  printLine := IO.println
  timed := fun value => do
    let before ← IO.monoNanosNow
    let result ← IO.lazyPure value
    let after ← IO.monoNanosNow
    return (result, millisecondsText (after - before))

/-- Run a session and report its problem, if there is one. -/
def main (arguments : List String) : IO UInt32 := do
  let ending ← session systemConsole arguments
  match ending with
  | some problem => IO.eprintln problem.message
  | none => pure ()
  return exitCode ending
