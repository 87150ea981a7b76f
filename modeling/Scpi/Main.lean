import Scpi.Console

set_option autoImplicit false

namespace Scpi.Console

def printJournal (threshold : Int) (bench : DemoBench) : IO DemoBench := do
  let stderr ← IO.getStderr
  for line in Journal.printed threshold bench.journal do
    stderr.putStrLn line
  return bench.withoutRecord

partial def serveInput (threshold : Int) (bench : DemoBench) : IO Unit := do
  let stdin ← IO.getStdin
  let stdout ← IO.getStdout
  let input ← stdin.getLine
  if input.isEmpty then return
  match serveDemo (Text.lines input) bench with
  | none => return
  | some served =>
    for line in served.written do
      stdout.putStr line
    stdout.flush
    serveInput threshold (← printJournal threshold served.bench)

end Scpi.Console

def main : IO Unit := do
  let threshold := Scpi.Journal.threshold Scpi.Journal.standardThreshold (← IO.getEnv "SCPI_LOG_LEVEL")
  Scpi.Console.serveInput threshold (← Scpi.Console.printJournal threshold Scpi.Console.demoBench)
