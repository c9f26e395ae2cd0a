import ReplicaPlacement.CommandLine.Run

namespace ReplicaPlacement.CommandLine

def loadFile (path : String) : IO (Option String) := do
  try
    let text ← IO.FS.readFile path
    pure (some text)
  catch _ => pure none

/-- Looks every few milliseconds whether the work is done. -/
partial def waitFor (task : Task Outcome) (deadline : Nat) : IO Outcome := do
  if ← IO.hasFinished task then pure task.get
  else if deadline ≤ (← IO.monoMsNow) then pure tooLate
  else
    IO.sleep 2
    waitFor task deadline

def limitTime (timeout : Option UInt64) (work : Unit → Outcome) : IO Outcome := do
  match timeout with
  | none => pure (work ())
  | some ms =>
    let start ← IO.monoMsNow
    waitFor (Task.spawn work .dedicated) (start + ms.toNat)

end ReplicaPlacement.CommandLine

open ReplicaPlacement

def main (args : List String) : IO UInt32 := do
  let outcome ← CommandLine.answer CommandLine.loadFile CommandLine.limitTime args
  for event in outcome.events do
    IO.eprintln event.line
  IO.print outcome.output
  match outcome.failure with
  | some report => IO.eprintln ("Error: " ++ report)
  | none => pure ()
  pure outcome.code
