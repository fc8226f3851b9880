import ChatCommands.Console

/-!
The program: reads a configuration file, then lines from standard input, and
writes the replies to standard output.
-/

open ChatCommands

/-- Answers lines until the input ends. -/
partial def answerLines (started : Nat) (agent : Agent Console.Tags) : IO Unit := do
  match Console.lines (← (← IO.getStdin).getLine) with
  | [] => return
  | line :: _ =>
    let elapsed : Instant := (← IO.monoNanosNow) - started
    let agent := agent.advance (elapsed.since agent.service.now)
    let (replies, agent) := Console.respond agent line
    for reply in replies do
      IO.println reply
    answerLines started agent

/-- The bytes of a file, if there is one. -/
def fileBytes (path : String) : IO (Option ByteArray) := do
  try
    return some (← IO.FS.readBinFile path)
  catch
    | .noFileOrDirectory .. => return none
    | e => throw e

/-- Starts the agent with the configuration file named by the first argument. -/
def main (args : List String) : IO UInt32 := do
  match Console.start (← fileBytes (args.headD "dispatch.toml")) with
  | .error (.config _) =>
    IO.eprintln "Failed to load config"
    return 1
  | .error (.settings problems) =>
    for problem in problems do
      IO.eprintln problem.message
    return 1
  | .error (.registration e) =>
    IO.eprintln e.message
    return 1
  | .ok agent =>
    answerLines (← IO.monoNanosNow) agent
    return 0
