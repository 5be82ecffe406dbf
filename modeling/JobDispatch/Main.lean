import JobDispatch.Startup
import JobDispatch.Console
import JobDispatch.Json.Parse

namespace JobDispatch

-- The variables of the configuration that the environment sets, with their values.
def readEnvironment : IO (List (String × String)) :=
  Config.environmentNames.filterMapM fun k => do return (← IO.getEnv k).map (k, ·)

-- Answers command lines until the input ends or a command stops the service.
partial def serveConsole (stdin stdout : IO.FS.Stream) (o : Orchestrator) : IO UInt32 := do
  let line ← stdin.getLine
  if line.isEmpty then return 0
  if line.trimAscii.isEmpty then serveConsole stdin stdout o else
  let (answer, o) := match Json.parse? line with
    | some j => (Console.run j).run o
    | none => (.ok (Console.failure "command" "a command is one JSON object"), o)
  match answer with
  | .ok a =>
    stdout.putStrLn a.compact
    stdout.flush
    serveConsole stdin stdout o
  | .error message =>
    IO.eprintln message
    return 101

end JobDispatch

open JobDispatch in
def main : IO UInt32 := do
  let env ← readEnvironment
  match startService (fun k => List.lookup k env) (fun _ => false) with
  | .error report =>
    IO.eprint report.render
    return 1
  | .ok config => serveConsole (← IO.getStdin) (← IO.getStdout) (Orchestrator.create config)
