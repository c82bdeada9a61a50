import ThreatGraph.Program

/-!
# The command line

Runs the program with the words of the command line and the environment. The network that it runs
on carries no scheme: every request fails in transport.
-/

set_option autoImplicit false

namespace ThreatGraph

/-- The content of a file, or the reason why it cannot be read. -/
def readFile (path : String) : IO (Except String (List UInt8)) := do
  try
    pure (.ok (← IO.FS.readBinFile path).toList)
  catch
    | .noFileOrDirectory _ code reason =>
      pure (.error (reason ++ " (os error " ++ toString code ++ ")"))
    | e => pure (.error (toString e))

/-- The world of a run, in which the files are those that the command line names. -/
def worldOf (paths : List String) : IO World := do
  let files ← paths.mapM fun path => do pure (path, ← readFile path)
  pure
    { carries := []
      script := []
      files := fun path =>
        match files.find? fun entry => entry.1 = path with
        | some (_, content) => content
        | none => .error "No such file or directory (os error 2)"
      journal := [] }

/-- The files that a command line names. -/
def pathsOf (env : Environment) (args : List String) : List String :=
  match CommandLine.parse env args with
  | .ok invocation => invocation.config.toList
  | .error _ => []

end ThreatGraph

open ThreatGraph in
/-- Runs the program. -/
def main (args : List String) : IO UInt32 := do
  let env : Environment :=
    ⟨← IO.getEnv "THREATEXCHANGE_ACCESS_TOKEN", ← IO.getEnv "THREATEXCHANGE_APP_ID"⟩
  let logRules := (← IO.getEnv "RUST_LOG").getD ""
  let result := Program.run env logRules args (← worldOf (pathsOf env args))
  for note in result.log do
    IO.eprintln (Program.logLine note)
  IO.print result.output
  if let some message := result.error then
    IO.eprint message
  pure result.exitCode.toUInt32
