import DocQuery.Command.Execute

/-!
The command line.
-/

namespace DocQuery

partial def readToEnd (stream : IO.FS.Stream) (before : String) : IO String := do
  let line ← stream.getLine
  if line.isEmpty then return before else readToEnd stream (before ++ line)

end DocQuery

open DocQuery

def main (arguments : List String) : IO UInt32 := do
  let awaits := (Command.ofArguments? arguments).any Command.awaitsInput
  let piped ← if awaits then readToEnd (← IO.getStdin) "" else pure ""
  let report := Command.executeArguments arguments piped
  (← IO.getStdout).putStr report.output
  (← IO.getStderr).putStr report.complaint
  return report.code.toUInt32
