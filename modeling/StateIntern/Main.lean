import StateIntern.Walk.Options

/-! The command line: takes a walk and prints its report. -/
open StateIntern

def main (arguments : List String) : IO UInt32 := do
  match Walk.Options.ofArguments arguments with
  | .error e =>
    IO.eprintln ("error: " ++ e.message)
    return 2
  | .ok options =>
    match options.walk.run with
    | .error e =>
      IO.eprintln ("error: " ++ e.message)
      return e.status
    | .ok report =>
      if options.summary then
        IO.eprintln ("Interned " ++ options.walk.states.repr ++ " states into " ++
          report.stats.states.repr ++ " entries")
      for line in report.lines do
        IO.println line
      return 0
