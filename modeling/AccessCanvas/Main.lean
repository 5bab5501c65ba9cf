import AccessCanvas.CommandLine

/-! The program: it reads the files that its arguments name and prints what they lead to. -/

namespace AccessCanvas

def readFile (path : String) : IO (Except FileFault String) := do
  try
    return decodeFile (← IO.FS.readBinFile path)
  catch
    | .noFileOrDirectory .. => return .error .missing
    | problem => return .error (.other (toString problem))

end AccessCanvas

open AccessCanvas in
def main (arguments : List String) : IO UInt32 := do
  let paths := ((CommandLine.Command.ofArguments arguments).map (·.paths)).getD []
  let files ← paths.mapM fun path => return (path, ← readFile path)
  let outcome := CommandLine.run (fun path => (files.lookup path).getD (.error .missing)) arguments
  for warning in outcome.warned do IO.eprintln ("WARN " ++ warning)
  IO.print outcome.output
  if let some complaint := outcome.complaint then IO.eprintln complaint
  return outcome.code.toUInt32
