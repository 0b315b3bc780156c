import DocFilter.Cli.Run

set_option autoImplicit false

namespace DocFilter.Cli

/-- The system numbers an error of a path that is a directory 21, or -21. -/
def faultOf : IO.Error → FileFault
  | .noFileOrDirectory .. => .notFound
  | .inappropriateType _ code _ =>
      if code = 21 ∨ code + 21 = 0 then .isDirectory else .notDirectory
  | error => .other (toString error)

def attempt {α : Type} (action : IO α) : IO (Except FileFault α) := do
  try
    let result ← action
    pure (.ok result)
  catch error => pure (.error (faultOf error))

def systemEffects : Effects IO where
  read path := attempt (IO.FS.readBinFile path)
  print text := IO.print text
  report line := IO.eprintln line
  write path content := attempt (IO.FS.writeBinFile path content)

end DocFilter.Cli

def main (arguments : List String) : IO UInt32 := do
  let request := DocFilter.Cli.Request.ofArguments (← IO.getEnv "QUERY_FILTER_CONFIG") arguments
  if request = .misuse then IO.eprint DocFilter.Cli.helpText
  let exitCode ← request.perform DocFilter.Cli.systemEffects
  pure exitCode.toUInt32
