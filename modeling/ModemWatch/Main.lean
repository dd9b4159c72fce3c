import ModemWatch.CommandLine.Run
import ModemWatch.Toml.Writer

/-!
# The program

Runs the command line on the files of the computer.
-/

namespace ModemWatch

/-- A directory stands at a path: `.` cannot be made in it because it is there. -/
def isDirectoryOnDisk (path : String) : IO Bool := do
  try
    IO.FS.createDir (path ++ "/.")
    return true
  catch
    | .alreadyExists .. => return true
    | _ => return false

/-- Reads a file.  What cannot be read is unreadable if the path leads somewhere: not past a file,
and not through a name that is too long. -/
def readFromDisk (path : String) : IO FileContent := do
  try
    return .bytes (← IO.FS.readBinFile path).toList
  catch
    | .noFileOrDirectory .. | .invalidArgument .. => return .missing
    | .inappropriateType .. =>
      return if ← isDirectoryOnDisk path then .unreadable else .missing
    | _ => return .unreadable

/-- Makes one directory. -/
def makeOnDisk (path : String) : IO (Except Obstacle Unit) := do
  try
    IO.FS.createDir path
    return .ok ()
  catch
    | .noFileOrDirectory .. => return .error .missing
    | _ => return .error .blocked

end ModemWatch

/-- Runs the program. -/
def main (words : List String) : IO UInt32 := do
  let files : ModemWatch.FileAccess IO :=
    ⟨ModemWatch.readFromDisk, ModemWatch.makeOnDisk, ModemWatch.isDirectoryOnDisk⟩
  let output ← (ModemWatch.CommandLine.parse words).run ModemWatch.Toml.codec files
  IO.print output.stdout
  IO.eprint output.stderr
  return output.code.toUInt32
