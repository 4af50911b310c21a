import Descent.CommandLine

set_option autoImplicit false

/-!
The command itself: it reads the source that the arguments name, and writes the reply.
-/

namespace Descent.CommandLine

/-- The reason that an error of the system stands for. -/
def ReadError.ofError : IO.Error → ReadError
  | .noFileOrDirectory .. => .missing
  | .inappropriateType .. => .directory
  | error => .other (toString error)

/-- Reads a stream to its end, after the bytes read so far. -/
partial def readToEnd (stream : IO.FS.Stream) (bytes : ByteArray) : IO ByteArray := do
  let more ← stream.read 65536
  if more.isEmpty then return bytes else readToEnd stream (bytes ++ more)

/-- Reads all bytes of a source. -/
def Source.read (source : Source) : IO (Except ReadError ByteArray) := do
  try
    match source with
    | .standardInput => return .ok (← readToEnd (← IO.getStdin) .empty)
    | .file name => return .ok (← IO.FS.readBinFile name)
  catch error => return .error (.ofError error)

/-- Runs the command with its arguments. -/
def run (arguments : List String) : IO UInt32 := do
  let content ←
    match (readArguments? arguments).bind Request.source? with
    | some source => source.read
    | none => pure (.ok .empty)
  let reply := reply arguments fun _ => content
  (← IO.getStdout).putStr reply.standardOutput
  (← IO.getStderr).putStr reply.standardError
  return reply.code.toUInt32

end Descent.CommandLine

/-- The entry point of the command. -/
def main (arguments : List String) : IO UInt32 := Descent.CommandLine.run arguments
