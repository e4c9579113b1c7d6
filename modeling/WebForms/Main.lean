import WebForms.Server.Arguments
import WebForms.Server.Rpc

/-!
# The server on standard input and output

Each message is preceded by a header that states its length in bytes. The server runs until it is
told to exit or its input ends.
-/

namespace WebForms.Stdio

/-- Why the machine does not give the text of a file. -/
def readFailure : IO.Error → ReadFailure
  | .noFileOrDirectory .. => .notFound
  | .inappropriateType _ 20 _ => .notDirectory
  | .inappropriateType _ 21 _ => .isDirectory
  | e => .other (toString e)

/-- The text of a file. -/
def readText (path : String) : IO (Except ReadFailure String) := do
  try
    return .ok (← IO.FS.readFile path)
  catch e => return .error (readFailure e)

/-- There is a directory at a path. -/
def isDirectory (path : String) : IO Bool := do
  try
    (← IO.FS.realPath path).isDir
  catch _ => return false

/-- The paths of all files in a directory and those below it, or of the one file at a path. -/
partial def filesUnder (path : String) : IO (List String) := do
  try
    let place ← IO.FS.realPath path
    if ← place.isDir then
      let names := (← place.readDir).toList.map (·.fileName)
      return (← names.mapM fun name => filesUnder (Path.join path name)).flatten
    else return if ← place.pathExists then [path] else []
  catch _ => return []

/-- The files of the machine. -/
def disk : Disk IO where
  read := readText
  isDirectory := isDirectory
  filesUnder := filesUnder

/-- The length that a header line states, if it states one. -/
def contentLength? (line : String) : Option Nat :=
  match Text.splitFirst? (· == ':') line.toList with
  | some (name, value) =>
    if Text.sameName (String.ofList name) "Content-Length" then
      (Text.trim (String.ofList value)).toNat?
    else none
  | none => none

/-- Reads the header of a message; none at the end of the input. -/
partial def readHeader (input : IO.FS.Stream) (length : Nat) : IO (Option Nat) := do
  let line ← input.getLine
  if line.isEmpty then return none
  if (Text.trim line).isEmpty then return some length
  readHeader input ((contentLength? line).getD length)

/-- Reads `count` bytes behind those in `bytes`, or up to the end of the input. -/
partial def readBytes (input : IO.FS.Stream) (count : Nat) (bytes : ByteArray) : IO ByteArray := do
  if count = 0 then return bytes
  let chunk ← input.read count.toUSize
  if chunk.isEmpty then return bytes
  readBytes input (count - chunk.size) (bytes ++ chunk)

/-- Sends a message. -/
def send (output : IO.FS.Stream) (message : Json) : IO Unit := do
  let text := message.render
  output.putStr ("Content-Length: " ++ toString text.utf8ByteSize ++ "\r\n\r\n" ++ text)
  output.flush

/-- Serves one message after the other. -/
partial def serve (input output : IO.FS.Stream) (c : Connection) : IO Unit := do
  if c.server.phase = .exited then return
  match ← readHeader input 0 with
  | none => return
  | some length =>
    let bytes ← readBytes input length ByteArray.empty
    let (c, messages) ← c.receive disk ((String.fromUTF8? bytes).getD "")
    messages.forM (send output)
    serve input output c

end WebForms.Stdio

/-- Runs the server with the settings that the arguments state. -/
def main (arguments : List String) : IO UInt32 := do
  match WebForms.Settings.ofArguments arguments with
  | .error e =>
    (← IO.getStderr).putStrLn e.message
    return 2
  | .ok settings =>
    let environment ← IO.getEnv "ASPNET_LS_CLR_VERSION"
    WebForms.Stdio.serve (← IO.getStdin) (← IO.getStdout) { server := { settings, environment } }
    return 0
