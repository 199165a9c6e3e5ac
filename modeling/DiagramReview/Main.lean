import DiagramReview.Command.Checker
import DiagramReview.Server.Frame
import DiagramReview.Server.Session

/-!
The two programs on a real machine. The name by which the executable is called decides between
them: `mermaid-ls` serves an editor, any other name checks one diagram. Files are read before a run
and given to it; nothing else is decided here.
-/

namespace DiagramReview.Machine

/-- Why a file cannot be read. Of the two faults in the kind of a file, number 21 is that it is a
directory. -/
def readError : IO.Error → ReadError
  | .noFileOrDirectory .. => .notFound
  | .inappropriateType _ code _ => if code = 21 then .isDirectory else .notDirectory
  | e => .other (toString e)

def readFile (path : String) : IO (Except ReadError Text) := do
  try
    return Files.decode (← IO.FS.readBinFile path)
  catch e =>
    return .error (readError e)

def isFile (path : String) : IO Bool := do
  try
    return (← (← IO.FS.realPath path).metadata).type == .file
  catch _ =>
    return false

def settingsHome : IO (Option String) := do
  match ← IO.getEnv "XDG_CONFIG_HOME" with
  | some dir => if dir.startsWith "/" then return some dir
  | none => pure ()
  return (← IO.getEnv "HOME").map (Path.join · ".config")

def workingDirectory : IO (Option String) := do
  try
    return some (toString (← IO.currentDir))
  catch _ =>
    return none

def readInput : IO (Except ReadError Text) := do
  return Files.decode (← (← IO.getStdin).readBinToEnd)

/-- The machine as a program finds it when it starts. It reads the file that it is given and, of
the files with settings, the one that it is told or those that are there. -/
def readHost (settings file : Option String) : IO Host := do
  let here ← workingDirectory
  let home ← settingsHome
  let found ← (here.toList.flatMap (Config.candidates home)).filterM isFile
  let seen : Files := { isFile := found.contains, read := fun _ => .error .notFound }
  let wanted := here.toList.flatMap fun here => Config.paths seen home here settings
  let given := file.toList.filter (!Path.isInput ·)
  let texts ← (wanted ++ given).mapM fun path => do return (path, ← readFile path)
  let input ← if file.any Path.isInput then readInput else pure (.ok [])
  let files := { seen with read := fun path => (texts.lookup path).getD (.error .notFound) }
  return { files, input, here, home }

def printErrors (lines : List String) : IO Unit := lines.forM fun line => IO.eprintln line

def checkerUsage : List String :=
  ["Usage: mermaid-check complexity FILE [--json] [--simple N] [--moderate N]",
   "       mermaid-check validate FILE [--json]",
   "Options: --config FILE, --log-level LEVEL, --help, --version"]

def serverUsage : List String :=
  ["Usage: mermaid-ls [--config FILE] [--simple N] [--moderate N] [--log-level LEVEL]",
   "Options: --help, --version"]

def check (words : List String) : IO UInt32 := do
  let a? := (CheckArguments.ofWords words).toOption
  let host ← readHost (a?.bind (·.config)) (a?.map (·.file))
  let outcome := Checker.run host words
  IO.print outcome.output
  printErrors (outcome.errors.getD checkerUsage)
  return outcome.exit.toUInt32

partial def readHeader (input : IO.FS.Stream) : IO (Option (List Text)) := do
  let line ← input.getLine
  if line.isEmpty then return none
  let line := Text.trim line.toList
  if line.isEmpty then return some []
  return (← readHeader input).map (line :: ·)

partial def readBytes (input : IO.FS.Stream) (count : Nat) : IO ByteArray := do
  if count = 0 then return .empty
  let bytes ← input.read count.toUSize
  if bytes.isEmpty then return bytes
  return bytes ++ (← readBytes input (count - bytes.size))

def readBody (input : IO.FS.Stream) : IO (Option Text) := do
  match ← readHeader input with
  | none => return none
  | some header =>
    let bytes ← readBytes input ((Frame.lengthOf? header).getD 0)
    return some ((Files.decode bytes).toOption.getD [])

partial def listen (input output : IO.FS.Stream) (filter : LogFilter) (server : Server) :
    IO Unit := do
  match ← readBody input with
  | none => return
  | some body =>
    match ClientMessage.ofBody? body with
    | none => listen input output filter server
    | some message =>
      let reaction := server.react message
      for sent in Session.messages message reaction do
        output.putStr (Frame.ofMessage sent)
      output.flush
      printErrors (filter.lines reaction.records)
      if reaction.server.phase = .exited then return
      listen input output filter reaction.server

def serve (words : List String) : IO UInt32 := do
  let host ← readHost ((ServerArguments.ofWords words).toOption.bind (·.config)) none
  match Session.launch host words with
  | .ended exit errors =>
    printErrors (errors.getD serverUsage)
    return exit.toUInt32
  | .listening server filter notes =>
    printErrors notes
    listen (← IO.getStdin) (← IO.getStdout) filter server
    return 0

def programName : IO String := do
  return String.ofList (((toString (← IO.appPath)).toList.splitOn '/').getLastD [])

end DiagramReview.Machine

def main (words : List String) : IO UInt32 := do
  if (← DiagramReview.Machine.programName) = "mermaid-ls" then DiagramReview.Machine.serve words
  else DiagramReview.Machine.check words
