import LineEditor.Program

/-! The program at a terminal. Everything is decided by `Program` and `Session`; here their file trees
are filled from the disk with what a step looks at, and what a step has changed is stored again. -/
namespace LineEditor.Terminal

def pathOf (location : Location) : String :=
  "/" ++ String.intercalate "/" location

def look (location : Location) : IO (Option Entry) := do
  try
    return some (.file (← IO.FS.readBinFile (pathOf location)))
  catch _ =>
    try
      let resolved ← IO.FS.realPath (pathOf location)
      return if ← resolved.isDir then some .directory else none
    catch _ => return none

def observe (path : String) (t : FileTree) : IO FileTree := do
  let mut t := t
  let mut place := t.origin path
  for name in Path.segments path do
    if name = ".." then
      place := place.dropLast
    else if name ≠ "." then
      place := place ++ [name]
      t := match ← look place with
        | some entry => t.put place entry
        | none => t.remove place
  return t

def store (before after : FileTree) : IO Unit := do
  for (location, entry) in before.entries do
    if (after.lookup location).isNone && entry != .directory then
      IO.FS.removeFile (pathOf location)
  for (location, entry) in after.entries.reverse do
    if before.lookup location != some entry then
      match entry with
      | .directory => IO.FS.createDir (pathOf location)
      | .file content => IO.FS.writeBinFile (pathOf location) content

def consulted (events : List Event) : List String :=
  events.filterMap fun event =>
    match event with
    | .fileRead path _ _ | .fileReadFailed path _ | .fileWritten path _ _
    | .fileWriteFailed path _ => some path
    | _ => none

def eventsOf : Except Ended Progress → List Event
  | .ok p => p.events
  | .error ended => ended.events

def filesOf : Except Ended Progress → FileTree
  | .ok p => p.desk.files
  | .error ended => ended.desk.files

def flush (output : IO.FS.Stream) (p : Progress) : IO Progress := do
  output.write p.desk.sink.written
  output.flush
  return { p with desk := { p.desk with sink := .unlimited }, events := [] }

partial def readPiece (input : IO.FS.Stream) (read : ByteArray) : IO ByteArray := do
  let byte ← input.read 1
  if byte.isEmpty then return read
  if byte.toList.contains 10 then return read ++ byte
  readPiece input (read ++ byte)

/-- A session from prompt to prompt. An answer is worked out twice: first to learn which files it asks
for, and then with these files as they are. -/
partial def converse (session : Session) (input output : IO.FS.Stream) (p : Progress) :
    IO Ended := do
  match session.ask p with
  | .error ended => return ended
  | .ok p =>
    let p ← flush output p
    let piece ← readPiece input .empty
    if piece.isEmpty then return p.close .endOfInput
    let mut files := p.desk.files
    for path in consulted (eventsOf (session.answer p piece.toList)) do
      files ← observe path files
    let answered := session.answer { p with desk := { p.desk with files } } piece.toList
    store files (filesOf answered)
    match answered with
    | .error ended => return ended
    | .ok p => converse session input output p

def observeStart (invocation : Invocation) (t : FileTree) : IO FileTree := do
  match Startup.Arguments.read invocation.arguments with
  | .error _ => return t
  | .ok arguments =>
    let mut t ← observe arguments.logFile t
    t ← observe (Startup.logPath arguments.logFile Startup.defaultLogFile) t
    for path in arguments.path.toList ++ arguments.config.toList do
      t ← observe path t
    t ← observe Config.fileName t
    observe (Config.discover invocation.environment t) t

def emptyTree (here : Location) : FileTree :=
  (List.range here.length).foldl (fun t n => t.put (here.take (n + 1)) .directory) ⟨here, []⟩

def run (arguments : List String) : IO UInt32 := do
  let here := Path.segments (← IO.currentDir).toString
  let environment := ⟨← IO.getEnv "HOME", none, ← IO.getEnv "XDG_CONFIG_HOME"⟩
  let invocation := ⟨arguments, environment, ""⟩
  let files ← observeStart invocation (emptyTree here)
  let output ← IO.getStdout
  let errors ← IO.getStderr
  let report ← match Program.start invocation files with
    | .error report => do
      store files report.files
      pure report
    | .ok opening => do
      store files opening.desk.files
      errors.putStr opening.remarks
      let ended ← converse opening.session (← IO.getStdin) output (.start opening.desk)
      pure (Program.finish { opening with remarks := "" } ended)
  output.write report.stdout
  output.flush
  errors.putStr report.stderr
  return report.code.toUInt32

end LineEditor.Terminal

def main (arguments : List String) : IO UInt32 :=
  LineEditor.Terminal.run arguments
