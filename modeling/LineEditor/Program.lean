import LineEditor.Session
import LineEditor.Startup.Arguments
import LineEditor.Startup.LogFilter

/-! The whole program: what it is called with, what it reads, and what it leaves behind.

Before the first prompt it understands its arguments, begins its log, loads the configuration and the
file to edit. Then it is a session, and how that ends decides the exit code. -/
namespace LineEditor

/-! ### The log

An old log is taken away when the program begins, and an empty file is made in its place, in directories
that are made as well if need be. -/

namespace Startup

/-- Where the log is kept. A path that does not end with a name stands for a directory, in which the
log has its usual name. -/
def logPath (path usual : String) : String :=
  Path.join (Path.parent path) ((Path.fileName? path).getD usual)

def beginLog (files : FileTree) (path usual : String) : FileTree × Option IoError :=
  let files := files.removeFile path
  let log := logPath path usual
  match files.createFile log with
  | .ok files => (files, none)
  | .error _ =>
    let files := files.makeDirectories (Path.parent log)
    match files.createFile log with
    | .ok files => (files, none)
    | .error e => (files, some e)

end Startup

/-! ### From call to exit -/

structure Invocation where
  arguments : List String
  environment : Config.Environment
  logFilter : String

structure Report where
  code : Nat
  stdout : ByteArray
  stderr : String
  files : FileTree

structure Opening where
  session : Session
  desk : Desk
  remarks : String

namespace Program

def welcome : String :=
  "Welcome to deepline\n\nType `h` to get more help.\n\n"

/-- The document to begin with, and whether the file to edit could not be opened. A file that does not
exist is made when the document is written. -/
def openFile (files : FileTree) : Option String → Buffer × Bool
  | none => (.empty, false)
  | some path =>
    match files.readText path with
    | .ok text =>
      let loaded := Text.Loaded.ofText text
      ({ Buffer.ofLines loaded.lines with ending := loaded.ending, file := some path }, false)
    | .error .notFound => ({ Buffer.empty with file := some path }, false)
    | .error _ => (.empty, true)

def earlyReport (files : FileTree) (code : Nat) (stdout stderr : String) : Report :=
  ⟨code, stdout.toUTF8, stderr, files⟩

def openWith (invocation : Invocation) (arguments : Startup.Arguments) (files : FileTree)
    (remarks : String) : Opening :=
  let (loaded, _) := Config.Loaded.load invocation.environment files arguments.config
  let settings := loaded.settings
  let (buffer, failed) := openFile files arguments.path
  let sink := if settings.welcome then (Sink.unlimited.write welcome).1 else .unlimited
  let remark := if failed then "error: could not open " ++ arguments.path.getD "" ++ "\n" else ""
  { session := ⟨{ Registry.builtin with numberWidth := settings.shownWidth }, settings.prompt⟩
    desk := ⟨buffer, files, sink⟩
    remarks := remarks ++ remark }

def start (invocation : Invocation) (files : FileTree) : Except Report Opening :=
  match Startup.Arguments.read invocation.arguments with
  | .error .help => .error (earlyReport files 0 Startup.grammar.usage "")
  | .error .version => .error (earlyReport files 0 Startup.versionLine "")
  | .error (.failed e) => .error (earlyReport files 2 "" (Startup.grammar.refusal e))
  | .ok arguments =>
    match Startup.beginLog files arguments.logFile Startup.defaultLogFile with
    | (files, some e) =>
      .error (earlyReport files 101 "" ("error: could not open the log: " ++ e.message ++ "\n"))
    | (files, none) =>
      let filter := Startup.LogFilter.read invocation.logFilter
      if filter.usable then .ok (openWith invocation arguments files filter.remarks)
      else
        .error (earlyReport files 101 ""
          (filter.remarks ++ "error: a directive is torn inside a character\n"))

def streamRemark (e : StreamError) : String :=
  "Error: terminal read/write failed\n\nCaused by:\n    " ++ e.message ++ "\n"

/-- Ends the program after its session. When the input has ended the prompt still stands on the last
line of the display, which is then ended as well. -/
def finish (opening : Opening) (ended : Ended) : Report :=
  let desk := ended.desk
  match ended.result with
  | .ok .quit => ⟨0, desk.sink.written, opening.remarks, desk.files⟩
  | .ok .endOfInput => ⟨0, (desk.sink.write "\n").1.written, opening.remarks, desk.files⟩
  | .error e => ⟨1, desk.sink.written, opening.remarks ++ streamRemark e, desk.files⟩

def run (invocation : Invocation) (input : ByteArray) (files : FileTree) : Report :=
  match start invocation files with
  | .error report => report
  | .ok opening => finish opening (opening.session.run input opening.desk)

end Program
end LineEditor
