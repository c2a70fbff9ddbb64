import LineEditor.Error

/-! What the editor reports about its own work. An event says what happened; its record is the form in
which it is logged. Events name files and count lines and bytes, but hold no text of the document. -/
namespace LineEditor

inductive Level where
  | trace
  | debug
  | info
  | warn
  | error
  deriving DecidableEq, Repr

def Level.name : Level → String
  | trace => "TRACE"
  | debug => "DEBUG"
  | info => "INFO"
  | warn => "WARN"
  | error => "ERROR"

inductive ExitReason where
  | quit
  | endOfInput
  deriving DecidableEq, Repr

def ExitReason.name : ExitReason → String
  | quit => "Quit"
  | endOfInput => "EndOfInput"

inductive Event where
  | rangeParsed (range : LineRange) (moved : Option Nat)
  | rangeRejected (e : AddressError) (moved : Option Nat)
  | bareRange (depth : Nat) (range : LineRange)
  | nestingRejected (depth : Nat)
  | spliced (range : LineRange) (inserted count : Nat) (cursor : Option Nat)
  | rangeSpliced (depth : Nat) (range : LineRange) (replaced : Nat)
  | commandInvoked (depth : Nat) (command : String) (arguments lines : Nat)
  | fileRead (file : String) (size lines : Nat)
  | fileReadFailed (file : String) (e : IoError)
  | mixedEndings (file : String)
  | fileWritten (file : String) (size lines : Nat)
  | fileWriteFailed (file : String) (e : IoError)
  | commandFailed (e : CommandError)
  | sessionEnded (reason : ExitReason) (commands failures lines : Nat)
  | configAbsent (path : String)
  | configLoaded (path : String)
  | configRejected (path : String)
  | widthClamped (raw clamped : Nat)
  deriving DecidableEq, Repr

structure Record where
  level : Level
  target : String
  name : String
  fields : List (String × String)
  deriving DecidableEq, Repr

def optionalNumber : Option Nat → String
  | none => "None"
  | some n => s!"Some({n})"

namespace Event

private def bounds (range : LineRange) : List (String × String) :=
  [("start", toString range.start), ("end", toString range.stop)]

private def fileSize (file : String) (size lines : Nat) : List (String × String) :=
  [("file", file), ("size_bytes", toString size), ("line_count", toString lines)]

def record : Event → Record
  | rangeParsed range moved =>
    ⟨.debug, "range", "range_parsed", bounds range ++ [("cursor_update", optionalNumber moved)]⟩
  | rangeRejected e moved =>
    ⟨.debug, "range", "range_rejected",
      [("error", e.message), ("cursor_update", optionalNumber moved)]⟩
  | bareRange depth range =>
    ⟨.debug, "dispatch", "bare_range", ("depth", toString depth) :: bounds range⟩
  | nestingRejected depth =>
    ⟨.debug, "dispatch", "range_nesting_rejected", [("depth", toString depth)]⟩
  | spliced range inserted count cursor =>
    ⟨.trace, "text.buffer", "splice",
      bounds range ++ [("inserted", toString inserted), ("len", toString count),
        ("cursor", optionalNumber cursor)]⟩
  | rangeSpliced depth range replaced =>
    ⟨.debug, "dispatch", "range_spliced",
      ("depth", toString depth) :: bounds range ++ [("replaced", toString replaced)]⟩
  | commandInvoked depth command arguments lines =>
    ⟨.debug, "dispatch", "command_invoked",
      [("depth", toString depth), ("command", command), ("args", toString arguments),
        ("lines", toString lines)]⟩
  | fileRead file size lines => ⟨.debug, "io", "file_read_ok", fileSize file size lines⟩
  | fileReadFailed file e =>
    ⟨.error, "io", "file_read_error", [("file", file), ("error", e.message)]⟩
  | mixedEndings file => ⟨.warn, "io", "mixed_line_endings_detected", [("file", file)]⟩
  | fileWritten file size lines => ⟨.debug, "io", "file_write_ok", fileSize file size lines⟩
  | fileWriteFailed file e =>
    ⟨.error, "io", "file_write_error", [("file", file), ("error", e.message)]⟩
  | commandFailed e => ⟨.debug, "runtime", "command_failed", [("error", e.message)]⟩
  | sessionEnded reason commands failures lines =>
    ⟨.info, "runtime", "session_end",
      [("reason", reason.name), ("commands", toString commands), ("failures", toString failures),
        ("lines", toString lines)]⟩
  | configAbsent path => ⟨.info, "config", "config_absent_using_defaults", [("path", path)]⟩
  | configLoaded path => ⟨.info, "config", "config_loaded", [("path", path)]⟩
  | configRejected path => ⟨.warn, "config", "config_parse_failed_using_defaults", [("path", path)]⟩
  | widthClamped raw clamped =>
    ⟨.info, "config", "print_number_width_clamped",
      [("raw", toString raw), ("clamped", toString clamped)]⟩

end Event
end LineEditor
