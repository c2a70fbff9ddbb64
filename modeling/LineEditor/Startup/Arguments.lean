import LineEditor.Config.Load
import LineEditor.Options.Refusal

/-! What the program is called with. -/
namespace LineEditor.Startup

def defaultLogFile : String := "deepline.log"

def grammar : Options.Grammar where
  command := "deepline"
  about := "Line-oriented text editor"
  version := some "0.0.1"
  named := [
    ⟨"config", none, "CONFIG", .path, none,
      "Optional configuration file path (overrides discovery of `deepline.toml`)"⟩,
    ⟨"log-file", none, "LOG_FILE", .path, some defaultLogFile, "Log file, truncated at startup"⟩]
  positionals := [
    ⟨"path", "PATH", .path, false,
      "Optional file to edit. A path that does not exist yet starts an empty buffer that writes to it"⟩]

structure Arguments where
  path : Option String
  config : Option String
  logFile : String
  deriving DecidableEq, Repr

def Arguments.ofValues (v : Options.Values) : Arguments :=
  ⟨v.text? "path", v.text? "config", (v.text? "log-file").getD defaultLogFile⟩

def Arguments.read (words : List String) : Except Options.Stop Arguments :=
  (grammar.read words).map ofValues

def versionLine : String :=
  grammar.command ++ " " ++ grammar.version.getD "" ++ "\n"

end LineEditor.Startup
