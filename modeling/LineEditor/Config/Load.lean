import LineEditor.Config.Settings
import LineEditor.Event

/-! Finding and loading the configuration. A file that cannot be read or understood leaves all settings
as they are by default, and never stands in the way of a session. -/
namespace LineEditor.Config

structure Environment where
  home : Option String
  /-- The directory of the user in the records of the system, for want of another one. -/
  accountHome : Option String
  /-- The directory for the configuration of all programs. Only an absolute path counts. -/
  configHome : Option String
  deriving DecidableEq, Repr

def fileName : String := "deepline.toml"

/-- The directory of the user. An empty one does not count. -/
def userHome? (e : Environment) : Option String :=
  (e.home.filter (!·.isEmpty)).or e.accountHome

def directory? (e : Environment) : Option String :=
  (e.configHome.filter Path.isAbsolute).or ((userHome? e).map (Path.join · ".config"))

/-- A file in the working directory goes before the one of the user. -/
def discover (e : Environment) (files : FileTree) : String :=
  if files.has fileName then fileName
  else match directory? e with
    | some directory => Path.join (Path.join directory "deepline") fileName
    | none => fileName

structure Loaded where
  settings : Settings
  raw : Option String
  source : Option String
  deriving DecidableEq, Repr

namespace Loaded

def default : Loaded :=
  ⟨.default, none, none⟩

def ofFile (files : FileTree) (path : String) : Loaded × Event :=
  match files.readText path with
  | .error _ => (default, .configAbsent path)
  | .ok text =>
    match Settings.ofText? text with
    | some settings => (⟨settings, text, path⟩, .configLoaded path)
    | none => (default, .configRejected path)

def load (e : Environment) (files : FileTree) (path : Option String) : Loaded × Event :=
  ofFile files (path.getD (discover e files))

end Loaded

def Settings.widthEvents (s : Settings) : List Event :=
  if s.shownWidth = s.numberWidth then [] else [.widthClamped s.numberWidth s.shownWidth]

end LineEditor.Config
