import DiagramReview.Complexity.Level
import DiagramReview.Files.Tree
import DiagramReview.Log.Record
import DiagramReview.Settings.File

/-!
The settings in force: the standard ones, changed by files and by what a command gives.
-/

namespace DiagramReview

structure Config where
  thresholds : Thresholds := {}
  sources : List String := []
  logLevel : String := "info"
  deriving DecidableEq, Repr

inductive LoadError where
  | unreadable (path : String) (cause : ReadError)
  | invalid (path : String) (cause : SettingsError)
  deriving Repr

namespace LoadError

def message : LoadError → String
  | unreadable path _ => "Failed to read config file " ++ path
  | invalid path _ => "Invalid config file " ++ path

end LoadError

namespace Overrides

def chosen (given : Option UInt32) (standing : UInt32) : UInt32 :=
  match given with
  | some n => if n = 0 then standing else n
  | none => standing

def apply (o : Overrides) (t : Thresholds) : Thresholds :=
  ⟨chosen o.simple t.simple, chosen o.moderate t.moderate⟩

def ofFile (files : Files) (path : String) : Except LoadError Overrides :=
  match files.read path with
  | .error e => .error (.unreadable path e)
  | .ok s => (ofText s).mapError (.invalid path)

end Overrides

namespace Config

def warnings (c : Config) : List LogRecord :=
  if c.thresholds.inverted then
    [⟨.warn, .config, "moderate threshold (" ++ toString c.thresholds.moderate ++
      ") should exceed simple threshold (" ++ toString c.thresholds.simple ++ ")"⟩]
  else []

def withFile (c : Config) (path : String) (o : Overrides) : Config :=
  { c with thresholds := o.apply c.thresholds, sources := c.sources ++ [path] }

def ofFiles (files : Files) (paths : List String) : Except LoadError Config :=
  paths.foldlM (fun c path => do return c.withFile path (← Overrides.ofFile files path)) {}

def fileRecords (files : Files) (paths : List String) : List LogRecord :=
  ((paths.takeWhile fun path => (Overrides.ofFile files path).isOk).map fun path =>
    ⟨.debug, .config, "loaded configuration from " ++ path⟩) ++
  match ofFiles files paths with
  | .ok c => c.warnings
  | .error _ => []

def override (c : Config) (o : Overrides) : Config := { c with thresholds := o.apply c.thresholds }

def projectFile : String := ".mermaid-check.toml"

def projectPath? (files : Files) (start : String) : Option String :=
  ((Path.ancestors start).map (Path.join · projectFile)).find? files.isFile

def userPath (home : String) : String :=
  Path.join (Path.join home "mermaid-check") "config.toml"

def paths (files : Files) (home : Option String) (start : String) : Option String → List String
  | some path => [path]
  | none =>
    ((home.map userPath).filter files.isFile).toList ++ (projectPath? files start).toList

def candidates (home : Option String) (start : String) : List String :=
  (home.map userPath).toList ++ (Path.ancestors start).map (Path.join · projectFile)

def load (files : Files) (home : Option String) (start : String) (named : Option String) :
    Except LoadError Config :=
  ofFiles files (paths files home start named)

end Config

end DiagramReview
