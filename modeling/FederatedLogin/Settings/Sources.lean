import FederatedLogin.Settings.Basic
import FederatedLogin.Settings.Fit
import FederatedLogin.Settings.Location
import FederatedLogin.Settings.Toml.Document
import FederatedLogin.Settings.Variable

/-!
# Sources of settings

The settings of a service come from files and from environment variables. Each source is laid over
the ones before it: the defaults, which are written down like any other settings, the file for the
whole system, the file of a person, the file in the working directory, and the variables.
-/

namespace FederatedLogin.Settings

open Json

/-! ## Defaults -/

mutual

/-- What a source says in which a value is written. `null` is not written at all. -/
def Entry.ofValue? : Value → Option Entry
  | .null => none
  | .bool b => some (.flag b)
  | .integer n => some (.integer n)
  | .fraction _ => some .fraction
  | .string s => some (.text s)
  | .array items => some (.list (itemEntries items))
  | .object members => some (.table (memberEntries members))

/-- What the items of an array say. -/
def itemEntries : List Value → List Entry
  | [] => []
  | v :: vs => (Entry.ofValue? v).toList ++ itemEntries vs

/-- What the members of an object say. -/
def memberEntries : List (String × Value) → List (String × Entry)
  | [] => []
  | (name, v) :: rest =>
    (Entry.ofValue? v).elim (memberEntries rest) (put name · (memberEntries rest))

end

/-- The lowest layer: the settings that are built in. -/
def defaults (build : Build) : List Entry := (Entry.ofValue? (standard build).toValue).toList

/-! ## Layers -/

/-- The settings of the texts of files, each laid over the ones before it, with the defaults of the
build below and environment variables above them. -/
def ofSources (build : Build) (texts : List String) (environment : List (String × String)) :
    Fitted Settings := do
  let layers ← texts.mapM fun text => (Toml.parse text).elim (fault .malformed) .ok
  let v ← (shape build).fit (layered (defaults build ++ layers ++ [ofVariables environment]))
  (ofValue? v).elim (fault .wrongKind) .ok

/-- The service as it was built, and where it finds the sources of its settings. -/
structure Surroundings where
  build : Build
  /-- The text of the file at a path, if there is one. -/
  file : String → Option String
  /-- The directory that is named for settings of a person. -/
  directory : Option String
  /-- The home directory of the person, if there is one. -/
  home : Option String
  environment : List (String × String)

/-- The files with settings of a service, the one that counts most last. -/
def Surroundings.paths (s : Surroundings) (service : String) : List String :=
  [systemPath service, recommendedPath s.directory s.home service, localPath]

/-- The settings of a service. -/
def Surroundings.load (s : Surroundings) (service : String) : Fitted Settings :=
  ofSources s.build ((s.paths service).filterMap s.file) s.environment

/-- The settings in one file. -/
def Surroundings.loadFile (s : Surroundings) (path : String) : Fitted Settings :=
  ofSources s.build (s.file path).toList s.environment

end FederatedLogin.Settings
