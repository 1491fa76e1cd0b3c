/-!
# Where settings are kept

The files that may hold the settings of a service. A path is joined to another one by a slash,
unless it is absolute and stands for itself.
-/

namespace FederatedLogin.Settings

/-- The path starts at the root. -/
def isAbsolute (path : String) : Bool := "/".toList.isPrefixOf path.toList

/-- A path inside another one. -/
def joinPath (base path : String) : String :=
  if isAbsolute path ∨ base = "" then path
  else if base.toList.getLast? = some '/' then base ++ path
  else base ++ "/" ++ path

/-- The file with settings in the working directory. -/
def localPath : String := "./config.toml"

/-- The directory for settings of a person: the one that is named, if it is absolute, and otherwise
one in the home directory. -/
def configDirectory? (named home : Option String) : Option String :=
  (named.filter (isAbsolute ·)).or (home.map (joinPath · ".config"))

/-- The file with the settings of a service in a directory. -/
def serviceFile (directory service : String) : String :=
  joinPath (joinPath directory service) "config.toml"

/-- The file in which a person is to keep the settings of a service. Without a directory for them,
it is the one in the working directory. -/
def recommendedPath (named home : Option String) (service : String) : String :=
  (configDirectory? named home).elim localPath fun directory =>
    serviceFile (joinPath directory "idlink") service

/-- The file with the settings of a service for the whole system. -/
def systemPath (service : String) : String := serviceFile "/etc/idlink" service

end FederatedLogin.Settings
