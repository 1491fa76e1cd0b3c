import FederatedLogin.Settings.Location

/-!
# The paths of files with settings

Paths are joined by slashes, so the files of a service stand at the paths that one reads off the
names of the directories: below `/etc` for the whole system (`systemPath_eq`), and for a person
below the directory that is named for settings (`recommendedPath_named`) or below the home directory
(`recommendedPath_home`). Without either it is the file in the working directory
(`recommendedPath_nowhere`).
-/

namespace FederatedLogin.Settings

/-- The path is not empty and does not end with a slash. -/
structure Plain (path : String) : Prop where
  nonempty : path ≠ ""
  no_slash : path.toList.getLast? ≠ some '/'

instance (path : String) : Decidable (Plain path) :=
  decidable_of_iff (path ≠ "" ∧ path.toList.getLast? ≠ some '/')
    ⟨fun h => ⟨h.1, h.2⟩, fun h => ⟨h.nonempty, h.no_slash⟩⟩

variable {base path service directory home : String} {named : Option String}

/-- The end of two paths is that of the second one. -/
theorem Plain.append (plain : Plain path) : Plain (base ++ "/" ++ path) where
  nonempty h := by
    have := congrArg String.toList h
    simp at this
  no_slash := by
    rw [String.toList_append, List.getLast?_append]
    cases last : path.toList.getLast? with
    | none =>
      have empty := List.getLast?_eq_none_iff.1 last
      exact absurd (String.toList_eq_nil_iff.1 empty) plain.nonempty
    | some c =>
      rw [Option.some_or, ← last]
      exact plain.no_slash

/-- A relative path is written behind a slash. -/
theorem joinPath_of_plain (plain : Plain base) (relative : isAbsolute path = false) :
    joinPath base path = base ++ "/" ++ path := by
  rw [joinPath, if_neg (by simp [relative, plain.nonempty]), if_neg plain.no_slash]

/-- The file of a service stands in the directory of its name. -/
theorem serviceFile_of_plain (plain : Plain directory) (name : Plain service)
    (relative : isAbsolute service = false) :
    serviceFile directory service = directory ++ "/" ++ service ++ "/config.toml" := by
  rw [serviceFile, joinPath_of_plain plain relative, joinPath_of_plain name.append (by decide),
    String.append_assoc]
  rfl

/-- The file for the whole system. -/
theorem systemPath_eq (name : Plain service) (relative : isAbsolute service = false) :
    systemPath service = "/etc/idlink/" ++ service ++ "/config.toml" :=
  serviceFile_of_plain (by decide) name relative

/-- The file of a person who names an absolute directory. -/
theorem recommendedPath_named (name : Plain service) (relative : isAbsolute service = false)
    (absolute : isAbsolute directory = true) (plain : Plain directory) (home : Option String) :
    recommendedPath (some directory) home service =
      directory ++ "/idlink/" ++ service ++ "/config.toml" := by
  have found : configDirectory? (some directory) home = some directory := by
    rw [configDirectory?, Option.filter_some_pos absolute, Option.some_or]
  have idlink : Plain "idlink" := by decide
  have slashes : "/idlink/" = "/" ++ "idlink" ++ "/" := rfl
  rw [recommendedPath, found, Option.elim_some, joinPath_of_plain plain (by decide),
    serviceFile_of_plain idlink.append name relative, slashes]
  simp only [String.append_assoc]

/-- A relative directory is not looked at. -/
theorem configDirectory?_of_relative (ignored : ∀ directory ∈ named, isAbsolute directory = false)
    (home : Option String) : configDirectory? named home = home.map (joinPath · ".config") := by
  have none_named : named.filter (isAbsolute ·) = none := by
    rw [Option.filter_eq_none_iff]
    exact fun directory mem => by rw [ignored directory mem]; decide
  rw [configDirectory?, none_named, Option.none_or]

/-- The file of a person who names no directory, or a relative one. -/
theorem recommendedPath_home (name : Plain service) (relative : isAbsolute service = false)
    (ignored : ∀ directory ∈ named, isAbsolute directory = false) (plain : Plain home) :
    recommendedPath named (some home) service =
      home ++ "/.config/idlink/" ++ service ++ "/config.toml" := by
  have found : configDirectory? named (some home) = some (home ++ "/" ++ ".config") := by
    rw [configDirectory?_of_relative ignored, Option.map_some,
      joinPath_of_plain plain (by decide)]
  have config : Plain ".config" := by decide
  have idlink : Plain "idlink" := by decide
  have slashes : "/.config/idlink/" = "/" ++ ".config" ++ "/" ++ "idlink" ++ "/" := rfl
  rw [recommendedPath, found, Option.elim_some, joinPath_of_plain config.append (by decide),
    serviceFile_of_plain idlink.append name relative, slashes]
  simp only [String.append_assoc]

/-- The file of a person without a directory. -/
theorem recommendedPath_nowhere (ignored : ∀ directory ∈ named, isAbsolute directory = false)
    (service : String) : recommendedPath named none service = "./config.toml" := by
  rw [recommendedPath, configDirectory?_of_relative ignored]
  rfl

end FederatedLogin.Settings
