import FederatedLogin.Proofs.Settings.Documents
import FederatedLogin.Proofs.Settings.Location
import FederatedLogin.Proofs.Settings.Sections
import FederatedLogin.Settings.Sources

/-!
# Which source a setting comes from

Every setting comes from the source that counts most of those which define it. The sources of a
service are its environment variables, its files from the working directory up to the whole system,
and the defaults below them all; each gives tables where there are sections.

* What several layers say at a path is what the highest of them says (`emptied_said?`), for the
  defaults as for any other layer. So each leaf of the settings comes from the highest source that
  defines it (`setting_of_ofEntries`).
* Settings are loaded whenever what the highest source says at each leaf fits, and a provider that
  any source names has its credentials from some source (`ofEntries_iff`).
* It does not matter in which of its places a file stands, nor whether it stands in several of them
  (`load_of_places`).

All this is `precedence`, for a service with its three places for files.
-/

namespace FederatedLogin.Settings

open Json

variable {build : Build} {sources : List Entry} {settings : Settings} {path : List String}
  {leaf : Leaf}

/-! ## The defaults -/

mutual

theorem ordered_ofValue? : ∀ {v : Value} {e : Entry}, Entry.ofValue? v = some e → e.Ordered
  | .null, _, h => nomatch h
  | .bool _, _, rfl => .single nofun
  | .integer _, _, rfl => .single nofun
  | .fraction _, _, rfl => .single nofun
  | .string _, _, rfl => .single nofun
  | .array _, _, rfl => ordered_list _
  | .object members, _, rfl => ordered_memberEntries members

/-- The members of an object are written in the order of their names. -/
theorem ordered_memberEntries : ∀ members : List (String × Value),
    (Entry.table (memberEntries members)).Ordered
  | [] => ordered_empty
  | (name, v) :: rest => by
    have ordered := ordered_memberEntries rest
    rw [memberEntries]
    cases written : Entry.ofValue? v with
    | none => exact ordered
    | some e => exact ordered.put name (ordered_ofValue? written)

end

theorem ordered_defaults (build : Build) : ∀ e ∈ defaults build, e.Ordered := fun _ mem =>
  ordered_ofValue? (Option.mem_toList.1 mem)

/-- The defaults of every build give tables on the way to the settings. -/
theorem tablesOn_defaults (build : Build) :
    ∀ leaf ∈ (shape build).leaves, ∀ e ∈ defaults build, e.TablesOn leaf.path := by
  cases build <;> decide

/-- What the first of some sources say at the end of a path that says anything there. -/
def said? (sources : List Entry) (path : List String) : Option Entry :=
  sources.findSome? (·.at? path)

/-- The defaults that are written down are the settings that are built in. -/
theorem value_defaults (build : Build) : ∀ leaf ∈ (shape build).leaves,
    (said? (defaults build) leaf.path).map Entry.value =
      (standard build).toValue.at? leaf.path := by
  cases build
  · exact List.map_inj_left.1 rfl
  · exact List.map_inj_left.1 rfl

/-- What some sources say at each leaf fits the leaf. -/
def Fit (build : Build) (sources : List Entry) : Prop :=
  ∀ leaf ∈ (shape build).leaves, ∀ e, said? sources leaf.path = some e →
    ∃ v, leaf.shape.fit e = .ok v

/-- Sources fit if a look at each leaf finds no fault. -/
theorem fit_of_isOk (checked : (shape build).leaves.all (fun leaf =>
    (said? sources leaf.path).all fun e => (leaf.shape.fit e).isOk) = true) :
    Fit build sources := by
  intro leaf mem e said
  have fits := List.all_eq_true.1 checked leaf mem
  rw [said, Option.all_some] at fits
  cases fit : leaf.shape.fit e with
  | ok v => exact ⟨v, rfl⟩
  | error f =>
    rw [fit] at fits
    cases fits

/-- The defaults of every build fit. -/
theorem fit_defaults (build : Build) : Fit build (defaults build) := by
  cases build
  · exact fit_of_isOk rfl
  · exact fit_of_isOk rfl

/-- Where the defaults say nothing, nothing is assumed. -/
theorem assumesNothing_of_defaults (build : Build) : ∀ leaf ∈ (shape build).leaves,
    said? (defaults build) leaf.path = none → (shape build).assumesNothing leaf.path = true := by
  have checked : (shape build).leaves.all (fun leaf =>
      (said? (defaults build) leaf.path).isSome || (shape build).assumesNothing leaf.path)
        = true := by
    cases build <;> rfl
  intro leaf mem silent
  have assumes := List.all_eq_true.1 checked leaf mem
  rwa [silent] at assumes

/-- Only leaves have to be there, of a section about which the defaults say nothing. -/
theorem required_of_shape (build : Build) : ∀ r ∈ (shape build).required,
    (∃ leaf ∈ (shape build).leaves, leaf.path = r.1 ++ [r.2]) ∧ r.1 ≠ [] ∧
      (said? (defaults build) r.1).isNone ∧
        (said? (defaults build) (r.1 ++ [r.2])).isNone := by
  cases build <;> decide

/-- What the settings assume where nothing is given fits. -/
theorem assumesWell_shape (build : Build) : (shape build).assumesWell = true := by
  cases build <;> rfl

theorem leaf_path_ne_nil (build : Build) : ∀ leaf ∈ (shape build).leaves, leaf.path ≠ [] := by
  cases build <;> decide

/-! ## Sources over the defaults -/

/-- Every source gives tables on the way to the settings. -/
def GivesTables (build : Build) (sources : List Entry) : Prop :=
  ∀ source ∈ sources, ∀ leaf ∈ (shape build).leaves, source.TablesOn leaf.path

instance (build : Build) (sources : List Entry) : Decidable (GivesTables build sources) :=
  inferInstanceAs (Decidable
    (∀ source ∈ sources, ∀ leaf ∈ (shape build).leaves, source.TablesOn leaf.path))

/-- The settings that sources and the defaults below them give. The first source counts most. -/
def ofEntries (build : Build) (sources : List Entry) : Fitted Settings := do
  let v ← (shape build).fit (layered (defaults build ++ sources.reverse))
  (ofValue? v).elim (fault .wrongKind) .ok

/-- Sources that give ordered tables. -/
structure WellFormed (build : Build) (sources : List Entry) : Prop where
  ordered : ∀ source ∈ sources, source.Ordered
  tables : GivesTables build sources

/-- What lower sources say counts where the higher ones are silent. -/
theorem said?_append (above below : List Entry) (path : List String) :
    said? (above ++ below) path = (said? above path).or (said? below path) := by
  rw [said?, List.findSome?_append]
  rfl

theorem WellFormed.layers (h : WellFormed build sources) (mem : leaf ∈ (shape build).leaves) :
    ∀ e ∈ defaults build ++ sources.reverse, e.Ordered ∧ e.TablesOn leaf.path := by
  refine List.forall_mem_append.2 ⟨fun e he => ?_, fun e he => ?_⟩
  · exact ⟨ordered_defaults build e he, tablesOn_defaults build leaf mem e he⟩
  · exact ⟨h.ordered e (List.mem_reverse.1 he), h.tables e (List.mem_reverse.1 he) leaf mem⟩

/-- What stands at a path on the way to a leaf is what the first source says there, or else the
default. -/
theorem emptied_said? (h : WellFormed build sources) (mem : leaf ∈ (shape build).leaves)
    {rest : List String} (on_way : leaf.path = path ++ rest) (inside : path ≠ []) :
    ((layered (defaults build ++ sources.reverse)).at? path).map Entry.emptied =
      ((said? sources path).or (said? (defaults build) path)).map Entry.emptied := by
  have layers : ∀ e ∈ defaults build ++ sources.reverse, e.Ordered ∧ e.TablesOn path := fun e he =>
    (h.layers mem e he).imp_right fun tables => (on_way ▸ tables).of_append
  rw [at?_layered layers inside, ← said?_append, List.reverse_append, List.reverse_reverse]
  rfl

theorem emptied_said?_leaf (h : WellFormed build sources) (mem : leaf ∈ (shape build).leaves) :
    ((layered (defaults build ++ sources.reverse)).at? leaf.path).map Entry.emptied =
      ((said? sources leaf.path).or (said? (defaults build) leaf.path)).map Entry.emptied :=
  emptied_said? h mem (List.append_nil leaf.path).symm (leaf_path_ne_nil build leaf mem)

/-- Of what has to be there in a section, and of the section, the sources say what stands there. -/
theorem isSome_said?_of_required (h : WellFormed build sources) {r : List String × String}
    (mem : r ∈ (shape build).required) :
    ((layered (defaults build ++ sources.reverse)).at? r.1).isSome = (said? sources r.1).isSome ∧
      ((layered (defaults build ++ sources.reverse)).at? (r.1 ++ [r.2])).isSome =
        (said? sources (r.1 ++ [r.2])).isSome := by
  obtain ⟨⟨leaf, is_leaf, on_way⟩, inside, silent, silent_leaf⟩ := required_of_shape build r mem
  rw [Option.isNone_iff_eq_none] at silent silent_leaf
  have section_said := congrArg Option.isSome (emptied_said? h is_leaf on_way inside)
  have leaf_said := congrArg Option.isSome (emptied_said? h is_leaf
    (on_way.trans (List.append_nil _).symm) (on_way ▸ leaf_path_ne_nil build leaf is_leaf))
  rw [silent, Option.or_none] at section_said
  rw [silent_leaf, Option.or_none] at leaf_said
  simp only [Option.isSome_map] at section_said leaf_said
  exact ⟨section_said, leaf_said⟩

theorem WellFormed.tablesOn_layered (h : WellFormed build sources) :
    ∀ leaf ∈ (shape build).leaves,
      (layered (defaults build ++ sources.reverse)).TablesOn leaf.path :=
  fun _ mem => Settings.tablesOn_layered (h.layers mem)

/-- What fits stands for settings, which hold at each leaf what it says. -/
theorem WellFormed.exists_settings (h : WellFormed build sources) {v : Value}
    (fits : (shape build).fit (layered (defaults build ++ sources.reverse)) = .ok v) :
    ∃ settings, ofValue? v = some settings ∧
      ∀ leaf ∈ (shape build).leaves, settings.toValue.at? leaf.path = v.at? leaf.path :=
  Settings.faithful build v (holds_of_fit rfl (assumesWell_shape build) h.tablesOn_layered fits)

/-- Each leaf of the settings is what the first source says there, or else the default. -/
theorem setting_of_ofEntries (h : WellFormed build sources)
    (loaded : ofEntries build sources = .ok settings) (mem : leaf ∈ (shape build).leaves) :
    settings.toValue.at? leaf.path =
      ((said? sources leaf.path).map Entry.value).or ((standard build).toValue.at? leaf.path) := by
  obtain ⟨v, fits, read⟩ := bind_eq_ok_iff.1 loaded
  obtain ⟨a, read_a, same⟩ := h.exists_settings fits
  rw [read_a] at read
  cases read
  have stands := emptied_said?_leaf h mem
  -- No default is filled in on reading: where no layer says anything, nothing is assumed.
  have value : v.at? leaf.path =
      ((layered (defaults build ++ sources.reverse)).at? leaf.path).map Entry.value := by
    refine at?_fit rfl fits mem (h.tablesOn_layered leaf mem) fun silent => ?_
    rw [silent] at stands
    have none_said := Option.map_eq_none_iff.1 stands.symm
    exact assumesNothing_of_defaults build leaf mem (Option.or_eq_none_iff.1 none_said).2
  have values := congrArg (Option.map Entry.value) stands
  simp only [Option.map_map, Function.comp_def, value_emptied] at values
  rw [same leaf mem, value, values, Option.map_or, value_defaults build leaf mem]

/-- Settings are loaded just when what the first source says at each leaf fits the leaf, and what
has to be there in a section that any source names is given by some source. -/
theorem ofEntries_iff (h : WellFormed build sources) :
    (∃ settings, ofEntries build sources = .ok settings) ↔
      Fit build sources ∧
        ∀ r ∈ (shape build).required,
          (said? sources r.1).isSome → (said? sources (r.1 ++ [r.2])).isSome := by
  constructor
  · rintro ⟨settings, loaded⟩
    obtain ⟨v, fits, -⟩ := bind_eq_ok_iff.1 loaded
    refine ⟨fun leaf mem e said => ?_, fun r mem said => ?_⟩
    · have stands := emptied_said?_leaf h mem
      rw [said, Option.some_or] at stands
      obtain ⟨x, at_leaf, same⟩ := Option.map_eq_some_iff.1 stands
      have scalar := isScalar_of_mem_leaves mem
      obtain ⟨w, fit⟩ := leaves_of_fit rfl fits mem at_leaf
      rw [← fit_emptied_iff scalar, same, fit_emptied_iff scalar] at fit
      exact ⟨w, fit⟩
    · obtain ⟨section_said, leaf_said⟩ := isSome_said?_of_required h mem
      rw [← section_said] at said
      rw [← leaf_said]
      exact required_of_fit rfl fits h.tablesOn_layered mem said
  · -- What stands after the layers is what sources and defaults say, and each of these fits.
    rintro ⟨leaves, required⟩
    have ordered : (layered (defaults build ++ sources.reverse)).Ordered :=
      ordered_layered (List.forall_mem_append.2
        ⟨ordered_defaults build, fun e he => h.ordered e (List.mem_reverse.1 he)⟩)
    have readable :
        ∃ v, (shape build).fit (layered (defaults build ++ sources.reverse)) = .ok v := by
      refine fit_of_leaves rfl ordered h.tablesOn_layered (fun leaf mem x at_leaf => ?_)
        fun r mem said => ?_
      · have stands := emptied_said?_leaf h mem
        rw [at_leaf] at stands
        obtain ⟨e, said, same⟩ := Option.map_eq_some_iff.1 stands.symm
        obtain ⟨w, fit⟩ : ∃ w, leaf.shape.fit e = .ok w := by
          rcases Option.or_eq_some_iff.1 said with said | ⟨-, said⟩
          · exact leaves leaf mem e said
          · exact fit_defaults build leaf mem e said
        have scalar := isScalar_of_mem_leaves mem
        rw [← fit_emptied_iff scalar, same, fit_emptied_iff scalar] at fit
        exact ⟨w, fit⟩
      · obtain ⟨section_said, leaf_said⟩ := isSome_said?_of_required h mem
        rw [section_said] at said
        rw [leaf_said]
        exact required r mem said
    obtain ⟨v, fits⟩ := readable
    obtain ⟨settings, read, -⟩ := h.exists_settings fits
    exact ⟨settings, bind_eq_ok_iff.2 ⟨v, fits, by rw [read]; rfl⟩⟩

/-! ## Files -/

/-- Files are read one by one. The first that is no document is a fault. -/
theorem mapM_parse (texts : List String) :
    texts.mapM (fun text => (Toml.parse text).elim (fault .malformed) .ok) =
      (texts.mapM Toml.parse).elim (fault .malformed) .ok := by
  induction texts with
  | nil => rfl
  | cons text texts ih =>
    rw [List.mapM_cons, List.mapM_cons, ih]
    cases Toml.parse text with
    | none => rfl
    | some e => cases texts.mapM Toml.parse <;> rfl

theorem mapM_parse_replicate (text : String) (n : Nat) :
    (List.replicate (n + 1) text).mapM Toml.parse =
      (Toml.parse text).map (List.replicate (n + 1)) := by
  induction n with
  | zero =>
    rw [List.replicate_one, List.mapM_cons]
    cases Toml.parse text <;> rfl
  | succ n ih =>
    rw [List.replicate_succ, List.mapM_cons, ih]
    cases Toml.parse text <;> rfl

/-- The variables count more than the files, and of these the last one most. -/
theorem ofSources_eq (texts : List String) (environment : List (String × String)) :
    ofSources build texts environment =
      (texts.mapM Toml.parse).elim (fault .malformed) fun files =>
        ofEntries build (ofVariables environment :: files.reverse) := by
  rw [ofSources, mapM_parse]
  cases texts.mapM Toml.parse with
  | none => rfl
  | some files =>
    show _ = ofEntries build (ofVariables environment :: files.reverse)
    rw [ofEntries, List.reverse_cons, List.reverse_reverse, ← List.append_assoc]
    rfl

/-- A text that comes many times in a row counts once. -/
theorem ofSources_replicate (text : String) (n : Nat) (environment : List (String × String)) :
    ofSources build (List.replicate (n + 1) text) environment =
      ofSources build [text] environment := by
  rw [ofSources_eq, ofSources_eq, mapM_parse_replicate, ← List.replicate_one, mapM_parse_replicate]
  cases parsed : Toml.parse text with
  | none => rfl
  | some e =>
    show ofEntries build (ofVariables environment :: (List.replicate (n + 1) e).reverse) =
      ofEntries build (ofVariables environment :: [e])
    rw [ofEntries, ofEntries, List.reverse_cons, List.reverse_reverse, List.reverse_cons,
      List.reverse_singleton, ← List.append_assoc, ← List.append_assoc, layered_concat,
      layered_concat, layered_replicate (ordered_defaults build) (Toml.ordered_parse parsed)]

/-! ## Services -/

namespace Surroundings

variable {s : Surroundings} {service : String}

/-- What the file at a path says: nothing where there is no file, and `none` for a file that is no
document. -/
def fileEntries? (s : Surroundings) (path : String) : Option (List Entry) :=
  match s.file path with
  | none => some []
  | some text => (Toml.parse text).map ([·])

theorem mapM_eq_none_of_mem {α β : Type} {f : α → Option β} {a : α} {as : List α} (mem : a ∈ as)
    (nothing : f a = none) : as.mapM f = none := by
  induction mem with
  | head as =>
    rw [List.mapM_cons, nothing]
    rfl
  | tail b _ ih =>
    rw [List.mapM_cons, ih]
    cases f b <;> rfl

/-- The files that are found are read one by one. -/
theorem mapM_parse_eq (s : Surroundings) (paths : List String) :
    (paths.filterMap s.file).mapM Toml.parse = (paths.mapM s.fileEntries?).map List.flatten := by
  induction paths with
  | nil => rfl
  | cons path paths ih =>
    rw [List.filterMap_cons, List.mapM_cons]
    cases here : s.file path with
    | none =>
      have given : s.fileEntries? path = some [] := by rw [fileEntries?, here]
      rw [ih, given]
      cases paths.mapM s.fileEntries? <;> rfl
    | some text =>
      have given : s.fileEntries? path = (Toml.parse text).map ([·]) := by rw [fileEntries?, here]
      rw [List.mapM_cons, ih, given]
      cases Toml.parse text with
      | none => rfl
      | some e => cases paths.mapM s.fileEntries? <;> rfl

/-- A file is one source at most. -/
theorem reverse_fileEntries? {path : String} {files : List Entry}
    (given : s.fileEntries? path = some files) : files.reverse = files := by
  unfold fileEntries? at given
  cases here : s.file path with
  | none =>
    rw [here] at given
    cases given
    rfl
  | some text =>
    rw [here] at given
    obtain ⟨e, -, rfl⟩ := Option.map_eq_some_iff.1 given
    rfl

/-- What a file says is an ordered table. -/
theorem ordered_fileEntries? {path : String} {files : List Entry}
    (given : s.fileEntries? path = some files) : ∀ e ∈ files, e.Ordered := by
  unfold fileEntries? at given
  cases here : s.file path with
  | none =>
    rw [here] at given
    cases given
    exact nofun
  | some text =>
    rw [here] at given
    obtain ⟨e, parsed, rfl⟩ := Option.map_eq_some_iff.1 given
    exact List.forall_mem_singleton.2 (Toml.ordered_parse parsed)

/-- The variables count most, then the files in the working directory, of the person and for the
whole system. -/
theorem load_eq {here own system : List Entry} (of_here : s.fileEntries? localPath = some here)
    (of_own : s.fileEntries? (recommendedPath s.directory s.home service) = some own)
    (of_system : s.fileEntries? (systemPath service) = some system) :
    s.load service =
      ofEntries s.build (ofVariables s.environment :: (here ++ own ++ system)) := by
  have files : ((s.paths service).filterMap s.file).mapM Toml.parse =
      some (system ++ own ++ here) := by
    rw [mapM_parse_eq, paths, List.mapM_cons, List.mapM_cons, List.mapM_cons, of_system, of_own,
      of_here, List.append_assoc]
    exact congrArg some (by simp)
  have reversed : (system ++ own ++ here).reverse = here ++ own ++ system := by
    rw [List.reverse_append, List.reverse_append, reverse_fileEntries? of_here,
      reverse_fileEntries? of_own, reverse_fileEntries? of_system, List.append_assoc]
  rw [load, ofSources_eq, files, Option.elim_some, reversed]

/-- A file that is no document is a fault, in whichever of its places it stands. -/
theorem load_of_malformed {path : String} (mem : path ∈ s.paths service)
    (malformed : s.fileEntries? path = none) : s.load service = fault .malformed := by
  have none_parsed : ((s.paths service).filterMap s.file).mapM Toml.parse = none := by
    rw [mapM_parse_eq, Option.map_eq_none_iff]
    exact mapM_eq_none_of_mem mem malformed
  rw [load, ofSources_eq, none_parsed]
  rfl

/-- What is found where only one thing can be found. -/
theorem filterMap_eq_replicate {paths : List String} {file : String → Option String} {text : String}
    (only : ∀ path ∈ paths, file path = none ∨ file path = some text)
    (somewhere : ∃ path ∈ paths, file path = some text) :
    ∃ n, paths.filterMap file = List.replicate (n + 1) text := by
  obtain ⟨path, mem, here⟩ := somewhere
  have found : text ∈ paths.filterMap file := List.mem_filterMap.2 ⟨path, mem, here⟩
  refine ⟨(paths.filterMap file).length - 1, List.eq_replicate_iff.2 ⟨?_, fun other mem => ?_⟩⟩
  · have := List.length_pos_of_mem found
    omega
  · obtain ⟨path, mem, here⟩ := List.mem_filterMap.1 mem
    rcases only path mem with nothing | same
    · cases nothing.symm.trans here
    · exact Option.some.inj (here.symm.trans same)

/-- A file that stands in some of its places, and no other file in the rest of them, is loaded as if
it stood alone. -/
theorem load_of_places {text : String}
    (only : ∀ path ∈ s.paths service, s.file path = none ∨ s.file path = some text)
    (somewhere : ∃ path ∈ s.paths service, s.file path = some text) :
    s.load service = ofSources s.build [text] s.environment := by
  obtain ⟨n, texts⟩ := filterMap_eq_replicate only somewhere
  rw [load, texts, ofSources_replicate]

/-- The settings of a service come, leaf by leaf, from the source that counts most of those which
define the leaf: the variables, then the files in the working directory, of the person, and for the
whole system, then the defaults of the build. They are loaded just when what that source says fits,
and what has to be there in a section that any source names is given by some source. A file that is
no document is a fault. A file gives the same settings, or the same fault, wherever it stands, and
in however many of its places. The places of a file are those that are documented. -/
theorem precedence :
    (∀ (s : Surroundings) (service : String) (here own system : List Entry),
      s.fileEntries? localPath = some here →
      s.fileEntries? (recommendedPath s.directory s.home service) = some own →
      s.fileEntries? (systemPath service) = some system →
      let sources := ofVariables s.environment :: (here ++ own ++ system)
      GivesTables s.build sources →
        (∀ settings, s.load service = .ok settings → ∀ leaf ∈ (shape s.build).leaves,
          settings.toValue.at? leaf.path =
            ((said? sources leaf.path).map Entry.value).or
              ((standard s.build).toValue.at? leaf.path)) ∧
        ((∃ settings, s.load service = .ok settings) ↔
          Fit s.build sources ∧
          ∀ r ∈ (shape s.build).required,
            (said? sources r.1).isSome → (said? sources (r.1 ++ [r.2])).isSome)) ∧
    (∀ (s : Surroundings) (service : String),
      ∀ path ∈ [localPath, recommendedPath s.directory s.home service, systemPath service],
        s.fileEntries? path = none → s.load service = fault .malformed) ∧
    (∀ (s alone : Surroundings) (service path text : String),
      alone.build = s.build → alone.environment = s.environment → alone.file path = some text →
      let places := [localPath, recommendedPath s.directory s.home service, systemPath service]
      (∀ p ∈ places, s.file p = none ∨ s.file p = some text) →
      (∃ p ∈ places, s.file p = some text) → s.load service = alone.loadFile path) ∧
    localPath = "./config.toml" ∧
    (∀ service, Plain service → isAbsolute service = false →
      systemPath service = "/etc/idlink/" ++ service ++ "/config.toml" ∧
      (∀ directory home, Plain directory → isAbsolute directory = true →
        recommendedPath (some directory) home service =
          directory ++ "/idlink/" ++ service ++ "/config.toml") ∧
      (∀ named home, (∀ directory ∈ named, isAbsolute directory = false) → Plain home →
        recommendedPath named (some home) service =
          home ++ "/.config/idlink/" ++ service ++ "/config.toml") ∧
      (∀ named, (∀ directory ∈ named, isAbsolute directory = false) →
        recommendedPath named none service = "./config.toml")) := by
  have same_places (s : Surroundings) (service path : String) :
      path ∈ [localPath, recommendedPath s.directory s.home service, systemPath service] ↔
        path ∈ s.paths service := (List.reverse_perm (s.paths service)).mem_iff
  refine ⟨?layers, ?malformed, ?places, rfl, ?paths⟩
  case layers =>
    intro s service here own system of_here of_own of_system sources tables
    have files : ∀ e ∈ here ++ own ++ system, e.Ordered :=
      List.forall_mem_append.2 ⟨List.forall_mem_append.2 ⟨ordered_fileEntries? of_here,
        ordered_fileEntries? of_own⟩, ordered_fileEntries? of_system⟩
    have wellFormed : WellFormed s.build sources :=
      ⟨List.forall_mem_cons.2 ⟨ordered_ofVariables _, files⟩, tables⟩
    rw [load_eq of_here of_own of_system]
    exact ⟨fun settings loaded leaf mem => setting_of_ofEntries wellFormed loaded mem,
      ofEntries_iff wellFormed⟩
  case malformed =>
    intro s service path mem malformed
    exact load_of_malformed ((same_places s service path).1 mem) malformed
  case places =>
    intro s alone service path text build environment there places only somewhere
    obtain ⟨place, mem, stands⟩ := somewhere
    have loaded : s.load service = ofSources s.build [text] s.environment :=
      load_of_places (fun p mem => only p ((same_places s service p).2 mem))
        ⟨place, (same_places s service place).1 mem, stands⟩
    rw [loaded, loadFile, there, build, environment]
    rfl
  case paths =>
    intro service name relative
    refine ⟨systemPath_eq name relative, ?_, ?_, ?_⟩
    · intro directory home plain absolute
      exact recommendedPath_named name relative absolute plain home
    · intro named home ignored plain
      exact recommendedPath_home name relative ignored plain
    · intro named ignored
      exact recommendedPath_nowhere ignored service

/-- A service built for use, with one file for the whole system, one of a person, one in the working
directory, and variables. -/
def spread : Surroundings where
  build := .release
  file path :=
    if path = "/etc/idlink/svc/config.toml" then
      some "server.port = 1\nserver.host = \"a\"\nproviders.google.client_id = \"c\"\n"
    else if path = "/home/ada/.config/idlink/svc/config.toml" then
      some "server.port = 2\nserver.host = \"b\"\n"
    else if path = "./config.toml" then some "server.port = 3\n"
    else none
  directory := some "relative"
  home := some "/home/ada"
  environment := [("IDLINK_SERVER__LOG_FORMAT", "pretty"),
    ("IDLINK_PROVIDERS__GOOGLE__CLIENT_SECRET", "d")]

/-- One file in two places. -/
def twice : Surroundings :=
  { spread with
    file := fun path =>
      if path = "/home/ada/.config/idlink/svc/config.toml" ∨ path = "./config.toml" then
        some "server.port = 3\n"
      else none }

/-- A file of a person that is no document. -/
def broken : Surroundings :=
  { spread with
    file := fun path =>
      if path = "/home/ada/.config/idlink/svc/config.toml" then some "=" else none }

theorem parse_system :
    Toml.parse "server.port = 1\nserver.host = \"a\"\nproviders.google.client_id = \"c\"\n" =
      some (.table [("providers", .table [("google", .table [("client_id", .text "c")])]),
        ("server", .table [("host", .text "a"), ("port", .integer 1)])]) := by
  have chars : "server.port = 1\nserver.host = \"a\"\nproviders.google.client_id = \"c\"\n".toList =
      ['s', 'e', 'r', 'v', 'e', 'r', '.', 'p', 'o', 'r', 't', ' ', '=', ' ', '1', '\n',
        's', 'e', 'r', 'v', 'e', 'r', '.', 'h', 'o', 's', 't', ' ', '=', ' ', '"', 'a', '"', '\n',
        'p', 'r', 'o', 'v', 'i', 'd', 'e', 'r', 's', '.', 'g', 'o', 'o', 'g', 'l', 'e', '.',
        'c', 'l', 'i', 'e', 'n', 't', '_', 'i', 'd', ' ', '=', ' ', '"', 'c', '"', '\n'] := by
    decide
  rw [Toml.parse_of_toList chars (by decide)]
  rfl

theorem parse_own : Toml.parse "server.port = 2\nserver.host = \"b\"\n" =
    some (.table [("server", .table [("host", .text "b"), ("port", .integer 2)])]) := by
  have chars : "server.port = 2\nserver.host = \"b\"\n".toList = ['s', 'e', 'r', 'v', 'e', 'r', '.',
    'p', 'o', 'r', 't', ' ', '=', ' ', '2', '\n', 's', 'e', 'r', 'v', 'e', 'r', '.', 'h', 'o', 's',
    't', ' ', '=', ' ', '"', 'b', '"', '\n'] := by decide
  rw [Toml.parse_of_toList chars (by decide)]
  rfl

theorem parse_here : Toml.parse "server.port = 3\n" =
    some (.table [("server", .table [("port", .integer 3)])]) := by
  have chars : "server.port = 3\n".toList = ['s', 'e', 'r', 'v', 'e', 'r', '.', 'p', 'o', 'r', 't',
    ' ', '=', ' ', '3', '\n'] := by decide
  rw [Toml.parse_of_toList chars (by decide)]
  rfl

/-- The port comes from the working directory, the host from the file of the person, one of the
credentials from the file for the whole system, the other one and the format from variables, and
what is left from the defaults of a build for use. -/
theorem precedence_spread :
    (∃ settings, spread.load "svc" = .ok settings ∧
      settings.toValue.at? ["server", "port"] = some (.integer 3) ∧
      settings.toValue.at? ["server", "host"] = some (.string "b") ∧
      settings.toValue.at? ["providers", "google", "client_id"] = some (.string "c") ∧
      settings.toValue.at? ["providers", "google", "client_secret"] = some (.string "d") ∧
      settings.toValue.at? ["server", "log_format"] = some (.string "pretty") ∧
      settings.toValue.at? ["session", "secure"] = some (.bool true)) ∧
    broken.load "svc" = fault .malformed ∧
    twice.load "svc" = spread.loadFile "./config.toml" := by
  obtain ⟨layers, malformed, places, -, -⟩ := precedence
  have of_here : spread.fileEntries? localPath =
      some [.table [("server", .table [("port", .integer 3)])]] :=
    congrArg (Option.map ([·])) parse_here
  have of_own : spread.fileEntries? (recommendedPath spread.directory spread.home "svc") =
      some [.table [("server", .table [("host", .text "b"), ("port", .integer 2)])]] :=
    congrArg (Option.map ([·])) parse_own
  have of_system : spread.fileEntries? (systemPath "svc") =
      some [.table [("providers", .table [("google", .table [("client_id", .text "c")])]),
        ("server", .table [("host", .text "a"), ("port", .integer 1)])]] :=
    congrArg (Option.map ([·])) parse_system
  obtain ⟨leaves, loads⟩ := layers spread "svc" _ _ _ of_here of_own of_system (by decide)
  obtain ⟨settings, loaded⟩ := loads.2 ⟨fit_of_isOk rfl, by decide⟩
  have setting {n : Nat} {leaf : Leaf} (listed : (shape .release).leaves[n]? = some leaf) :=
    leaves settings loaded leaf (List.mem_of_getElem? listed)
  have unreadable : broken.fileEntries? "/home/ada/.config/idlink/svc/config.toml" = none := by
    have chars : "=".toList = ['='] := by decide
    have parsed : Toml.parse "=" = none := by
      rw [Toml.parse_of_toList chars (by decide)]
      rfl
    exact congrArg (Option.map ([·])) parsed
  exact ⟨⟨settings, loaded, setting (n := 1) rfl, setting (n := 0) rfl, setting (n := 20) rfl,
      setting (n := 21) rfl, setting (n := 3) rfl, setting (n := 15) rfl⟩,
    malformed broken "svc" _ (by decide) unreadable,
    places twice spread "svc" "./config.toml" "server.port = 3\n" rfl rfl rfl (by decide)
      (by decide)⟩

end Surroundings

end FederatedLogin.Settings
