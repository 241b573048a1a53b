import Delimited.Cli.Run

/-!
# What a run looks up

A run asks about few paths, and it is known ahead which: those at which its configuration files are
looked for, and then, if the settings can be loaded, its input. So a run can be given the answers
before it starts, as the command line program does: `run_congr`.
-/

namespace Delimited

namespace Config

variable {files others : Files} {directory : List String}

/-- A configuration file is looked for at the paths of its source. -/
theorem findFile?_congr {name : String} {required : Bool}
    (h : ∀ path ∈ (Source.file name required).paths directory, files path = others path) :
    findFile? files directory name = findFile? others directory name := by
  have hplain := h (FilePath.absolute directory name) List.mem_cons_self
  unfold findFile?
  simp only [hplain]
  cases hlonger : FilePath.withExtension? (FilePath.absolute directory name) extension with
  | none => rfl
  | some longer =>
      have hmem : longer ∈ (Source.file name required).paths directory := by
        simp [Source.paths, hlonger]
      simp only [h longer hmem]

/-- What a source is read as depends on what is at its paths. -/
theorem Source.read_congr {source : Source}
    (h : ∀ path ∈ source.paths directory, files path = others path) :
    source.read files directory = source.read others directory := by
  cases source with
  | text content => rfl
  | file path required =>
      have hfound := findFile?_congr h
      simp only [Source.read, readFile, hfound]

/-- What sources merge into depends on what is at their paths. -/
theorem mergeSources_congr {sources : List Source}
    (h : ∀ path ∈ sources.flatMap (Source.paths directory), files path = others path) (tree : Tree) :
    mergeSources files directory sources tree = mergeSources others directory sources tree := by
  induction sources generalizing tree with
  | nil => rfl
  | cons source sources ih =>
      rw [List.flatMap_cons] at h
      have hread : source.read files directory = source.read others directory :=
        Source.read_congr fun path hpath ↦ h path (List.mem_append_left _ hpath)
      have hothers := ih fun path hpath ↦ h path (List.mem_append_right _ hpath)
      rw [mergeSources, mergeSources, hread]
      simp only [hothers]

/-- What layers are built into depends on what is at the paths of their sources. -/
theorem Loader.build_congr {builder : Builder}
    (h : ∀ path ∈ builder.sources.flatMap (Source.paths directory), files path = others path) :
    ({ builder } : Loader library).build files directory =
      ({ builder } : Loader library).build others directory := by
  have hmerge : builder.merge files directory = builder.merge others directory := by
    rw [Builder.merge, Builder.merge, mergeSources_congr h]
  simp only [Loader.build, library, hmerge]

end Config

namespace Cli

variable {surroundings others : Surroundings} {arguments : List String} {asked : Arguments}

/-- Which settings are loaded depends on what is at the paths of configuration files. -/
theorem loadSettings_congr (hasked : Request.ofArguments arguments = .records asked)
    (hdirectory : others.directory = surroundings.directory)
    (hconfig : ∀ path ∈ configPaths surroundings.directory arguments,
      others.files path = surroundings.files path) :
    loadSettings others asked = loadSettings surroundings asked := by
  unfold loadSettings
  rw [hdirectory]
  cases hknown : surroundings.directory with
  | error error => rfl
  | ok directory =>
      cases hlayers : loader directory asked with
      | error error => simp only [hlayers, Except.bind]
      | ok layers =>
          obtain ⟨builder⟩ := layers
          simp only [configPaths, hasked, hknown, hlayers] at hconfig
          simp only [hlayers, Except.bind, Config.Loader.build_congr hconfig]

/-- A run depends on no more of its surroundings than the working directory, what is at the paths of
configuration files, and what reading the input meets if it comes to that. -/
theorem run_congr (hdirectory : others.directory = surroundings.directory)
    (hconfig : ∀ path ∈ configPaths surroundings.directory arguments,
      others.files path = surroundings.files path)
    (hinput : ∀ path, inputPath? surroundings arguments = some path →
      openInput others path = openInput surroundings path) :
    run others arguments = run surroundings arguments := by
  cases hasked : Request.ofArguments arguments with
  | help | version | usageError => simp only [run, hasked]
  | records asked =>
      have hloaded := loadSettings_congr hasked hdirectory hconfig
      cases hsettings : loadSettings surroundings asked with
      | error error => simp only [run, hasked, hloaded, hsettings]
      | ok settings =>
          have hopened := hinput (asked.path.getD standardInput)
            (by simp only [inputPath?, hasked, hsettings])
          simp only [run, hasked, hloaded, hsettings, hopened]

end Cli

end Delimited
