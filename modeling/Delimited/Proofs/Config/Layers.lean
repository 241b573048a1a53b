import Delimited.Proofs.Config.Documented

/-!
# Resolving configuration layers

A loader gathers layers: files and single keys, in any order. What a build makes of them can be said
for each of the five keys by itself: the last value that the key was set to on top of the files, or
else the last one that a file has for it, or else the built-in one. Only the outcome is judged, so
layers may break the rules for the reader options as long as later ones mend them.

This holds with any library that keeps what its documentation promises, and nothing else is used of
it. Read `build_eq_resolve` first. The promises are about one call; what they come to for all calls
is `Library.Documented.build_overrides`. The file of a project is not always the one that its name
promises: see `place?` and `build_of_absent_project_file`.
-/

namespace Delimited

namespace Config

/-- The place of a configuration file: its path, or else, where no file is, its path with the
extension behind it. -/
def place? (files : Files) (directory : List String) (path : String) : Option String :=
  let place := FilePath.absolute directory path
  if (files place).isFile then some place
  else (FilePath.withExtension? place extension).filter fun longer ↦ (files longer).isFile

/-- The document of the file that is found for a path, if it is one. -/
def Library.found? (library : Library) (files : Files) (directory : List String) (path : String) :
    Option Entries :=
  (place? files directory path).bind (library.documentAt? files)

/-- A call to a loader. -/
inductive Call where
  /-- Add a file. -/
  | file (path : String)
  /-- Add the project file of a directory. -/
  | project (directory : String)
  /-- Set a key on top of all files. -/
  | override (key : Key) (value : Value)

namespace Call

/-- Make a call. -/
def apply {library : Library} (loader : Loader library) :
    Call → Except Delimited.Error (Loader library)
  | .file path => .ok (loader.withFile path)
  | .project directory => .ok (loader.withProjectFile directory)
  | .override key value => loader.setOverride key.path value

/-- The source that a call adds. -/
def source? : Call → Option Source
  | .file path => some (.file path true)
  | .project directory => some (.file (Loader.projectPath directory) false)
  | .override _ _ => none

/-- The key that a call sets, with its value. -/
def override? : Call → Option (Key × Value)
  | .override key value => some (key, value)
  | _ => none

/-- The document that a call adds; an absent project file adds none. -/
def document (library : Library) (files : Files) (directory : List String) : Call → Entries
  | .file path => (library.found? files directory path).getD []
  | .project sub => (library.found? files directory (Loader.projectPath sub)).getD []
  | .override _ _ => []

/-- The call adds a file that is there, or a project file that may be absent, or sets a key to a value
of its type. -/
def Admitted (library : Library) (files : Files) (directory : List String) : Call → Prop
  | .file path => ∃ entries, library.found? files directory path = some entries ∧ Fits entries
  | .project sub =>
      place? files directory (Loader.projectPath sub) = none ∨
        ∃ entries, library.found? files directory (Loader.projectPath sub) = some entries ∧
          Fits entries
  | .override key value => (key.decode? value).isSome

/-- Whether a call may be made is found out by reading its file. -/
instance (library : Library) (files : Files) (directory : List String) :
    (call : Call) → Decidable (call.Admitted library files directory)
  | .file path =>
      inferInstanceAs (Decidable (∃ entries, library.found? files directory path = some entries ∧
        Fits entries))
  | .project sub =>
      inferInstanceAs (Decidable (place? files directory (Loader.projectPath sub) = none ∨
        ∃ entries, library.found? files directory (Loader.projectPath sub) = some entries ∧
          Fits entries))
  | .override key value => inferInstanceAs (Decidable ((key.decode? value).isSome = true))

end Call

/-- The value that calls give a key: the last one that it is set to, or else the last one that a file
has for it. -/
def Key.given? (library : Library) (files : Files) (directory : List String) (calls : List Call)
    (key : Key) : Option Value :=
  (Assoc.getAll key (calls.filterMap Call.override?)).getLast?.or
    (calls.flatMap fun call ↦ key.valuesIn (call.document library files directory)).getLast?

/-- What is decided for a key behind calls. -/
def Key.effective (library : Library) (files : Files) (directory : List String)
    (calls : List Call) (key : Key) : key.Kind :=
  ((key.given? library files directory calls).bind key.decode?).getD key.builtIn

/-- What is decided behind calls, key by key. -/
def resolve (library : Library) (files : Files) (directory : List String) (calls : List Call) :
    Settings where
  reader :=
    { comment := Key.comment.effective library files directory calls
      delimiter := Key.delimiter.effective library files directory calls
      skipEmpty := Key.skipEmpty.effective library files directory calls
      trim := Key.trim.effective library files directory calls }
  format := Key.format.effective library files directory calls

variable {library : Library} {files : Files} {directory : List String}

/-! ## Layers -/

namespace Library.Documented

variable (h : library.Documented)
include h

/-- The file that is found for a path is read as its document. -/
theorem collect_found {path : String} {entries : Entries}
    (hfound : library.found? files directory path = some entries) (required : Bool) :
    library.collect files directory (.file path required) = .ok entries := by
  obtain ⟨place, hplace, hentries⟩ := Option.bind_eq_some_iff.mp hfound
  unfold place? at hplace
  dsimp only at hplace
  split at hplace
  · obtain rfl := Option.some.inj hplace
    exact h.collect_file hentries
  · rename_i hmissing
    obtain ⟨hlonger, -⟩ := Option.filter_eq_some_iff.mp hplace
    exact h.collect_longer (by simpa using hmissing) hlonger hentries

/-- A file that need not be there and is not found has no keys. -/
theorem collect_absent {path : String} (habsent : place? files directory path = none) :
    library.collect files directory (.file path false) = .ok [] := by
  unfold place? at habsent
  dsimp only at habsent
  split at habsent
  · cases habsent
  · rename_i hmissing
    refine h.collect_missing (by simpa using hmissing) fun longer hlonger ↦ ?_
    simpa [hlonger] using habsent

/-- Sources give each key the last value that one of them has for it. -/
theorem build_sources {sources : List Source}
    (hsources : ∀ source ∈ sources, library.Reads files directory source) :
    ∃ merged, library.build files directory (library.ofSources sources) = .ok merged ∧
      ∀ key : Key, library.get? merged key.table key.name =
        (sources.flatMap fun source ↦
          key.valuesIn (library.keysOf files directory source)).getLast? := by
  induction sources using List.reverseRecOn with
  | nil => exact h.build_empty files directory
  | append_singleton sources source ih =>
      have hearlier := fun earlier hmem ↦ hsources earlier (List.mem_append_left [source] hmem)
      obtain ⟨entries, hread, hfits⟩ := hsources source (by simp)
      obtain ⟨merged, hmerged, hvalues⟩ := ih hearlier
      obtain ⟨after, hafter, hwins⟩ := h.build_addSource hearlier hread hfits hmerged
      refine ⟨after, by rwa [library.ofSources_concat], fun key ↦ ?_⟩
      rw [hwins, hvalues, List.flatMap_append, List.flatMap_singleton,
        Library.keysOf_eq hread, List.getLast?_append]

/-- Keys that are set on top of sources have the last value that they were set to, and the others that
of the sources. -/
theorem build_overrides {sources : List Source} {overrides : List (Key × Value)}
    (hsources : ∀ source ∈ sources, library.Reads files directory source)
    (hoverrides : ∀ entry ∈ overrides, (entry.1.decode? entry.2).isSome) :
    ∃ builder merged, library.setOverrides overrides (library.ofSources sources) = .ok builder ∧
      library.build files directory builder = .ok merged ∧
      ∀ key : Key, library.get? merged key.table key.name =
        (Assoc.getAll key overrides).getLast?.or
          (sources.flatMap fun source ↦
            key.valuesIn (library.keysOf files directory source)).getLast? := by
  induction overrides using List.reverseRecOn with
  | nil =>
      obtain ⟨merged, hmerged, hvalues⟩ := h.build_sources hsources
      exact ⟨_, merged, rfl, hmerged, by simpa using hvalues⟩
  | append_singleton overrides entry ih =>
      have hearlier := fun earlier hmem ↦ hoverrides earlier (List.mem_append_left [entry] hmem)
      obtain ⟨builder, merged, hbuilder, hmerged, hvalues⟩ := ih hearlier
      obtain ⟨key, value⟩ := entry
      have hvalue : (key.decode? value).isSome := hoverrides (key, value) (by simp)
      obtain ⟨next, hnext⟩ := h.setOverride_path key value builder
      obtain ⟨after, hafter, hset, hothers⟩ :=
        h.build_setOverride hsources hearlier hbuilder hmerged hvalue hnext
      refine ⟨next, after, ?_, hafter, fun other ↦ ?_⟩
      · rw [library.setOverrides_concat, hbuilder]
        exact hnext
      · by_cases hsame : key = other
        · subst hsame
          simp [hset, Assoc.getAll_cons_self]
        · rw [hothers other (Ne.symm hsame), hvalues, Assoc.getAll_append,
            Assoc.getAll_cons_of_ne hsame, Assoc.getAll_nil, List.append_nil]

/-- Keys that are set stay on top of a source that is added behind them. -/
theorem setOverrides_addSource {overrides : List (Key × Value)} {source : Source}
    {builder next : library.Builder} (hnext : library.setOverrides overrides builder = .ok next) :
    library.setOverrides overrides (library.addSource source builder) =
      .ok (library.addSource source next) := by
  induction overrides generalizing builder with
  | nil =>
      obtain rfl : builder = next := Except.ok.inj hnext
      rfl
  | cons entry overrides ih =>
      rw [library.setOverrides_cons] at hnext ⊢
      cases hset : library.setOverride entry.1.path entry.2 builder with
      | error error => simp [hset, Except.bind] at hnext
      | ok after =>
          rw [hset] at hnext
          rw [h.setOverride_addSource hset]
          exact ih hnext

end Library.Documented

/-! ## Calls -/

namespace Call

variable {call : Call} {source : Source}

/-- The source of a call that may be made is read as its document, which can be a layer. -/
theorem Admitted.collect (h : call.Admitted library files directory) (hlibrary : library.Documented)
    (hsource : call.source? = some source) :
    library.collect files directory source = .ok (call.document library files directory) ∧
      Fits (call.document library files directory) := by
  cases call with
  | file path =>
      obtain rfl := Option.some.inj hsource
      obtain ⟨entries, hentries, hfits⟩ := h
      rw [document, hentries]
      exact ⟨hlibrary.collect_found hentries true, hfits⟩
  | project sub =>
      obtain rfl := Option.some.inj hsource
      obtain habsent | ⟨entries, hentries, hfits⟩ := h
      · rw [document, Library.found?, habsent]
        exact ⟨hlibrary.collect_absent habsent, .empty⟩
      · rw [document, hentries]
        exact ⟨hlibrary.collect_found hentries false, hfits⟩
  | override => cases hsource

/-- A call without a source adds no keys. -/
theorem document_of_no_source (hnone : call.source? = none) :
    call.document library files directory = [] := by
  cases call with
  | override => rfl
  | file | project => cases hnone

/-- The document of a call that may be made can be a layer. -/
theorem Admitted.fits (h : call.Admitted library files directory) (hlibrary : library.Documented) :
    Fits (call.document library files directory) := by
  cases hsource : call.source? with
  | some source => exact (h.collect hlibrary hsource).2
  | none =>
      rw [document_of_no_source hsource]
      exact .empty

/-- The values that calls have for a key are those of their sources. -/
theorem flatMap_keysOf (hlibrary : library.Documented) {calls : List Call}
    (hcalls : ∀ call ∈ calls, call.Admitted library files directory) (key : Key) :
    ((calls.filterMap source?).flatMap fun source ↦
      key.valuesIn (library.keysOf files directory source)) =
        calls.flatMap fun call ↦ key.valuesIn (call.document library files directory) := by
  induction calls with
  | nil => rfl
  | cons call calls ih =>
      have hothers := ih fun other hother ↦ hcalls other (List.mem_cons_of_mem call hother)
      rw [List.flatMap_cons, ← hothers]
      cases hsource : call.source? with
      | some source =>
          have hread := ((hcalls call List.mem_cons_self).collect hlibrary hsource).1
          rw [List.filterMap_cons_some hsource, List.flatMap_cons, Library.keysOf_eq hread]
      | none =>
          rw [List.filterMap_cons_none hsource, document_of_no_source hsource]
          rfl

/-- The keys that calls set have values of their types. -/
theorem typed_overrides {calls : List Call}
    (hcalls : ∀ call ∈ calls, call.Admitted library files directory) :
    ∀ entry ∈ calls.filterMap Call.override?, (entry.1.decode? entry.2).isSome := by
  intro entry hentry
  obtain ⟨call, hcall, hvalue⟩ := List.mem_filterMap.mp hentry
  have hadmitted := hcalls call hcall
  cases call with
  | file | project => cases hvalue
  | override key value =>
      obtain rfl := Option.some.inj hvalue
      exact hadmitted

end Call

/-- The loader has gathered the layers of calls, behind the built-in settings. -/
def Loader.Gathers (calls : List Call) (loader : Loader library) : Prop :=
  library.setOverrides (calls.filterMap Call.override?)
    (library.ofSources (.text defaultText :: calls.filterMap Call.source?)) = .ok loader.builder

namespace Loader.Gathers

variable {calls : List Call} {loader : Loader library}

/-- A source that is added is gathered, whatever keys were set before. -/
theorem addSource (h : loader.Gathers calls) (hlibrary : library.Documented) {call : Call}
    {source : Source} (hsource : call.source? = some source) (hnone : call.override? = none) :
    ({ builder := library.addSource source loader.builder } : Loader library).Gathers
      (calls ++ [call]) := by
  have hadded : library.setOverrides (calls.filterMap Call.override?)
      (library.addSource source
        (library.ofSources (.text defaultText :: calls.filterMap Call.source?))) =
        .ok (library.addSource source loader.builder) := hlibrary.setOverrides_addSource h
  rw [← library.ofSources_concat] at hadded
  simpa [Gathers, hsource, hnone] using hadded

/-- The project file of a directory is gathered. -/
theorem withProjectFile (h : loader.Gathers calls) (hlibrary : library.Documented) (sub : String) :
    (loader.withProjectFile sub).Gathers (calls ++ [.project sub]) :=
  h.addSource hlibrary rfl rfl

/-- A call adds its layer. -/
theorem apply (h : loader.Gathers calls) (hlibrary : library.Documented) (call : Call) :
    ∃ next : Loader library, call.apply loader = .ok next ∧ next.Gathers (calls ++ [call]) := by
  cases call with
  | file path => exact ⟨_, rfl, h.addSource hlibrary rfl rfl⟩
  | project sub => exact ⟨_, rfl, h.withProjectFile hlibrary sub⟩
  | override key value =>
      obtain ⟨builder, hbuilder⟩ := hlibrary.setOverride_path key value loader.builder
      refine ⟨{ builder }, by simp [Call.apply, setOverride, hbuilder], ?_⟩
      have hset := library.setOverrides_concat (key, value) (calls.filterMap Call.override?)
        (library.ofSources (.text defaultText :: calls.filterMap Call.source?))
      rw [h] at hset
      simpa [Gathers, Call.override?, Call.source?, List.filterMap_cons, Except.bind, hbuilder]
        using hset

/-- Calls add their layers in order. -/
theorem foldlM (h : loader.Gathers calls) (hlibrary : library.Documented) (more : List Call) :
    ∃ last : Loader library, more.foldlM Call.apply loader = .ok last ∧
      last.Gathers (calls ++ more) := by
  induction more generalizing loader calls with
  | nil => exact ⟨loader, rfl, by simpa using h⟩
  | cons call more ih =>
      obtain ⟨next, hnext, hgathers⟩ := h.apply hlibrary call
      obtain ⟨last, hlast, hall⟩ := ih hgathers
      refine ⟨last, ?_, by simpa using hall⟩
      rw [List.foldlM_cons, hnext]
      exact hlast

end Loader.Gathers

/-! ## Outcome -/

/-- A value that calls give a key has the type of the key. -/
theorem Key.given?_typed (hlibrary : library.Documented) {calls : List Call}
    (hcalls : ∀ call ∈ calls, call.Admitted library files directory) {key : Key} {value : Value}
    (h : key.given? library files directory calls = some value) : (key.decode? value).isSome := by
  rcases Option.or_eq_some_iff.mp h with hset | ⟨-, hfile⟩
  · have hmem := Assoc.mem_getAll.mp (List.mem_of_getLast? hset)
    exact Call.typed_overrides hcalls (key, value) hmem
  · obtain ⟨call, hcall, hvalue⟩ := List.mem_flatMap.mp (List.mem_of_getLast? hfile)
    exact ((hcalls call hcall).fits hlibrary).typed key value hvalue

/-- What a loader has gathered is built into what the calls decide, if that breaks no rule for the
reader options. -/
theorem Loader.Gathers.build_eq {loader : Loader library} {calls : List Call}
    (h : loader.Gathers calls) (hlibrary : library.Documented)
    (hcalls : ∀ call ∈ calls, call.Admitted library files directory) :
    loader.build files directory =
      match (resolve library files directory calls).reader.fault? with
      | some fault => .error (.invalidOption fault)
      | none => .ok (resolve library files directory calls) := by
  obtain ⟨builtIn, hbuiltIn, hfits, hdefaults⟩ := hlibrary.defaults
  have hread : library.collect files directory (.text defaultText) = .ok builtIn :=
    hlibrary.collect_text hbuiltIn
  have hsources : ∀ source ∈ Source.text defaultText :: calls.filterMap Call.source?,
      library.Reads files directory source := by
    intro source hsource
    rcases List.mem_cons.mp hsource with rfl | hsource
    · exact ⟨builtIn, hread, hfits⟩
    · obtain ⟨call, hcall, hadds⟩ := List.mem_filterMap.mp hsource
      exact ⟨_, (hcalls call hcall).collect hlibrary hadds⟩
  obtain ⟨builder, merged, hbuilder, hmerged, hvalues⟩ :=
    hlibrary.build_overrides hsources (Call.typed_overrides hcalls)
  obtain rfl : builder = loader.builder := Except.ok.inj (hbuilder.symm.trans h)
  have hdecided (key : Key) : (library.get? merged key.table key.name).bind key.decode? =
      some (key.effective library files directory calls) := by
    rw [hvalues, List.flatMap_cons, Library.keysOf_eq hread, Call.flatMap_keysOf hlibrary hcalls,
      List.getLast?_append, ← Option.or_assoc, ← Key.given?, Key.effective]
    cases hgiven : key.given? library files directory calls with
    | none => exact hdefaults key
    | some value =>
        obtain ⟨decided, hvalue⟩ :=
          Option.isSome_iff_exists.mp (Key.given?_typed hlibrary hcalls hgiven)
        simp [hvalue]
  have hsettings := hlibrary.settings_eq hdecided
  simp only [Loader.build, hmerged, Except.bind, hsettings]
  rfl

/-- A loader without calls has gathered nothing but the built-in settings. -/
theorem Loader.gathers_new : (Loader.new : Loader library).Gathers [] := rfl

/-- An absent project file gives no key a value. -/
theorem resolve_of_absent {sub : String}
    (h : place? files directory (Loader.projectPath sub) = none) (before after : List Call) :
    resolve library files directory (before ++ .project sub :: after) =
      resolve library files directory (before ++ after) := by
  have hdocument : (Call.project sub).document library files directory = [] := by
    rw [Call.document, Library.found?, h]
    rfl
  have hgiven (key : Key) : key.given? library files directory (before ++ .project sub :: after) =
      key.given? library files directory (before ++ after) := by
    simp only [Key.given?, List.filterMap_append, List.flatMap_append, List.flatMap_cons, hdocument]
    rw [List.filterMap_cons_none rfl]
    rfl
  simp only [resolve, Key.effective, hgiven]

/-- Let a library keep what its documentation promises, and let calls to a loader be made, each of
which adds a file that is there, adds the project file of a directory, where there may be none, or
sets a key. What a build makes of them is decided key by key: the last value that a key was set to,
whatever files were added behind, or else the last value that a file has for it, or else the built-in
one. The build succeeds exactly if no rule for the reader options is broken in the end, whatever
single layers break, and names the first one that is.

The file of a project is looked for under its name and then under that name with the extension once
more. Where neither is there, adding it changes nothing. -/
theorem build_eq_resolve (hlibrary : library.Documented) {calls : List Call}
    (hcalls : ∀ call ∈ calls, call.Admitted library files directory) :
    (∃ loader : Loader library, calls.foldlM Call.apply .new = .ok loader ∧
      loader.build files directory =
        match (resolve library files directory calls).reader.fault? with
        | some fault => .error (.invalidOption fault)
        | none => .ok (resolve library files directory calls)) ∧
      ∀ before sub after, calls = before ++ .project sub :: after →
        place? files directory (Loader.projectPath sub) = none →
          resolve library files directory calls =
            resolve library files directory (before ++ after) := by
  obtain ⟨loader, hrun, hgathers⟩ := Loader.gathers_new.foldlM hlibrary calls
  refine ⟨⟨loader, hrun, hgathers.build_eq hlibrary hcalls⟩, ?_⟩
  intro before sub after hsplit habsent
  rw [hsplit, resolve_of_absent habsent]

/-- A project file gives the delimiter the character that starts comments by default, which a key set
later mends. The file that is added behind sets that key too, but in vain. -/
theorem build_eq_resolve_of_conflicting_project_file :
    let tree : FileTree :=
      { directory := ["w"]
        entries :=
          [(["simcsv.toml"], some "[reader]\ndelimiter = \"#\"\nnote = 1".toUTF8.toList),
            (["more.toml"],
              some "output.format = \"YAML\"\nreader.comment_char = \"!\"".toUTF8.toList)] }
    let conflicting : List Call := [.project "", .override .trim (.bool true)]
    let mended : List Call :=
      conflicting ++ [.override .comment (.string "%"), .file "more.toml", .project "none"]
    (Config.library.Documented ∧
      ∀ call ∈ mended, call.Admitted Config.library tree.lookup tree.directory) ∧
      (∃ loader : Loader Config.library, conflicting.foldlM Call.apply .new = .ok loader ∧
        loader.build tree.lookup tree.directory = .error (.invalidOption (.sameCharacter '#'))) ∧
      ∃ loader : Loader Config.library, mended.foldlM Call.apply .new = .ok loader ∧
        loader.build tree.lookup tree.directory =
          .ok { reader := { comment := '%', delimiter := '#', trim := true }, format := .yaml } := by
  intro tree conflicting mended
  have hmended : ∀ call ∈ mended, call.Admitted Config.library tree.lookup tree.directory := by
    decide +kernel
  have hconflicting :
      ∀ call ∈ conflicting, call.Admitted Config.library tree.lookup tree.directory :=
    fun call hcall ↦ hmended call (List.mem_append_left _ hcall)
  refine ⟨⟨library_documented, hmended⟩, ?_, ?_⟩
  · have hresolve : resolve Config.library tree.lookup tree.directory conflicting =
        { reader := { delimiter := '#', trim := true }, format := .json } := by decide +kernel
    obtain ⟨loader, hrun, hbuild⟩ := (build_eq_resolve library_documented hconflicting).1
    rw [hresolve] at hbuild
    exact ⟨loader, hrun, hbuild⟩
  · have hresolve : resolve Config.library tree.lookup tree.directory mended =
        { reader := { comment := '%', delimiter := '#', trim := true }, format := .yaml } := by
      decide +kernel
    obtain ⟨loader, hrun, hbuild⟩ := (build_eq_resolve library_documented hmended).1
    rw [hresolve] at hbuild
    exact ⟨loader, hrun, hbuild⟩

/-- A directory without a project file can change the settings: where the file has the name with the
extension once more, that one is loaded in its place. -/
theorem build_of_absent_project_file :
    let tree : FileTree :=
      { directory := ["w"]
        entries :=
          [(["simcsv.toml.toml"],
            some "[reader]\ndelimiter = ';'\ncomment_char = '%'\n".toUTF8.toList)] }
    let start : Loader Config.library := .new
    (tree.lookup (Loader.projectPath ".")).isFile = false ∧
      start.build tree.lookup tree.directory = .ok { reader := {}, format := .json } ∧
      (start.withProjectFile ".").build tree.lookup tree.directory =
        .ok { reader := { comment := '%', delimiter := ';' }, format := .json } := by
  intro tree start
  have hstart : start.Gathers [] := Loader.gathers_new
  have hproject : (start.withProjectFile ".").Gathers [.project "."] :=
    hstart.withProjectFile library_documented "."
  have hadmitted : ∀ call ∈ [Call.project "."],
      call.Admitted Config.library tree.lookup tree.directory := by decide +kernel
  have hloaded : resolve Config.library tree.lookup tree.directory [.project "."] =
      { reader := { comment := '%', delimiter := ';' }, format := .json } := by decide +kernel
  refine ⟨by decide +kernel, ?_, ?_⟩
  · rw [hstart.build_eq library_documented (by simp)]
    rfl
  · rw [hproject.build_eq library_documented hadmitted, hloaded]
    rfl

end Config

end Delimited
