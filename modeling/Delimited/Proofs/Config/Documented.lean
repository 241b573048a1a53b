import Delimited.Config.Loader
import Delimited.Proofs.Config.Keys
import Mathlib.Data.List.Induction

/-!
# What a library promises

What the program relies on when it leaves the merging of settings to a library: `Library.Documented`.
The promises are those that the documentation of such a library makes, one for each call, and none of
them says what several layers come to.

The library that the program runs with keeps them: `library_documented`.
-/

namespace Delimited.Config

namespace Library

variable (library : Library)

/-- The entries of the document that a file is, if there is one at the path. -/
def documentAt? (files : Files) (path : String) : Option Entries :=
  match files path with
  | .file bytes => (String.fromUTF8? bytes.toByteArray).bind library.document?
  | _ => none

/-- The keys of a source. One that cannot be read has none. -/
def keysOf (files : Files) (directory : List String) (source : Source) : Entries :=
  (library.collect files directory source).toOption.getD []

/-- The source is read as a document that can be a layer. -/
def Reads (files : Files) (directory : List String) (source : Source) : Prop :=
  ∃ entries, library.collect files directory source = .ok entries ∧ Fits entries

/-- A builder with sources only. -/
def ofSources (sources : List Source) : library.Builder :=
  sources.foldl (fun builder source ↦ library.addSource source builder) library.empty

/-- Set keys one after the other. -/
def setOverrides (overrides : List (Key × Value)) (builder : library.Builder) :
    Except Error library.Builder :=
  overrides.foldlM (fun builder entry ↦ library.setOverride entry.1.path entry.2 builder) builder

/-- What the documentation of a library promises. -/
structure Documented : Prop where
  /-- The built-in text is a document of the language, which gives each key its built-in value. -/
  defaults : ∃ entries, library.document? defaultText = some entries ∧ Fits entries ∧
    ∀ key : Key, (key.valuesIn entries).getLast?.bind key.decode? = some key.builtIn
  /-- A text is read as the document that it is. -/
  collect_text {files : Files} {directory : List String} {text : String} {entries : Entries}
    (h : library.document? text = some entries) :
    library.collect files directory (.text text) = .ok entries
  /-- The file at a path is read as the document that it is. -/
  collect_file {files : Files} {directory : List String} {path : String} {required : Bool}
    {entries : Entries}
    (h : library.documentAt? files (FilePath.absolute directory path) = some entries) :
    library.collect files directory (.file path required) = .ok entries
  /-- Where no file is at a path, the one with the extension of the language behind it is read. -/
  collect_longer {files : Files} {directory : List String} {path longer : String} {required : Bool}
    {entries : Entries} (hmissing : (files (FilePath.absolute directory path)).isFile = false)
    (hlonger : FilePath.withExtension? (FilePath.absolute directory path) extension = some longer)
    (h : library.documentAt? files longer = some entries) :
    library.collect files directory (.file path required) = .ok entries
  /-- A file that is not required may be missing. -/
  collect_missing {files : Files} {directory : List String} {path : String}
    (hmissing : (files (FilePath.absolute directory path)).isFile = false)
    (hlonger : ∀ longer,
      FilePath.withExtension? (FilePath.absolute directory path) extension = some longer →
        (files longer).isFile = false) :
    library.collect files directory (.file path false) = .ok []
  /-- Without layers no key has a value. -/
  build_empty (files : Files) (directory : List String) :
    ∃ merged, library.build files directory library.empty = .ok merged ∧
      ∀ key : Key, library.get? merged key.table key.name = none
  /-- Sources are merged in order and key by key, so the one that was added last wins. -/
  build_addSource {files : Files} {directory : List String} {sources : List Source}
    {source : Source} {entries : Entries} {merged : library.Merged}
    (hsources : ∀ earlier ∈ sources, library.Reads files directory earlier)
    (hread : library.collect files directory source = .ok entries) (hfits : Fits entries)
    (hbuild : library.build files directory (library.ofSources sources) = .ok merged) :
    ∃ after,
      library.build files directory (library.addSource source (library.ofSources sources)) =
        .ok after ∧
      ∀ key : Key, library.get? after key.table key.name =
        (key.valuesIn entries).getLast?.or (library.get? merged key.table key.name)
  /-- A key can be set, because it is a path. -/
  setOverride_path (key : Key) (value : Value) (builder : library.Builder) :
    ∃ next, library.setOverride key.path value builder = .ok next
  /-- Keys that are set are loaded last: it does not matter which sources are added behind them. -/
  setOverride_addSource {key : String} {value : Value} {source : Source}
    {builder next : library.Builder} (h : library.setOverride key value builder = .ok next) :
    library.setOverride key value (library.addSource source builder) =
      .ok (library.addSource source next)
  /-- Setting a key gives it the value, in place of any other, and leaves the other keys alone. -/
  build_setOverride {files : Files} {directory : List String} {sources : List Source}
    {overrides : List (Key × Value)} {builder next : library.Builder} {key : Key} {value : Value}
    {merged : library.Merged}
    (hsources : ∀ source ∈ sources, library.Reads files directory source)
    (hoverrides : ∀ entry ∈ overrides, (entry.1.decode? entry.2).isSome)
    (hbuilder : library.setOverrides overrides (library.ofSources sources) = .ok builder)
    (hbuild : library.build files directory builder = .ok merged)
    (hvalue : (key.decode? value).isSome)
    (hnext : library.setOverride key.path value builder = .ok next) :
    ∃ after, library.build files directory next = .ok after ∧
      library.get? after key.table key.name = some value ∧
      ∀ other ≠ key, library.get? after other.table other.name =
        library.get? merged other.table other.name
  /-- Settings are read if each key has a value of its type. -/
  settings_eq {merged : library.Merged} {decided : (key : Key) → key.Kind}
    (h : ∀ key : Key,
      (library.get? merged key.table key.name).bind key.decode? = some (decided key)) :
    library.settings merged = .ok
      { reader :=
          { comment := decided .comment
            delimiter := decided .delimiter
            skipEmpty := decided .skipEmpty
            trim := decided .trim }
        format := decided .format }

/-- The keys of a source that is read. -/
theorem keysOf_eq {library : Library} {files : Files} {directory : List String} {source : Source}
    {entries : Entries} (h : library.collect files directory source = .ok entries) :
    library.keysOf files directory source = entries := by
  rw [keysOf, h]
  rfl

/-- Adding a source behind others. -/
theorem ofSources_concat (sources : List Source) (source : Source) :
    library.ofSources (sources ++ [source]) =
      library.addSource source (library.ofSources sources) := by
  simp [ofSources]

/-- Setting one key and then others. -/
theorem setOverrides_cons (entry : Key × Value) (overrides : List (Key × Value))
    (builder : library.Builder) :
    library.setOverrides (entry :: overrides) builder =
      (library.setOverride entry.1.path entry.2 builder).bind (library.setOverrides overrides) :=
  List.foldlM_cons

/-- Setting one key behind others. -/
theorem setOverrides_concat (entry : Key × Value) (overrides : List (Key × Value))
    (builder : library.Builder) :
    library.setOverrides (overrides ++ [entry]) builder =
      (library.setOverrides overrides builder).bind
        (library.setOverride entry.1.path entry.2) := by
  rw [setOverrides, List.foldlM_append]
  congr 1
  funext next
  simp

end Library

/-! ## The library that the program runs with -/

variable {files : Files} {directory : List String}

/-- A text with a document is read as that document, wherever it comes from. -/
theorem readDocument_of_document {text : String} {entries : Entries}
    (h : library.document? text = some entries) (origin : Option String) :
    readDocument origin text = .ok entries := by
  obtain ⟨value, hparse, htable⟩ := Option.bind_eq_some_iff.mp h
  obtain rfl : value = .table entries := by
    cases value <;> simp_all [Value.table?]
  rw [readDocument, hparse]

/-- A file that is found is read as its document. -/
theorem collect_of_found {name path : String} {bytes : List UInt8} {entries : Entries}
    (hfound : findFile? files directory name = some (path, bytes))
    (h : (String.fromUTF8? bytes.toByteArray).bind library.document? = some entries)
    (required : Bool) : library.collect files directory (.file name required) = .ok entries := by
  obtain ⟨text, htext, hdocument⟩ := Option.bind_eq_some_iff.mp h
  have hread := readDocument_of_document hdocument (some (FilePath.relativeTo directory path))
  simp [library, Source.read, readFile, hfound, htext, hread, Except.map]

/-- Something with a document is a file. -/
theorem bytes_of_documentAt {path : String} {entries : Entries}
    (h : library.documentAt? files path = some entries) :
    ∃ bytes, files path = .file bytes ∧
      (String.fromUTF8? bytes.toByteArray).bind library.document? = some entries := by
  unfold Library.documentAt? at h
  split at h
  · rename_i bytes hbytes
    exact ⟨bytes, hbytes, h⟩
  · simp at h

/-- What is not a file is not found under its name. -/
theorem findFile?_of_missing {name : String}
    (hmissing : (files (FilePath.absolute directory name)).isFile = false) :
    findFile? files directory name =
      (FilePath.withExtension? (FilePath.absolute directory name) extension).bind fun longer ↦
        match files longer with
        | .file bytes => some (longer, bytes)
        | _ => none := by
  unfold findFile?
  dsimp only
  split
  · rename_i bytes hbytes
    simp [hbytes, Lookup.isFile] at hmissing
  · cases FilePath.withExtension? (FilePath.absolute directory name) extension <;> rfl

/-- Merging sources that can be layers gives each key the last value that one of them has for it. -/
theorem Tree.Decides.mergeSources {tree : Tree} {values : Key → Option Value}
    (h : tree.Decides values) {sources : List Source}
    (hsources : ∀ source ∈ sources, library.Reads files directory source) :
    ∃ merged, Config.mergeSources files directory sources tree = .ok merged ∧
      merged.Decides fun key ↦
        (sources.flatMap fun source ↦
          key.valuesIn (library.keysOf files directory source)).getLast?.or (values key) := by
  induction sources generalizing tree values with
  | nil => exact ⟨tree, rfl, by simpa using h⟩
  | cons source sources ih =>
      obtain ⟨entries, hcollect, hfits⟩ := hsources source List.mem_cons_self
      obtain ⟨origin, hread⟩ : ∃ origin, source.read files directory = .ok (origin, entries) := by
        simp only [library] at hcollect
        cases hread : source.read files directory with
        | error error => simp [hread, Except.map] at hcollect
        | ok found =>
            rw [hread] at hcollect
            exact ⟨found.1, by rw [← Except.ok.inj hcollect]⟩
      obtain ⟨merged, hmerged, hdecides⟩ := ih (h.mergeSource hfits origin)
        fun other hother ↦ hsources other (List.mem_cons_of_mem source hother)
      refine ⟨merged, ?_, ?_⟩
      · rw [Config.mergeSources, hread]
        exact hmerged
      · simpa [Library.keysOf_eq hcollect, List.getLast?_append, Option.or_assoc] using hdecides

namespace Builder

/-- The builder has gathered sources, and keys on top of them. -/
structure Gathers (sources : List Source) (overrides : List (Key × Value)) (builder : Builder) :
    Prop where
  sources : builder.sources = sources
  nodup : (builder.overrides.map Prod.fst).Nodup
  typed : ∀ entry ∈ builder.overrides, ∃ (key : Key) (value : Value),
    entry = (key.toPath, .ofValue none value) ∧ (key.decode? value).isSome
  last : ∀ key : Key, Assoc.get? key.toPath builder.overrides =
    (Assoc.getAll key overrides).getLast?.map (.leaf · none)

/-- A builder with sources only has gathered them. -/
theorem gathers_ofSources (sources : List Source) :
    Gathers sources [] (library.ofSources sources) := by
  have hbuilder : library.ofSources sources = ({ sources } : Builder) := by
    induction sources using List.reverseRecOn with
    | nil => rfl
    | append_singleton sources source ih =>
        rw [Library.ofSources_concat, ih]
        rfl
  rw [hbuilder]
  exact ⟨rfl, by simp, by simp, by simp [Assoc.get?]⟩

namespace Gathers

variable {sources : List Source} {overrides more : List (Key × Value)} {builder : Builder}

/-- A key that is set is gathered. -/
theorem setOverride (h : builder.Gathers sources overrides) {key : Key} {value : Value}
    (hvalue : (key.decode? value).isSome) :
    ∃ next, builder.setOverride key.path value = .ok next ∧
      next.Gathers sources (overrides ++ [(key, value)]) := by
  refine ⟨{ builder with
    overrides := Assoc.set key.toPath (.ofValue none value) builder.overrides }, ?_, h.sources,
    Assoc.nodup_set h.nodup _ _, fun entry hentry ↦ ?_, fun other ↦ ?_⟩
  · simp [Builder.setOverride, key.parse_path]
  · rcases Assoc.mem_set hentry with rfl | hold
    · exact ⟨key, value, rfl, hvalue⟩
    · exact h.typed entry hold
  · by_cases hsame : key = other
    · subst hsame
      simp [Assoc.getAll_cons_self, Tree.ofValue_of_typed hvalue]
    · have hpath : other.toPath ≠ key.toPath := fun hpath ↦ hsame (Key.toPath_inj hpath).symm
      simp [Assoc.get?_set_of_ne hpath, h.last other, Assoc.getAll_cons_of_ne hsame]

/-- Keys that are set are gathered in order. -/
theorem setOverrides (h : builder.Gathers sources overrides)
    (hmore : ∀ entry ∈ more, (entry.1.decode? entry.2).isSome) {next : Builder}
    (hnext : library.setOverrides more builder = .ok next) :
    next.Gathers sources (overrides ++ more) := by
  induction more generalizing builder overrides with
  | nil =>
      obtain rfl : builder = next := Except.ok.inj hnext
      simpa using h
  | cons entry more ih =>
      obtain ⟨after, hafter, hgathers⟩ := h.setOverride (hmore entry List.mem_cons_self)
      have hothers : (Builder.setOverride entry.1.path entry.2 builder).bind
          (library.setOverrides more) = .ok next :=
        (library.setOverrides_cons entry more builder).symm.trans hnext
      rw [hafter] at hothers
      simpa using ih hgathers (fun other hother ↦ hmore other (List.mem_cons_of_mem entry hother))
        hothers

/-- What was gathered merges into a tree with the last value that a key was set to, or else the last
one that a source has for it. -/
theorem merge_eq (h : builder.Gathers sources overrides)
    (hsources : ∀ source ∈ sources, library.Reads files directory source) :
    ∃ tree, library.build files directory builder = .ok tree ∧
      Tree.Decides tree fun key ↦ (Assoc.getAll key overrides).getLast?.or
        (sources.flatMap fun source ↦
          key.valuesIn (library.keysOf files directory source)).getLast? := by
  obtain ⟨merged, hmerged, hdecides⟩ := Tree.Decides.empty.mergeSources hsources
  have hfinal := hdecides.setKeys_entries.setPaths h.typed
  refine ⟨_, ?_, hfinal.settled, fun key ↦ (hfinal.value key).trans ?_⟩
  · simp only [library, Builder.merge, h.sources, hmerged]
    rfl
  · rw [Assoc.getAll_of_nodup h.nodup, h.last key]
    cases (Assoc.getAll key overrides).getLast? <;> simp [Tree.shape]

end Gathers

end Builder

/-- The built-in text gives each key its built-in value. -/
theorem defaults_library : ∃ entries, library.document? defaultText = some entries ∧ Fits entries ∧
    ∀ key : Key, (key.valuesIn entries).getLast?.bind key.decode? = some key.builtIn := by
  -- the characters are taken out of the text first, which is cheaper than evaluating it as a whole
  obtain ⟨chars, hchars, hentries⟩ : ∃ chars, defaultText.toList = chars ∧
      ∃ entries, (Toml.parseChars? chars).bind Value.table? = some entries ∧ Fits entries ∧
        ∀ key : Key, (key.valuesIn entries).getLast?.bind key.decode? = some key.builtIn := by
    unfold defaultText
    simp only [String.toList_append]
    repeat rw [String.toList_ofList]
    exact ⟨_, rfl, by decide +kernel⟩
  simpa only [library, Toml.parse?, hchars] using hentries

/-- The library that the program runs with keeps all promises. -/
theorem library_documented : library.Documented where
  defaults := defaults_library
  collect_text h := by
    rw [library]
    simp only [Source.read, readDocument_of_document h]
    rfl
  collect_file {files directory path _ _} h := by
    obtain ⟨bytes, hbytes, hdocument⟩ := bytes_of_documentAt h
    have hfound : findFile? files directory path =
        some (FilePath.absolute directory path, bytes) := by simp [findFile?, hbytes]
    exact collect_of_found hfound hdocument _
  collect_longer {files directory path longer _ _} hmissing hlonger h := by
    obtain ⟨bytes, hbytes, hdocument⟩ := bytes_of_documentAt h
    have hfound : findFile? files directory path = some (longer, bytes) := by
      simp [findFile?_of_missing hmissing, hlonger, hbytes]
    exact collect_of_found hfound hdocument _
  collect_missing {files directory path} hmissing hlonger := by
    have hnone : findFile? files directory path = none := by
      rw [findFile?_of_missing hmissing, Option.bind_eq_none_iff]
      intro longer hpath
      have hfile := hlonger longer hpath
      cases hlookup : files longer <;> simp_all [Lookup.isFile]
    simp [library, Source.read, readFile, hnone, Except.map]
  build_empty files directory := by
    have hnone : ∀ source ∈ ([] : List Source), library.Reads files directory source := by simp
    obtain ⟨tree, htree, hdecides⟩ := (Builder.gathers_ofSources []).merge_eq hnone
    exact ⟨tree, htree, fun key ↦ hdecides.value key⟩
  build_addSource {files directory sources source entries _} hsources hread hfits hbuild := by
    obtain ⟨tree, htree, hdecides⟩ := (Builder.gathers_ofSources sources).merge_eq hsources
    obtain rfl := Except.ok.inj (htree.symm.trans hbuild)
    have hall : ∀ other ∈ sources ++ [source], library.Reads files directory other := by
      simpa [or_imp, forall_and] using ⟨hsources, entries, hread, hfits⟩
    obtain ⟨after, hafter, hdecidesAll⟩ :=
      (Builder.gathers_ofSources (sources ++ [source])).merge_eq hall
    rw [Library.ofSources_concat] at hafter
    refine ⟨after, hafter, fun key ↦ ?_⟩
    have hvalue := hdecides.value key
    have hvalueAll := hdecidesAll.value key
    simp only [Assoc.getAll_nil, List.getLast?_nil, Option.none_or, List.flatMap_append,
      List.flatMap_singleton, Library.keysOf_eq hread, List.getLast?_append] at hvalue hvalueAll
    rw [← hvalue] at hvalueAll
    exact hvalueAll
  setOverride_path key value builder := by
    simp [library, Builder.setOverride, key.parse_path]
  setOverride_addSource {key _ _ _ _} h := by
    simp only [library, Builder.setOverride] at h ⊢
    cases hpath : Path.parse key with
    | error fault => simp [hpath] at h
    | ok path =>
        simp only [hpath] at h
        obtain rfl := Except.ok.inj h
        rfl
  build_setOverride {files directory sources overrides builder next key value _} hsources
      hoverrides hbuilder hbuild hvalue hnext := by
    have hgathers := (Builder.gathers_ofSources sources).setOverrides hoverrides hbuilder
    obtain ⟨tree, htree, hdecides⟩ := hgathers.merge_eq hsources
    obtain rfl := Except.ok.inj (htree.symm.trans hbuild)
    obtain ⟨found, hfound, hgathersAll⟩ := hgathers.setOverride hvalue
    obtain rfl := Except.ok.inj (hfound.symm.trans hnext)
    obtain ⟨after, hafter, hdecidesAll⟩ := hgathersAll.merge_eq hsources
    refine ⟨after, hafter, (hdecidesAll.value key).trans ?_, fun other hother ↦
      (hdecidesAll.value other).trans ((Eq.symm ?_).trans (hdecides.value other).symm)⟩
    · simp [Assoc.getAll_cons_self]
    · simp [Assoc.getAll_cons_of_ne hother.symm]
  settings_eq h := Tree.settings_eq h

end Delimited.Config
