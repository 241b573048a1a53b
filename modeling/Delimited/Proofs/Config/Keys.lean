import Delimited.Proofs.Config.Merging

/-!
# The five keys

Of a tree of settings only five keys decide anything. Merging a document gives each of them the last
value that the document has for it and leaves the others alone: `Tree.Decides.mergeSource`. Setting a
single key is merging the document with that key only (`Tree.setPath_toPath`), so nothing else is
needed for keys that are set on top of files.
-/

namespace Delimited

namespace Value

/-- The entries of a table, and none of anything else. -/
def entries : Value → Entries
  | .table entries => entries
  | _ => []

/-- A truth value. -/
def truth? : Value → Option Bool
  | .bool value => some value
  | _ => none

/-- The format of a name in any case. -/
def format? : Value → Option Format
  | .string name => Format.ofName? (Text.lowerCase name)
  | _ => none

end Value

namespace Config

/-- A setting that a layer can give. -/
inductive Key where
  | comment
  | delimiter
  | skipEmpty
  | trim
  | format
  deriving DecidableEq, Repr

namespace Key

/-- The section that a key stands in. -/
def table : Key → String
  | format => "output"
  | _ => "reader"

/-- The name of a key in its section. -/
def name : Key → String
  | comment => "comment_char"
  | delimiter => "delimiter"
  | skipEmpty => "skip_empty"
  | trim => "trim"
  | format => "format"

/-- The path of a key as it is written. -/
def path (key : Key) : String :=
  key.table ++ "." ++ key.name

/-- The path of a key. -/
def toPath (key : Key) : Path :=
  { first := key.table, steps := [.name key.name] }

/-- What a key decides. -/
def Kind : Key → Type
  | comment | delimiter => Char
  | skipEmpty | trim => Bool
  | format => Format

/-- What a value decides under a key, if it has the type of the key: a text of one character, a truth
value, or the name of a format in any case. -/
def decode? : (key : Key) → Value → Option key.Kind
  | comment | delimiter => fun value ↦ value.char.toOption
  | skipEmpty | trim => Value.truth?
  | format => Value.format?

/-- What is decided without any layer. -/
def builtIn : (key : Key) → key.Kind
  | comment => '#'
  | delimiter => ','
  | skipEmpty => true
  | trim => false
  | format => Format.json

/-- The values that a document has for a key, in order. -/
def valuesIn (key : Key) (entries : Entries) : List Value :=
  (Assoc.getAll key.table entries).flatMap fun value ↦ Assoc.getAll key.name value.entries

theorem parse_path (key : Key) : Path.parse key.path = .ok key.toPath := by
  cases key <;> rfl

theorem table_plain (key : Key) : PlainName key.table := by
  cases key <;> exact .of_isSmall (by decide)

theorem name_lower (key : Key) : Text.lowerCase key.name = key.name := by
  cases key <;> exact Text.lowerCase_of_isSmall (by decide)

/-- Keys with the same place are the same. -/
theorem eq_of_place {key other : Key} (htable : key.table = other.table)
    (hname : key.name = other.name) : key = other := by
  cases key <;> cases other <;> first | rfl | exact absurd hname (by decide)

end Key

/-- A document that a layer may be: names without parts of paths, the two sections as tables, and
each of the five keys with a value of its type where it is there. Other keys may stand beside them,
in their own lower case. -/
structure Fits (entries : Entries) : Prop where
  plain : ∀ entry ∈ entries, PlainName entry.1
  section_table : ∀ key : Key, ∀ value ∈ Assoc.getAll key.table entries,
    ∃ inner, value = .table inner
  lower : ∀ key : Key, ∀ value ∈ Assoc.getAll key.table entries, ∀ entry ∈ value.entries,
    Text.lowerCase entry.1 = entry.1
  typed : ∀ key : Key, ∀ value ∈ key.valuesIn entries, (key.decode? value).isSome

/-- A document without keys can be a layer. -/
theorem Fits.empty : Fits [] where
  plain := by simp
  section_table := by simp
  lower := by simp
  typed := by simp [Key.valuesIn]

/-- Whether a value is a table is found out by looking at it. -/
instance : (value : Value) → Decidable (∃ inner, value = .table inner)
  | .table inner => isTrue ⟨inner, rfl⟩
  | .null | .bool _ | .integer _ | .float _ | .string _ | .array _ => isFalse (by simp)

/-- Whether all keys have a property is found out key by key. -/
instance (property : Key → Prop) [DecidablePred property] : Decidable (∀ key, property key) :=
  decidable_of_iff (property .comment ∧ property .delimiter ∧ property .skipEmpty ∧
      property .trim ∧ property .format)
    ⟨fun ⟨hcomment, hdelimiter, hskip, htrim, hformat⟩ key ↦ by cases key <;> assumption,
      fun h ↦ ⟨h _, h _, h _, h _, h _⟩⟩

/-- Whether keys decide the same is found out by comparing characters, truth values or formats. -/
instance : (key : Key) → DecidableEq key.Kind
  | .comment | .delimiter => inferInstanceAs (DecidableEq Char)
  | .skipEmpty | .trim => inferInstanceAs (DecidableEq Bool)
  | .format => inferInstanceAs (DecidableEq Format)

/-- Whether a document was found that has a property is found out by looking at it. -/
instance (found : Option Entries) (property : Entries → Prop) [DecidablePred property] :
    Decidable (∃ entries, found = some entries ∧ property entries) :=
  match found with
  | some entries => decidable_of_iff (property entries) (by simp)
  | none => isFalse (by simp)

/-- Whether a document can be a layer is found out by looking at its entries. -/
instance (entries : Entries) : Decidable (Fits entries) :=
  decidable_of_iff ((∀ entry ∈ entries, PlainName entry.1) ∧
      (∀ key : Key, ∀ value ∈ Assoc.getAll key.table entries, ∃ inner, value = .table inner) ∧
      (∀ key : Key, ∀ value ∈ Assoc.getAll key.table entries, ∀ entry ∈ value.entries,
        Text.lowerCase entry.1 = entry.1) ∧
      (∀ key : Key, ∀ value ∈ key.valuesIn entries, (key.decode? value).isSome))
    ⟨fun h ↦ ⟨h.1, h.2.1, h.2.2.1, h.2.2.2⟩, fun h ↦ ⟨h.1, h.2, h.3, h.4⟩⟩

/-! ## One document -/

namespace Tree

/-- The settings of entries, one by one. -/
theorem ofEntries_eq_map (origin : Option String) (entries : Entries) :
    ofEntries origin entries = entries.map fun entry ↦ (entry.1, ofValue origin entry.2) := by
  induction entries with
  | nil => rw [ofEntries, List.map_nil]
  | cons entry entries ih => rw [ofEntries, ih, List.map_cons]

/-- The settings under a key are those of the values under it. -/
theorem getAll_ofEntries (origin : Option String) (key : String) (entries : Entries) :
    Assoc.getAll key (ofEntries origin entries) =
      (Assoc.getAll key entries).map (ofValue origin) := by
  rw [ofEntries_eq_map, Assoc.getAll, Assoc.getAll, List.filterMap_map, List.map_filterMap]
  congr 1
  funext entry
  by_cases hkey : entry.1 = key <;> simp [hkey]

/-- The settings in a table are those of its entries. -/
theorem entries_ofValue (origin : Option String) (value : Value) :
    (ofValue origin value).entries = ofEntries origin value.entries := by
  cases value <;> simp [ofValue, entries, Value.entries, ofEntries]

/-- A value of the type of a key holds no others. -/
theorem ofValue_of_typed {key : Key} {value : Value} (h : (key.decode? value).isSome)
    (origin : Option String) : ofValue origin value = .leaf value origin := by
  cases value with
  | array items => cases key <;> cases h
  | table entries => cases key <;> cases h
  | null | bool | integer | float | string => simp [ofValue]

/-- A setting of a document belongs to one of its entries. -/
theorem mem_ofEntries {origin : Option String} {key : String} {value : Tree} {entries : Entries}
    (h : (key, value) ∈ ofEntries origin entries) :
    ∃ held, (key, held) ∈ entries ∧ value = ofValue origin held := by
  rw [ofEntries_eq_map] at h
  obtain ⟨⟨_, held⟩, hentry, hsame⟩ := List.mem_map.mp h
  obtain ⟨rfl, rfl⟩ := Prod.mk.inj hsame
  exact ⟨held, hentry, rfl⟩

/-- The value that a tree has for a key. -/
def value? (key : Key) (tree : Tree) : Option Value :=
  (tree.at? key.table key.name).map shape

end Tree

namespace Fits

variable {entries : Entries}

/-- The names of a document are those of its settings. -/
theorem plain_ofEntries (h : Fits entries) (origin : Option String) :
    ∀ entry ∈ Tree.ofEntries origin entries, PlainName entry.1 := by
  intro entry hentry
  obtain ⟨held, hheld, -⟩ := Tree.mem_ofEntries hentry
  exact h.plain _ hheld

/-- The settings of the sections of a document can be set. -/
theorem setsSection (h : Fits entries) (origin : Option String) (key : Key) {value : Tree}
    (hvalue : (key.table, value) ∈ Tree.ofEntries origin entries) :
    Tree.SetsSection key.name value := by
  obtain ⟨held, hheld, rfl⟩ := Tree.mem_ofEntries hvalue
  refine ⟨?_, fun entry hentry ↦ ?_, fun named hnamed ↦ ?_⟩
  · obtain ⟨inner, rfl⟩ := h.section_table key held (Assoc.mem_getAll.mpr hheld)
    exact ⟨_, origin, by rw [Tree.ofValue]⟩
  · rw [Tree.entries_ofValue] at hentry
    obtain ⟨inner, hinner, -⟩ := Tree.mem_ofEntries hentry
    exact h.lower key held (Assoc.mem_getAll.mpr hheld) (entry.1, inner) hinner
  · rw [Tree.entries_ofValue] at hnamed
    obtain ⟨inner, hinner, rfl⟩ := Tree.mem_ofEntries hnamed
    have htyped : (key.decode? inner).isSome := by
      refine h.typed key inner (List.mem_flatMap.mpr ⟨held, ?_, ?_⟩)
      · exact Assoc.mem_getAll.mpr hheld
      · exact Assoc.mem_getAll.mpr hinner
    exact ⟨inner, origin, Tree.ofValue_of_typed htyped origin⟩

/-- The values of a document for a key are those of its settings. -/
theorem sectionValues_ofEntries (h : Fits entries) (origin : Option String) (key : Key) :
    Tree.sectionValues key.table key.name (Tree.ofEntries origin entries) =
      (key.valuesIn entries).map fun value ↦ .leaf value origin := by
  have hvalues : Tree.sectionValues key.table key.name (Tree.ofEntries origin entries) =
      (key.valuesIn entries).map (Tree.ofValue origin) := by
    simp only [Tree.sectionValues, Key.valuesIn, Tree.getAll_ofEntries, List.flatMap_map,
      List.map_flatMap, Tree.entries_ofValue]
  rw [hvalues]
  exact List.map_congr_left fun value hvalue ↦
    Tree.ofValue_of_typed (h.typed key value hvalue) origin

end Fits

/-- The values for the keys in a tree that documents were merged into. -/
structure Tree.Decides (tree : Tree) (values : Key → Option Value) : Prop where
  settled : ∀ key : Key, Tree.Settled key.table key.name tree
  value : ∀ key : Key, tree.value? key = values key

/-- Merging a document gives each key the last value that the document has for it, and leaves the other
keys alone. -/
theorem Tree.Decides.mergeSource {tree : Tree} {values : Key → Option Value}
    (h : tree.Decides values) {entries : Entries} (hfits : Fits entries)
    (origin : Option String) :
    (Config.mergeSource origin entries tree).Decides fun key ↦
      (key.valuesIn entries).getLast?.or (values key) := by
  refine ⟨fun key ↦ ?_, fun key ↦ ?_⟩
  · exact (h.settled key).setKeys (hfits.plain_ofEntries origin)
      fun _ hvalue ↦ hfits.setsSection origin key hvalue
  · rw [Config.mergeSource, Tree.value?, Tree.at?_setKeys (hfits.plain_ofEntries origin)
      fun _ hvalue ↦ hfits.setsSection origin key hvalue, hfits.sectionValues_ofEntries,
      List.getLast?_map, ← h.value key, Tree.value?]
    cases (key.valuesIn entries).getLast? <;> rfl

namespace Tree.Decides

variable {tree : Tree} {values : Key → Option Value}

/-- A tree without keys has no values. -/
theorem empty : (Tree.table [] none).Decides fun _ ↦ none where
  settled _ := ⟨by simp [entries], by simp [entries], by simp [entries]⟩
  value _ := rfl

/-- Setting the keys of a tree in an empty one keeps its values. -/
theorem setKeys_entries (h : tree.Decides values) :
    (Tree.setKeys (.table [] none) tree.entries).Decides values where
  settled key :=
    (empty.settled key).setKeys (h.settled key).plain
      fun value hvalue ↦ ((h.settled key).sections value hvalue).toSetsSection
  value key := by
    rw [value?, (h.settled key).at?_setKeys_entries]
    exact h.value key

end Tree.Decides

/-! ## Single keys -/

/-- The document that has one key only. -/
def Key.document (key : Key) (value : Value) : Entries :=
  [(key.table, .table [(key.name, value)])]

/-- A document with one key has its value for it. -/
theorem Key.valuesIn_document_self (key : Key) (value : Value) :
    key.valuesIn (key.document value) = [value] := by
  simp [valuesIn, document, Assoc.getAll, Value.entries]

/-- A document with one key has no value for another one. -/
theorem Key.valuesIn_document_of_ne {key other : Key} (h : key ≠ other) (value : Value) :
    other.valuesIn (key.document value) = [] := by
  by_cases htable : key.table = other.table
  · have hname : key.name ≠ other.name := fun hname ↦ h (Key.eq_of_place htable hname)
    simp [valuesIn, document, Assoc.getAll, Value.entries, htable, hname]
  · simp [valuesIn, document, Assoc.getAll, htable]

/-- A document with one key can be a layer. -/
theorem Key.fits_document {key : Key} {value : Value} (h : (key.decode? value).isSome) :
    Fits (key.document value) where
  plain entry hentry := by
    rw [List.mem_singleton.mp hentry]
    exact key.table_plain
  section_table other held hheld := by
    obtain ⟨-, rfl⟩ := Prod.mk.inj (List.mem_singleton.mp (Assoc.mem_getAll.mp hheld))
    exact ⟨_, rfl⟩
  lower other held hheld entry hentry := by
    obtain ⟨-, rfl⟩ := Prod.mk.inj (List.mem_singleton.mp (Assoc.mem_getAll.mp hheld))
    rw [List.mem_singleton.mp hentry]
    exact key.name_lower
  typed other held hheld := by
    by_cases hsame : key = other
    · subst hsame
      rw [Key.valuesIn_document_self] at hheld
      rwa [List.mem_singleton.mp hheld]
    · rw [Key.valuesIn_document_of_ne hsame] at hheld
      simp at hheld

/-- Setting a single key is merging the document with that key only. -/
theorem Tree.setPath_toPath {key : Key} {value : Value} (h : (key.decode? value).isSome)
    (tree : Tree) :
    tree.setPath key.toPath (.ofValue none value) =
      mergeSource none (key.document value) tree := by
  have hdocument : ofEntries none (key.document value) =
      [(key.table, .table [(key.name, .leaf value none)] none)] := by
    simp [Key.document, ofEntries, ofValue, ofValue_of_typed h]
  have hname := put_leaf key.name value none
  rw [mergeSource, hdocument, setKeys_cons key.table_plain, setKeys, List.foldl_nil, put,
    key.table_plain.lower, putAll, putAll, ofValue_of_typed h, setPath, Key.toPath, setSteps]
  · rw [key.table_plain.lower, setSteps, hname, hname]
    -- a section that is not there yet is made from nothing
    cases tree.get? key.table <;> rfl
  · simp

/-- A path leads to one key. -/
theorem Key.toPath_inj {key other : Key} (h : key.toPath = other.toPath) : key = other := by
  injection h with hfirst hsteps
  exact Key.eq_of_place hfirst (by simpa using hsteps)

/-- Single keys that are set one after the other. -/
theorem Tree.Decides.setPaths {tree : Tree} {values : Key → Option Value}
    (h : tree.Decides values) {overrides : List (Path × Tree)}
    (htyped : ∀ entry ∈ overrides, ∃ (key : Key) (value : Value),
      entry = (key.toPath, .ofValue none value) ∧ (key.decode? value).isSome) :
    (overrides.foldl (fun tree (path, value) ↦ tree.setPath path value) tree).Decides fun key ↦
      ((Assoc.getAll key.toPath overrides).getLast?.map Tree.shape).or (values key) := by
  induction overrides generalizing tree values with
  | nil => simpa using h
  | cons entry overrides ih =>
      obtain ⟨key, value, rfl, hvalue⟩ := htyped entry List.mem_cons_self
      have hmerged := h.mergeSource (Key.fits_document hvalue) none
      rw [← Tree.setPath_toPath hvalue] at hmerged
      have hothers := ih hmerged fun entry hentry ↦ htyped entry (List.mem_cons_of_mem _ hentry)
      refine ⟨hothers.settled, fun other ↦ (hothers.value other).trans ?_⟩
      by_cases hsame : key = other
      · subst hsame
        rw [Key.valuesIn_document_self, List.getLast?_singleton, Assoc.getAll_cons_self,
          List.getLast?_cons, Tree.ofValue_of_typed hvalue]
        cases (Assoc.getAll key.toPath overrides).getLast? <;> rfl
      · have hpath : key.toPath ≠ other.toPath := fun hpath ↦ hsame (Key.toPath_inj hpath)
        rw [Key.valuesIn_document_of_ne hsame, Assoc.getAll_cons_of_ne hpath]
        rfl

/-! ## Settings -/

namespace Tree

/-- A text of one character is read as that character. -/
theorem char_leaf {held : Value} {char : Char} (h : held.char.toOption = some char)
    (origin : Option String) : (leaf held origin).char = .ok char := by
  cases hheld : held.char with
  | error reason => simp [hheld, Except.toOption] at h
  | ok found =>
      obtain rfl : found = char := by simpa [hheld, Except.toOption] using h
      simp [Tree.char, shape, hheld]

/-- A truth value is read as it is. -/
theorem truth_leaf {held : Value} {value : Bool} (h : held.truth? = some value) (key : String)
    (origin : Option String) : (leaf held origin).truth key = .ok value := by
  cases held with
  | bool held =>
      obtain rfl : held = value := Option.some.inj h
      rfl
  | _ => cases h

/-- The name of a format is read as that format. -/
theorem format_leaf {held : Value} {format : Format} (h : held.format? = some format)
    (origin : Option String) : (leaf held origin).format = .ok format := by
  cases held with
  | string name =>
      have hname : Format.ofName? (Text.lowerCase name) = some format := h
      simp [Tree.format, formatOfName, hname]
  | _ => cases h

/-- Where a tree has a value of its type for a key, its section is a table with that value. -/
theorem found_of_value {tree : Tree} {key : Key} {decided : key.Kind}
    (h : (tree.value? key).bind key.decode? = some decided) :
    ∃ entries source held origin, tree.get? key.table = some (.table entries source) ∧
      (Tree.table entries source).get? key.name = some (.leaf held origin) ∧
      key.decode? held = some decided := by
  obtain ⟨held, hheld, hdecode⟩ := Option.bind_eq_some_iff.mp h
  obtain ⟨found, hfound, rfl⟩ := Option.map_eq_some_iff.mp hheld
  obtain ⟨part, hpart, hname⟩ := Option.bind_eq_some_iff.mp hfound
  cases part with
  | leaf | array => simp [get?, entries, Assoc.get?] at hname
  | table entries source =>
      cases found with
      | leaf held origin => exact ⟨entries, source, held, origin, hpart, hname, hdecode⟩
      | array | table => cases key <;> cases hdecode

/-- A tree with a value of its type for each key makes settings of what the values stand for. -/
theorem settings_eq {tree : Tree} {decided : (key : Key) → key.Kind}
    (h : ∀ key, (tree.value? key).bind key.decode? = some (decided key)) :
    tree.settings = .ok
      { reader :=
          { comment := decided .comment
            delimiter := decided .delimiter
            skipEmpty := decided .skipEmpty
            trim := decided .trim }
        format := decided .format } := by
  obtain ⟨_, _, _, _, hreader, hcomment, hcommentTyped⟩ := found_of_value (h .comment)
  obtain ⟨_, _, _, _, hsame, hdelimiter, hdelimiterTyped⟩ := found_of_value (h .delimiter)
  obtain ⟨rfl, rfl⟩ := Tree.table.inj (Option.some.inj (hsame.symm.trans hreader))
  obtain ⟨_, _, _, _, hsame, hskip, hskipTyped⟩ := found_of_value (h .skipEmpty)
  obtain ⟨rfl, rfl⟩ := Tree.table.inj (Option.some.inj (hsame.symm.trans hreader))
  obtain ⟨_, _, _, _, hsame, htrim, htrimTyped⟩ := found_of_value (h .trim)
  obtain ⟨rfl, rfl⟩ := Tree.table.inj (Option.some.inj (hsame.symm.trans hreader))
  obtain ⟨_, _, _, _, houtput, hformat, hformatTyped⟩ := found_of_value (h .format)
  simp only [Key.table, Key.name] at hreader houtput hcomment hdelimiter hskip htrim hformat
  have hcommentRead := char_leaf hcommentTyped
  have hdelimiterRead := char_leaf hdelimiterTyped
  have hskipRead := truth_leaf hskipTyped
  have htrimRead := truth_leaf htrimTyped
  have hformatRead := format_leaf hformatTyped
  simp [settings, hreader, houtput, options, optionsOf, outputFormat, orDefault, hcomment,
    hdelimiter, hskip, htrim, hformat, hcommentRead, hdelimiterRead, hskipRead, htrimRead,
    hformatRead, pure, Except.pure, bind, Except.bind]

end Tree

end Config

end Delimited
