import Delimited.Config.Builder

/-!
# Merging settings key by key

A tree of settings holds the value of a key two levels down: in a table under the name of its
section. Setting the keys of a file merges the sections that the file has into those that are there,
so of several values for one key the last one stays, and a key that the file does not have keeps its
value: `Tree.at?_setKeys`.
-/

namespace Delimited

namespace Assoc

variable {κ α : Type} [DecidableEq κ]

/-- All values under a key, in order. -/
def getAll (key : κ) (entries : List (κ × α)) : List α :=
  entries.filterMap fun entry ↦ if entry.1 = key then some entry.2 else none

@[simp] theorem getAll_nil (key : κ) : getAll key ([] : List (κ × α)) = [] := rfl

/-- An entry under the key adds its value. -/
theorem getAll_cons_self (key : κ) (value : α) (entries : List (κ × α)) :
    getAll key ((key, value) :: entries) = value :: getAll key entries := by
  simp [getAll]

/-- An entry under another key adds nothing. -/
theorem getAll_cons_of_ne {key other : κ} (h : other ≠ key) (value : α)
    (entries : List (κ × α)) : getAll key ((other, value) :: entries) = getAll key entries := by
  simp [getAll, h]

/-- The values of entries behind others come behind theirs. -/
@[simp] theorem getAll_append (key : κ) (entries more : List (κ × α)) :
    getAll key (entries ++ more) = getAll key entries ++ getAll key more := by
  simp [getAll]

/-- A value under a key belongs to an entry. -/
theorem mem_getAll {key : κ} {value : α} {entries : List (κ × α)} :
    value ∈ getAll key entries ↔ (key, value) ∈ entries := by
  simp only [getAll, List.mem_filterMap, Option.ite_none_right_eq_some, Option.some.injEq]
  constructor
  · rintro ⟨⟨_, _⟩, hentry, rfl, rfl⟩
    exact hentry
  · intro hentry
    exact ⟨_, hentry, rfl, rfl⟩

/-- The value under a key belongs to an entry. -/
theorem mem_of_get? {key : κ} {value : α} {entries : List (κ × α)}
    (h : get? key entries = some value) : (key, value) ∈ entries := by
  induction entries with
  | nil => simp [get?] at h
  | cons entry rest ih =>
      rw [get?] at h
      split at h
      · rename_i hkey
        obtain ⟨_, _⟩ := entry
        simp_all
      · exact List.mem_cons_of_mem _ (ih h)

/-- A key that is there once has at most one value. -/
theorem getAll_of_nodup {entries : List (κ × α)} (h : (entries.map Prod.fst).Nodup) (key : κ) :
    getAll key entries = (get? key entries).toList := by
  induction entries with
  | nil => rfl
  | cons entry rest ih =>
      obtain ⟨first, value⟩ := entry
      rw [List.map_cons, List.nodup_cons] at h
      by_cases hkey : first = key
      · subst hkey
        have hnone : getAll first rest = [] := by
          refine List.eq_nil_iff_forall_not_mem.mpr fun other hother ↦ h.1 ?_
          exact List.mem_map.mpr ⟨_, mem_getAll.mp hother, rfl⟩
        rw [getAll_cons_self, hnone, get?, if_pos rfl, Option.toList_some]
      · rw [getAll_cons_of_ne hkey, get?, if_neg hkey, ih h.2]

end Assoc

namespace Text

/-- The character is a small letter of the alphabet or an underscore. -/
def isSmall (char : Char) : Bool :=
  'a' ≤ char && char ≤ 'z' || char == '_'

/-- Small letters are their own lower case. -/
theorem lowerChar_of_isSmall {char : Char} (h : isSmall char = true) : lowerChar char = char := by
  have hall : ∀ code ∈ '_'.toNat :: List.range' 'a'.toNat 26,
      lowerChar (Char.ofNat code) = Char.ofNat code := by
    decide +kernel
  have hcode : char.toNat ∈ '_'.toNat :: List.range' 'a'.toNat 26 := by
    simp only [isSmall, Bool.or_eq_true, Bool.and_eq_true, decide_eq_true_eq, beq_iff_eq] at h
    rw [List.mem_cons, List.mem_range'_1]
    obtain ⟨hfirst, hlast⟩ | rfl := h
    · have hfirst : 'a'.toNat ≤ char.toNat := hfirst
      have hlast : char.toNat ≤ 'z'.toNat := hlast
      exact Or.inr ⟨hfirst, Nat.lt_succ_of_le hlast⟩
    · exact Or.inl rfl
  simpa only [Char.ofNat_toNat] using hall char.toNat hcode

/-- Text of small letters is its own lower case. -/
theorem lowerCase_of_isSmall {text : String} (h : text.toList.all isSmall = true) :
    lowerCase text = text := by
  have hchars (chars before : List Char) (hsmall : ∀ char ∈ chars, isSmall char = true) :
      lowerChars before chars = chars := by
    induction chars generalizing before with
    | nil => rfl
    | cons char rest ih =>
        have hchar := hsmall char List.mem_cons_self
        have hsigma : char ≠ '\u03a3' := by
          rintro rfl
          exact absurd hchar (by decide)
        have hdotted : char ≠ '\u0130' := by
          rintro rfl
          exact absurd hchar (by decide)
        rw [lowerChars, if_neg hsigma, if_neg hdotted, lowerChar_of_isSmall hchar,
          ih _ fun other hother ↦ hsmall other (List.mem_cons_of_mem char hother)]
        rfl
  rw [lowerCase, hchars _ _ (List.all_eq_true.mp h), String.ofList_toList]

end Text

namespace Config

/-- The name is its own lower case and has no part of a path in it. -/
structure PlainName (name : String) : Prop where
  lower : Text.lowerCase name = name
  dot : '.' ∉ name.toList
  bracket : '[' ∉ name.toList

/-- A name of small letters is plain. -/
theorem PlainName.of_isSmall {name : String} (h : name.toList.all Text.isSmall = true) :
    PlainName name where
  lower := Text.lowerCase_of_isSmall h
  dot hdot := absurd (List.all_eq_true.mp h '.' hdot) (by decide)
  bracket hbracket := absurd (List.all_eq_true.mp h '[' hbracket) (by decide)

/-- Whether a name is plain is found out character by character. -/
instance (name : String) : Decidable (PlainName name) :=
  decidable_of_iff (Text.lowerCase name = name ∧ '.' ∉ name.toList ∧ '[' ∉ name.toList)
    ⟨fun h ↦ ⟨h.1, h.2.1, h.2.2⟩, fun h ↦ ⟨h.1, h.2, h.3⟩⟩

/-- Behind a name stands no other character than those that start a step. -/
theorem Path.parseSteps_stray {char : Char} (hdot : char ≠ '.') (hbracket : char ≠ '[')
    (fuel : Nat) (rest : List Char) :
    parseSteps (fuel + 1) (char :: rest) = .error .strayCharacter := by
  unfold parseSteps
  split <;> simp_all

/-- A name is read off the front of a text. -/
theorem Path.parseName_split {chars rest : List Char} {first : String}
    (h : parseName chars = some (first, rest)) : first.toList ++ rest = chars := by
  have hsplit : chars.takeWhile isNameChar ++ chars.drop (chars.takeWhile isNameChar).length =
      chars := List.prefix_iff_eq_append.mp (List.takeWhile_prefix _)
  unfold parseName at h
  simp only [Option.ite_none_left_eq_some, Option.some.injEq, Prod.mk.injEq] at h
  obtain ⟨-, rfl, rfl⟩ := h
  rwa [String.toList_ofList]

/-- A name that is read as a path is one without further steps. -/
theorem PlainName.path_eq {name : String} (h : PlainName name) {path : Path}
    (hparse : Path.parse name = .ok path) : path = { first := name } := by
  unfold Path.parse at hparse
  cases hname : Path.parseName name.toList with
  | none => simp [hname] at hparse
  | some read =>
      obtain ⟨first, rest⟩ := read
      have hsplit := Path.parseName_split hname
      simp only [hname] at hparse
      cases rest with
      | nil =>
          obtain rfl : first = name := by simpa [← String.toList_inj] using hsplit
          exact (Except.ok.inj hparse).symm
      | cons char rest =>
          have hmem : char ∈ name.toList := hsplit ▸ by simp
          have hdot : char ≠ '.' := fun hchar ↦ h.dot (hchar ▸ hmem)
          have hbracket : char ≠ '[' := fun hchar ↦ h.bracket (hchar ▸ hmem)
          rw [Path.parseSteps_stray hdot hbracket] at hparse
          exact absurd hparse (by simp [bind, Except.bind])

namespace Tree

/-- A value that was put under a key of a tree is found there. -/
@[simp] theorem get?_setChild_self (tree : Tree) (key : String) (value : Tree) :
    (tree.setChild key value).get? key = some value :=
  Assoc.get?_set_self key value tree.entries

/-- Putting a value under a key of a tree leaves the other keys alone. -/
theorem get?_setChild_of_ne {key other : String} (h : other ≠ key) (tree value : Tree) :
    (tree.setChild key value).get? other = tree.get? other :=
  Assoc.get?_set_of_ne h value tree.entries

/-- Setting a key leaves those alone that are not its lower case. -/
theorem get?_put_of_ne {key other : String} (h : other ≠ Text.lowerCase key) (value tree : Tree) :
    (put key value tree).get? other = tree.get? other := by
  cases value <;> exact get?_setChild_of_ne h _ _

/-- A plain name is set like a name and not like a path. -/
theorem setKey_of_plain {name : String} (h : PlainName name) (value tree : Tree) :
    tree.setKey name value = put name value tree := by
  unfold setKey
  split
  · rename_i path hparse
    rw [h.path_eq hparse]
    rfl
  · rfl

/-- A value that holds no others replaces what is there. -/
theorem put_leaf (key : String) (held : Value) (origin : Option String) (tree : Tree) :
    put key (.leaf held origin) tree = tree.setChild (Text.lowerCase key) (.leaf held origin) := by
  simp [put]

/-- Of the values that entries set a name to, the last one stays. -/
theorem get?_putAll {name : String} {entries : List (String × Tree)}
    (hlower : ∀ entry ∈ entries, Text.lowerCase entry.1 = entry.1)
    (hleaf : ∀ value, (name, value) ∈ entries → ∃ held origin, value = .leaf held origin)
    (tree : Tree) :
    (putAll entries tree).get? name = (Assoc.getAll name entries).getLast?.or (tree.get? name) := by
  induction entries generalizing tree with
  | nil => simp [putAll]
  | cons entry entries ih =>
      obtain ⟨key, value⟩ := entry
      have hkey : Text.lowerCase key = key := hlower (key, value) List.mem_cons_self
      have hothers := ih (fun entry hentry ↦ hlower entry (List.mem_cons_of_mem _ hentry))
        (fun value hvalue ↦ hleaf value (List.mem_cons_of_mem _ hvalue)) (put key value tree)
      rw [putAll, hothers]
      by_cases hname : key = name
      · subst hname
        obtain ⟨held, origin, rfl⟩ := hleaf _ List.mem_cons_self
        rw [put_leaf, hkey, get?_setChild_self, Assoc.getAll_cons_self, List.getLast?_cons]
        cases (Assoc.getAll key entries).getLast? <;> rfl
      · rw [Assoc.getAll_cons_of_ne hname, get?_put_of_ne (by rw [hkey]; exact Ne.symm hname)]

/-- The values under a name in the tables of a section, in order. -/
def sectionValues (table name : String) (entries : List (String × Tree)) : List Tree :=
  (Assoc.getAll table entries).flatMap fun value ↦ Assoc.getAll name value.entries

/-- The keys of a section can be set: they are their own lower case, and the value under the name
holds no others. -/
structure SetsSection (name : String) (value : Tree) : Prop where
  table : ∃ entries origin, value = .table entries origin
  lower : ∀ entry ∈ value.entries, Text.lowerCase entry.1 = entry.1
  leaf : ∀ named, (name, named) ∈ value.entries → ∃ held origin, named = .leaf held origin

/-- A table that is set under its name is merged with the one that is there. -/
theorem at?_put_table {table name : String} (htable : Text.lowerCase table = table) {value : Tree}
    (h : SetsSection name value) (tree : Tree) :
    (put table value tree).at? table name =
      (Assoc.getAll name value.entries).getLast?.or (tree.at? table name) := by
  obtain ⟨⟨entries, origin, rfl⟩, hlower, hleaf⟩ := h
  simp only [Tree.entries] at hlower hleaf ⊢
  rw [put, htable, at?, get?_setChild_self, Option.bind_some, get?_putAll hlower hleaf, at?]
  cases tree.get? table <;> rfl

/-- Keys with plain names are set one after the other. -/
theorem setKeys_cons {key : String} (h : PlainName key) (value : Tree)
    (entries : List (String × Tree)) (tree : Tree) :
    tree.setKeys ((key, value) :: entries) = (put key value tree).setKeys entries := by
  rw [← setKey_of_plain h]
  rfl

/-- Of the values that entries set a name in a section to, the last one stays. -/
theorem at?_setKeys {table name : String} {entries : List (String × Tree)}
    (hplain : ∀ entry ∈ entries, PlainName entry.1)
    (hsections : ∀ value, (table, value) ∈ entries → SetsSection name value) (tree : Tree) :
    (tree.setKeys entries).at? table name =
      (sectionValues table name entries).getLast?.or (tree.at? table name) := by
  induction entries generalizing tree with
  | nil => simp [setKeys, sectionValues]
  | cons entry entries ih =>
      obtain ⟨key, value⟩ := entry
      have hkey : PlainName key := hplain (key, value) List.mem_cons_self
      have hothers := ih (fun entry hentry ↦ hplain entry (List.mem_cons_of_mem _ hentry))
        (fun value hvalue ↦ hsections value (List.mem_cons_of_mem _ hvalue)) (put key value tree)
      rw [setKeys_cons hkey, hothers]
      by_cases htable : key = table
      · subst htable
        have hvalue := hsections value List.mem_cons_self
        rw [at?_put_table hkey.lower hvalue, sectionValues, sectionValues, Assoc.getAll_cons_self,
          List.flatMap_cons, List.getLast?_append, Option.or_assoc]
      · have hother : table ≠ Text.lowerCase key := by
          rw [hkey.lower]
          exact Ne.symm htable
        rw [at?, get?_put_of_ne hother, sectionValues, sectionValues,
          Assoc.getAll_cons_of_ne htable]
        rfl

/-- A section of a tree that files were merged into: its keys are its own, each of them once, and the
value under the name holds no others. -/
structure SettledSection (name : String) (value : Tree) : Prop extends SetsSection name value where
  nodup : (value.entries.map Prod.fst).Nodup

/-- A table without keys is a section. -/
theorem SettledSection.empty (name : String) (origin : Option String) :
    SettledSection name (.table [] origin) where
  table := ⟨[], origin, rfl⟩
  lower := by simp [entries]
  leaf := by simp [entries]
  nodup := by simp [entries]

/-- Setting a key puts a value under its lower case, and a value that holds no others as it is. -/
theorem put_eq_setChild (key : String) (value tree : Tree) :
    ∃ settled, put key value tree = tree.setChild (Text.lowerCase key) settled ∧
      ∀ held origin, value = .leaf held origin → settled = value := by
  cases value with
  | leaf held origin => exact ⟨_, put_leaf key held origin tree, fun _ _ _ ↦ rfl⟩
  | array items origin => exact ⟨_, by rw [put]; simp, by simp⟩
  | table entries origin => exact ⟨_, by rw [put], by simp⟩

/-- Setting a key of a section leaves it a section. -/
theorem SettledSection.put {name key : String} {part value : Tree}
    (h : SettledSection name part) (hkey : Text.lowerCase key = key)
    (hleaf : key = name → ∃ held origin, value = .leaf held origin) :
    SettledSection name (Tree.put key value part) := by
  obtain ⟨settled, hput, hsettled⟩ := put_eq_setChild key value part
  rw [hkey] at hput
  rw [hput]
  refine ⟨⟨⟨_, _, rfl⟩, fun entry hentry ↦ ?_, fun named hnamed ↦ ?_⟩, ?_⟩
  · rcases Assoc.mem_set hentry with rfl | hold
    · exact hkey
    · exact h.lower entry hold
  · rcases Assoc.mem_set hnamed with hnew | hold
    · obtain ⟨hname, rfl⟩ := Prod.mk.inj hnew
      obtain ⟨held, origin, hvalue⟩ := hleaf hname.symm
      exact ⟨held, origin, (hsettled held origin hvalue).trans hvalue⟩
    · exact h.leaf named hold
  · exact Assoc.nodup_set h.nodup key settled

/-- Setting keys of a section leaves it a section. -/
theorem SettledSection.putAll {name : String} {part : Tree} (h : SettledSection name part)
    {entries : List (String × Tree)}
    (hlower : ∀ entry ∈ entries, Text.lowerCase entry.1 = entry.1)
    (hleaf : ∀ value, (name, value) ∈ entries → ∃ held origin, value = .leaf held origin) :
    SettledSection name (Tree.putAll entries part) := by
  induction entries generalizing part with
  | nil => rwa [Tree.putAll]
  | cons entry entries ih =>
      obtain ⟨key, value⟩ := entry
      have hkey : Text.lowerCase key = key := hlower (key, value) List.mem_cons_self
      rw [Tree.putAll]
      refine ih (h.put hkey ?_)
        (fun entry hentry ↦ hlower entry (List.mem_cons_of_mem _ hentry))
        (fun value hvalue ↦ hleaf value (List.mem_cons_of_mem _ hvalue))
      rintro rfl
      exact hleaf value List.mem_cons_self

/-- A tree that files were merged into: its keys are plain names, each of them once, and the section
is one if it is there. -/
structure Settled (table name : String) (tree : Tree) : Prop where
  plain : ∀ entry ∈ tree.entries, PlainName entry.1
  nodup : (tree.entries.map Prod.fst).Nodup
  sections : ∀ value, (table, value) ∈ tree.entries → SettledSection name value

/-- Setting a key leaves a tree settled. -/
theorem Settled.put {table name key : String} {tree value : Tree} (h : Settled table name tree)
    (hkey : PlainName key) (hvalue : key = table → SetsSection name value) :
    Settled table name (Tree.put key value tree) := by
  obtain ⟨settled, hput, -⟩ := put_eq_setChild key value tree
  rw [hkey.lower] at hput
  have hsection : key = table → SettledSection name settled := by
    rintro rfl
    obtain ⟨⟨entries, origin, rfl⟩, hlower, hleaf⟩ := hvalue rfl
    have hget := get?_setChild_self tree key settled
    rw [← hput, Tree.put, hkey.lower, get?_setChild_self] at hget
    obtain rfl := Option.some.inj hget
    refine SettledSection.putAll ?_ hlower hleaf
    cases hold : tree.get? key with
    | none => exact .empty name none
    | some old => exact h.sections old (Assoc.mem_of_get? hold)
  rw [hput]
  refine ⟨fun entry hentry ↦ ?_, Assoc.nodup_set h.nodup key settled, fun other hother ↦ ?_⟩
  · rcases Assoc.mem_set hentry with rfl | hold
    · exact hkey
    · exact h.plain entry hold
  · rcases Assoc.mem_set hother with hnew | hold
    · obtain ⟨htable, rfl⟩ := Prod.mk.inj hnew
      exact hsection htable.symm
    · exact h.sections other hold

/-- Setting keys leaves a tree settled. -/
theorem Settled.setKeys {table name : String} {tree : Tree} (h : Settled table name tree)
    {entries : List (String × Tree)} (hplain : ∀ entry ∈ entries, PlainName entry.1)
    (hsections : ∀ value, (table, value) ∈ entries → SetsSection name value) :
    Settled table name (tree.setKeys entries) := by
  induction entries generalizing tree with
  | nil => exact h
  | cons entry entries ih =>
      obtain ⟨key, value⟩ := entry
      have hkey : PlainName key := hplain (key, value) List.mem_cons_self
      rw [setKeys_cons hkey]
      refine ih (h.put hkey ?_) (fun entry hentry ↦ hplain entry (List.mem_cons_of_mem _ hentry))
        (fun value hvalue ↦ hsections value (List.mem_cons_of_mem _ hvalue))
      rintro rfl
      exact hsections value List.mem_cons_self

/-- The values of a settled tree are those that are found in it. -/
theorem Settled.sectionValues_eq {table name : String} {tree : Tree}
    (h : Settled table name tree) :
    sectionValues table name tree.entries = (tree.at? table name).toList := by
  rw [sectionValues, Assoc.getAll_of_nodup h.nodup, at?]
  cases hpart : Assoc.get? table tree.entries with
  | none => simp [get?, hpart]
  | some part =>
      have hnodup := (h.sections part (Assoc.mem_of_get? hpart)).nodup
      simp [get?, hpart, Assoc.getAll_of_nodup hnodup]

/-- Setting the keys of a settled tree in an empty one keeps the values. -/
theorem Settled.at?_setKeys_entries {table name : String} {tree : Tree}
    (h : Settled table name tree) :
    (Tree.setKeys (.table [] none) tree.entries).at? table name = tree.at? table name := by
  have hsections := fun value hvalue ↦ (h.sections value hvalue).toSetsSection
  rw [at?_setKeys h.plain hsections, h.sectionValues_eq]
  cases tree.at? table name <;> simp [at?, get?, entries, Assoc.get?]

end Tree

end Config

end Delimited
