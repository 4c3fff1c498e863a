import LayeredConfig.Proofs.Files.RegularFiles
import LayeredConfig.Proofs.Outcome
import LayeredConfig.Proofs.Text.ByteOrder

/-!
# What a layer holds

A layer is read from the regular files of a directory that are named as YAML files, in the byte
order of their names. Each of them gives entries or fails for a reason of its own, and the first
that fails decides the failure. Where all of them give entries, a name is bound to the value of
the last entry whose key spells it, over all files.
-/

namespace LayeredConfig

open Text

/-- A key that spells a variable name: a text, a truth value or a number. -/
def Value.SpellsName : Value → Prop
  | .string _ | .bool _ | .number _ => True
  | _ => False

/-- The keys that spell names are those that have one. -/
theorem Value.isSome_name?_iff {key : Value} : key.name?.isSome ↔ key.SpellsName := by
  cases key <;> simp [name?, SpellsName]

/-- The name ends as those of YAML files do. -/
def IsYamlName (name : String) : Prop :=
  ".yaml".toList <:+ name.toList ∨ ".yml".toList <:+ name.toList

instance (name : String) : Decidable (IsYamlName name) := inferInstanceAs (Decidable (_ ∨ _))

namespace Layer

variable {tree : FileTree} {directory p : Path} {entries : List (Value × Value)}
  {vars vars' : Variables} {name : String}

/-! ## The entries of a file -/

/-- The file holds the entries, in document order: none if it is empty or null, else those of a
mapping without a tag. -/
inductive Gives (tree : FileTree) (p : Path) : List (Value × Value) → Prop
  /-- The document is null. -/
  | null {text : String} : tree.fetchText p = .ok text → Yaml.read text = .ok .null →
      Gives tree p []
  /-- The document is a mapping, and every key spells a name. -/
  | mapping {text : String} {entries : List (Value × Value)} : tree.fetchText p = .ok text →
      Yaml.read text = .ok (.mapping entries) → (∀ entry ∈ entries, entry.1.SpellsName) →
      Gives tree p entries

/-- The file holds no variables, for a reason. -/
inductive Fails (tree : FileTree) (p : Path) : ConfigError → Prop
  /-- It cannot be read as a text. -/
  | unreadable {e : FileError} : tree.fetchText p = .error e → Fails tree p (.file e)
  /-- It is not valid YAML. -/
  | notYaml {text : String} {e : Yaml.SyntaxError} : tree.fetchText p = .ok text →
      Yaml.read text = .error e → Fails tree p (.invalidLayerFile p (.notYaml e.message))
  /-- The document is neither null nor a mapping without a tag. -/
  | notMapping {text : String} {document : Value} : tree.fetchText p = .ok text →
      Yaml.read text = .ok document → document ≠ .null →
      (∀ entries, document ≠ .mapping entries) → Fails tree p (.invalidLayerFile p .notMapping)
  /-- A key of the mapping spells no name; it is the first of this kind. -/
  | unsupportedName {text : String} {before after : List (Value × Value)} {key value : Value} :
      tree.fetchText p = .ok text →
      Yaml.read text = .ok (.mapping (before ++ (key, value) :: after)) →
      (∀ entry ∈ before, entry.1.SpellsName) → ¬ key.SpellsName →
      Fails tree p (.invalidLayerFile p (.unsupportedName key))

/-- The variables that entries bind, in document order. -/
def bindings (entries : List (Value × Value)) : List (String × Value) :=
  entries.filterMap fun entry => entry.1.name?.map fun name => (name, entry.2)

/-- Entries give variables when every key spells a name; each binds its own. -/
theorem ofEntries_eq_ok_iff :
    ofEntries entries vars = .ok vars' ↔
      (∀ entry ∈ entries, entry.1.SpellsName) ∧ vars' = vars.insertAll (bindings entries) := by
  induction entries generalizing vars with
  | nil => simp [ofEntries, bindings, SortedMap.insertAll, eq_comm]
  | cons entry rest ih =>
    obtain ⟨key, value⟩ := entry
    rw [ofEntries, List.forall_mem_cons, ← Value.isSome_name?_iff]
    cases hname : key.name? with
    | none => simp
    | some name =>
      have hbindings : bindings ((key, value) :: rest) = (name, value) :: bindings rest := by
        simp [bindings, hname]
      rw [hbindings]
      simp [ih, SortedMap.insertAll]

/-- Entries fail with the first key that spells no name. -/
theorem ofEntries_eq_error_iff {fault : LayerFault} :
    ofEntries entries vars = .error fault ↔
      ∃ before key value after, entries = before ++ (key, value) :: after ∧
        (∀ entry ∈ before, entry.1.SpellsName) ∧ ¬ key.SpellsName ∧
        fault = .unsupportedName key := by
  induction entries generalizing vars with
  | nil => simp [ofEntries]
  | cons entry rest ih =>
    obtain ⟨key, value⟩ := entry
    rw [ofEntries]
    constructor
    · intro h
      cases hname : key.name? with
      | none =>
        rw [hname] at h
        cases h
        refine ⟨[], key, value, rest, rfl, by simp, ?_, rfl⟩
        rw [← Value.isSome_name?_iff, hname]
        simp
      | some name =>
        rw [hname] at h
        obtain ⟨before, bad, other, after, rfl, hbefore, hbad, hfault⟩ := ih.mp h
        have hkey : key.SpellsName := Value.isSome_name?_iff.mp (by rw [hname]; rfl)
        exact ⟨(key, value) :: before, bad, other, after, rfl,
          List.forall_mem_cons.mpr ⟨hkey, hbefore⟩, hbad, hfault⟩
    · rintro ⟨before, bad, other, after, hsplit, hbefore, hbad, hfault⟩
      rcases List.cons_eq_append_iff.mp hsplit with ⟨rfl, hsame⟩ | ⟨before, rfl, rfl⟩
      · cases hsame
        have hnone : key.name? = none := by simpa [← Value.isSome_name?_iff] using hbad
        rw [hnone, hfault]
      · obtain ⟨hkey, hbefore⟩ := List.forall_mem_cons.mp hbefore
        obtain ⟨name, hname⟩ := Option.isSome_iff_exists.mp (Value.isSome_name?_iff.mpr hkey)
        rw [hname]
        exact ih.mpr ⟨before, bad, other, after, rfl, hbefore, hbad, hfault⟩

/-- What a file gives is decided by its document. -/
theorem ofFile_of_document {text : String} {document : Value}
    (htext : tree.fetchText p = .ok text) (hread : Yaml.read text = .ok document) :
    ofFile tree p =
      match ofDocument document with
      | .ok vars => .ok vars
      | .error fault => .error (.invalidLayerFile p fault) := by
  have hofText : ofText text = ofDocument document := by rw [ofText, hread]
  cases hdocument : ofDocument document with
  | ok vars => simp only [ofFile, htext, hofText, hdocument]
  | error fault => simp only [ofFile, htext, hofText, hdocument]

/-- A document gives variables when it is null or a mapping whose keys spell names. -/
theorem ofDocument_eq_ok_iff {document : Value} :
    ofDocument document = .ok vars ↔
      document = .null ∧ vars = .empty ∨
        ∃ entries, document = .mapping entries ∧ (∀ entry ∈ entries, entry.1.SpellsName) ∧
          vars = .ofList (bindings entries) := by
  cases document with
  | null => simp [ofDocument, eq_comm]
  | mapping entries =>
    rw [ofDocument, ofEntries_eq_ok_iff]
    simp [SortedMap.ofList]
  | _ => simp [ofDocument]

-- A text without any document is read as null.
example : ofText "# none\n" = .ok .empty := rfl

/-- A document fails when it is neither null nor a mapping, or a mapping with a key that spells no
name. -/
theorem ofDocument_eq_error_iff {document : Value} {fault : LayerFault} :
    ofDocument document = .error fault ↔
      document ≠ .null ∧ (∀ entries, document ≠ .mapping entries) ∧ fault = .notMapping ∨
        ∃ before key value after, document = .mapping (before ++ (key, value) :: after) ∧
          (∀ entry ∈ before, entry.1.SpellsName) ∧ ¬ key.SpellsName ∧
          fault = .unsupportedName key := by
  cases document with
  | null => simp [ofDocument]
  | mapping entries =>
    rw [ofDocument, ofEntries_eq_error_iff]
    simp
  | _ => simp [ofDocument, eq_comm]

/-- A file gives variables when it holds entries. -/
theorem ofFile_eq_ok_iff :
    ofFile tree p = .ok vars ↔
      ∃ entries, Gives tree p entries ∧ vars = .ofList (bindings entries) := by
  constructor
  · intro h
    cases htext : tree.fetchText p with
    | error e => simp [ofFile, htext] at h
    | ok text =>
      cases hread : Yaml.read text with
      | error e => simp [ofFile, ofText, htext, hread] at h
      | ok document =>
        rw [ofFile_of_document htext hread] at h
        split at h
        · rename_i vars' hdocument
          cases h
          rcases ofDocument_eq_ok_iff.mp hdocument with ⟨rfl, rfl⟩ | ⟨entries, rfl, hkeys, rfl⟩
          · exact ⟨[], .null htext hread, rfl⟩
          · exact ⟨entries, .mapping htext hread hkeys, rfl⟩
        · cases h
  · rintro ⟨entries, hgives, rfl⟩
    cases hgives with
    | null htext hread =>
      rw [ofFile_of_document htext hread]
      rfl
    | mapping htext hread hkeys =>
      rw [ofFile_of_document htext hread,
        ofDocument_eq_ok_iff.mpr (.inr ⟨entries, rfl, hkeys, rfl⟩)]

/-- A file fails when it holds no variables, and for that reason. -/
theorem ofFile_eq_error_iff {e : ConfigError} : ofFile tree p = .error e ↔ Fails tree p e := by
  constructor
  · intro h
    cases htext : tree.fetchText p with
    | error problem =>
      rw [ofFile, htext] at h
      cases h
      exact .unreadable htext
    | ok text =>
      cases hread : Yaml.read text with
      | error problem =>
        simp only [ofFile, ofText, htext, hread] at h
        cases h
        exact .notYaml htext hread
      | ok document =>
        rw [ofFile_of_document htext hread] at h
        split at h
        · cases h
        · rename_i fault hdocument
          cases h
          rcases ofDocument_eq_error_iff.mp hdocument with
            ⟨hnull, hmapping, rfl⟩ | ⟨before, key, value, after, rfl, hbefore, hkey, rfl⟩
          · exact .notMapping htext hread hnull hmapping
          · exact .unsupportedName htext hread hbefore hkey
  · intro h
    cases h with
    | unreadable htext => rw [ofFile, htext]
    | notYaml htext hread => simp only [ofFile, ofText, htext, hread]
    | notMapping htext hread hnull hmapping =>
      rw [ofFile_of_document htext hread,
        ofDocument_eq_error_iff.mpr (.inl ⟨hnull, hmapping, rfl⟩)]
    | unsupportedName htext hread hbefore hkey =>
      rw [ofFile_of_document htext hread,
        ofDocument_eq_error_iff.mpr (.inr ⟨_, _, _, _, rfl, hbefore, hkey, rfl⟩)]

/-! ## The files of a layer -/

/-- The layer of a directory that is not there is empty. -/
theorem load_of_not_isDirectory (h : tree.isDirectory directory = false) :
    load tree directory = .ok SortedMap.empty := by
  rw [load, files, Listing.scan_of_not_isDirectory .file h]
  rfl

/-- The names of the variable files of a directory, in ascending order. -/
def names (tree : FileTree) (directory : Path) : List String :=
  (tree.fileNames directory).filter fun name => IsYamlName name

/-- The variable files are the regular files whose names end as those of YAML files. -/
theorem mem_names_iff :
    name ∈ names tree directory ↔ tree.HasFile directory name ∧ IsYamlName name := by
  rw [names, List.mem_filter, decide_eq_true_eq, FileTree.mem_fileNames_iff]

/-- The names of the variable files ascend strictly. -/
theorem pairwise_names (tree : FileTree) (directory : Path) :
    (names tree directory).Pairwise (· < ·) :=
  (tree.pairwise_fileNames directory).filter _

/-- A path that ends in the name of an entry names a YAML file when that name does. -/
theorem isYaml_join (hname : IsEntryName name) :
    (directory.join name).isYaml = decide (IsYamlName name) := by
  rw [Path.isYaml, Path.fileName?_join directory hname, Bool.eq_iff_iff, decide_eq_true_eq]
  simp only [IsYamlName, Bool.or_eq_true, List.isSuffixOf_iff_suffix]

/-- A layer is read from the variable files of its directory. -/
theorem files_eq_map_names (hwell : tree.IsWellFormed) (directory : Path) :
    files tree directory = (names tree directory).map directory.join := by
  rw [files, Listing.orEmpty_scan_file, List.filter_map, names]
  refine congrArg _ (List.filter_congr fun name hmem => ?_)
  have hfile := FileTree.mem_fileNames_iff.mp hmem
  exact isYaml_join (FileTree.isEntryName_of_hasFile hwell hfile)

/-- Laying files over variables reads every file and then lays what they give over one another. -/
theorem overlayFiles_eq_mapM (paths : List Path) (vars : Variables) :
    overlayFiles tree paths vars =
      (paths.mapM (ofFile tree)).map fun layers => layers.foldl SortedMap.overlay vars := by
  induction paths generalizing vars with
  | nil => rfl
  | cons p rest ih =>
    rw [overlayFiles, List.mapM_cons]
    cases ofFile tree p with
    | error e => rfl
    | ok above =>
      dsimp only
      rw [ih]
      cases rest.mapM (ofFile tree) with
      | error e => rfl
      | ok others => rfl

/-- Loading a layer reads the variable files of its directory, one after the other. -/
theorem load_eq_mapM (hwell : tree.IsWellFormed) (directory : Path) :
    load tree directory =
      ((names tree directory).mapM fun name => ofFile tree (directory.join name)).map
        fun layers => layers.foldl SortedMap.overlay .empty := by
  rw [load, files_eq_map_names hwell, overlayFiles_eq_mapM, List.mapM_map]
  rfl

/-! ## The last entry of a name -/

/-- The value of the last entry whose key spells the name. -/
def lastValue? (name : String) (entries : List (Value × Value)) : Option Value :=
  entries.reverse.findSome? fun entry =>
    if entry.1.name? = some name then some entry.2 else none

/-- What the last entry of a name is: no entry behind it has the name. -/
theorem lastValue?_eq_some_iff {value : Value} :
    lastValue? name entries = some value ↔
      ∃ before key after, entries = before ++ (key, value) :: after ∧ key.name? = some name ∧
        ∀ entry ∈ after, entry.1.name? ≠ some name := by
  rw [lastValue?, List.findSome?_eq_some_iff]
  constructor
  · rintro ⟨front, ⟨key, value'⟩, back, hsplit, hfound, hfront⟩
    rw [Option.ite_none_right_eq_some] at hfound
    obtain ⟨hname, hvalue⟩ := hfound
    cases hvalue
    refine ⟨back.reverse, key, front.reverse, ?_, hname, fun entry hmem hentry => ?_⟩
    · rw [← List.reverse_reverse entries, hsplit]
      simp
    · have hnone := hfront entry (List.mem_reverse.mp hmem)
      rw [if_pos hentry] at hnone
      cases hnone
  · rintro ⟨before, key, after, rfl, hname, hafter⟩
    refine ⟨after.reverse, (key, value), before.reverse, by simp, if_pos hname, ?_⟩
    intro entry hmem
    exact if_neg (hafter entry (List.mem_reverse.mp hmem))

/-- Entries behind others come first when the last one is looked for. -/
theorem lastValue?_append (name : String) (first second : List (Value × Value)) :
    lastValue? name (first ++ second) = (lastValue? name second).or (lastValue? name first) := by
  rw [lastValue?, List.reverse_append, List.findSome?_append]
  rfl

/-- The variables of entries have the values of the last entries. -/
theorem get?_ofList_bindings (name : String) (entries : List (Value × Value)) :
    (SortedMap.ofList (bindings entries)).get? name = lastValue? name entries := by
  rw [SortedMap.ofList, SortedMap.get?_insertAll, SortedMap.get?_empty, Option.or_none, bindings,
    ← List.filterMap_reverse, lastValue?]
  induction entries.reverse with
  | nil => rfl
  | cons entry rest ih =>
    rw [List.findSome?_cons, ← ih]
    cases hname : entry.1.name? with
    | none => simp [hname]
    | some other =>
      by_cases hsame : other = name
      · simp [hname, hsame, SortedMap.findEntry]
      · simp [hname, hsame, SortedMap.findEntry]

/-- Documents laid over variables give every name the value of its last entry in all of them. -/
theorem get?_foldl_overlay (name : String) (documents : List (List (Value × Value)))
    (vars : Variables) :
    ((documents.map fun entries => SortedMap.ofList (bindings entries)).foldl
      SortedMap.overlay vars).get? name =
        (lastValue? name documents.flatten).or (vars.get? name) := by
  induction documents generalizing vars with
  | nil => rfl
  | cons entries rest ih =>
    rw [List.map_cons, List.foldl_cons, ih, SortedMap.get?_overlay, get?_ofList_bindings,
      List.flatten_cons, lastValue?_append, Option.or_assoc]

/-! ## Loading a layer -/

/-- Loading fails with the first variable file that holds no variables. -/
theorem load_eq_error_iff (hwell : tree.IsWellFormed) {e : ConfigError} :
    load tree directory = .error e ↔
      ∃ before name after, names tree directory = before ++ name :: after ∧
        (∀ other ∈ before, ∃ entries, Gives tree (directory.join other) entries) ∧
        Fails tree (directory.join name) e := by
  have hgives : ∀ other, (∃ vars, ofFile tree (directory.join other) = .ok vars) ↔
      ∃ entries, Gives tree (directory.join other) entries := by
    intro other
    simp only [ofFile_eq_ok_iff]
    constructor
    · rintro ⟨vars, entries, hentries, -⟩
      exact ⟨entries, hentries⟩
    · rintro ⟨entries, hentries⟩
      exact ⟨_, entries, hentries, rfl⟩
  rw [load_eq_mapM hwell, except_map_eq_error_iff, mapM_eq_error_iff]
  simp only [hgives, ofFile_eq_error_iff]

/-- Loading fails exactly when one of the variable files holds no variables. -/
theorem exists_load_eq_error_iff (hwell : tree.IsWellFormed) :
    (∃ e, load tree directory = .error e) ↔
      ∃ name ∈ names tree directory, ∃ e, Fails tree (directory.join name) e := by
  constructor
  · rintro ⟨e, h⟩
    obtain ⟨before, name, after, hsplit, -, hfails⟩ := (load_eq_error_iff hwell).mp h
    exact ⟨name, by simp [hsplit], e, hfails⟩
  · rintro ⟨name, hname, e, hfails⟩
    cases hload : load tree directory with
    | error e' => exact ⟨e', rfl⟩
    | ok vars =>
      rw [load_eq_mapM hwell, except_map_eq_ok_iff] at hload
      obtain ⟨layers, hlayers, -⟩ := hload
      obtain ⟨above, habove⟩ := exists_mapM_eq_ok_iff.mp ⟨layers, hlayers⟩ name hname
      rw [ofFile_eq_error_iff.mpr hfails] at habove
      cases habove

/-- Files that all give variables hold entries, from which the variables come. -/
theorem exists_documents {names : List String} {layers : List Variables}
    (h : names.mapM (fun name => ofFile tree (directory.join name)) = .ok layers) :
    ∃ documents : List (String × List (Value × Value)), documents.map Prod.fst = names ∧
      (∀ document ∈ documents, Gives tree (directory.join document.1) document.2) ∧
      layers = (documents.map Prod.snd).map fun entries => .ofList (bindings entries) := by
  induction names generalizing layers with
  | nil =>
    cases h
    exact ⟨[], rfl, by simp, rfl⟩
  | cons name rest ih =>
    rw [List.mapM_cons, except_bind_eq_ok_iff] at h
    obtain ⟨vars, hvars, h⟩ := h
    obtain ⟨others, hothers, h⟩ := except_bind_eq_ok_iff.mp h
    cases h
    obtain ⟨entries, hgives, rfl⟩ := ofFile_eq_ok_iff.mp hvars
    obtain ⟨documents, rfl, hrest, rfl⟩ := ih hothers
    exact ⟨(name, entries) :: documents, rfl, List.forall_mem_cons.mpr ⟨hgives, hrest⟩, rfl⟩

/-- The layer of a directory that is missing is empty. Otherwise it is read from the regular files
in the directory that are named as YAML files, in the byte order of their names. It fails exactly
when one of them cannot be read or holds no variables, with the failure of the first of these. And
what is loaded binds a name to the value of the last entry whose key spells it, by the order of the
files and then by the order in the document. -/
theorem load_of_files (hwell : tree.IsWellFormed) (directory : Path) :
    (tree.isDirectory directory = false → load tree directory = .ok .empty) ∧
    ∃ names : List String, names.Pairwise (fun a b => octets a < octets b) ∧
      (∀ name, name ∈ names ↔ tree.HasFile directory name ∧
        (".yaml".toList <:+ name.toList ∨ ".yml".toList <:+ name.toList)) ∧
      ((∃ e, load tree directory = .error e) ↔
        ∃ name ∈ names, ∃ e, Fails tree (directory.join name) e) ∧
      (∀ e, load tree directory = .error e ↔
        ∃ before name after, names = before ++ name :: after ∧
          (∀ other ∈ before, ∃ entries, Gives tree (directory.join other) entries) ∧
          Fails tree (directory.join name) e) ∧
      ∀ vars, load tree directory = .ok vars →
        ∃ documents : List (String × List (Value × Value)), documents.map Prod.fst = names ∧
          (∀ document ∈ documents, Gives tree (directory.join document.1) document.2) ∧
          ∀ name value, vars.get? name = some value ↔
            ∃ before key after,
              (documents.map Prod.snd).flatten = before ++ (key, value) :: after ∧
              key.name? = some name ∧ ∀ entry ∈ after, entry.1.name? ≠ some name := by
  refine ⟨load_of_not_isDirectory, names tree directory, ?_, fun name => mem_names_iff,
    exists_load_eq_error_iff hwell, fun e => load_eq_error_iff hwell, ?_⟩
  · exact (pairwise_names tree directory).imp octets_lt_iff.mpr
  · intro vars hload
    rw [load_eq_mapM hwell, except_map_eq_ok_iff] at hload
    obtain ⟨layers, hlayers, rfl⟩ := hload
    obtain ⟨documents, hnames, hgives, rfl⟩ := exists_documents hlayers
    refine ⟨documents, hnames, hgives, fun name value => ?_⟩
    rw [get?_foldl_overlay, SortedMap.get?_empty, Option.or_none, lastValue?_eq_some_iff]

/-- A directory with two variable files, whose keys have the same texts in part. A text file and
a directory with the name of a variable file stand beside them. -/
def collidingTree : FileTree :=
  ⟨.ofList
    [ (["l"], .directory),
      (["l", "a.yaml"], .file 0o644 "1: x\n\"1\": y\ntrue: t\n".toUTF8),
      (["l", "b.yml"], .file 0o644 "\"true\": u\n".toUTF8),
      (["l", "c.yaml"], .directory),
      (["l", "notes.txt"], .file 0o644 "1: z\n".toUTF8) ], []⟩

/-- Keys with the same text collide in the directory, in one file and over both: the value of a
name comes from an entry behind which no other has the name. -/
theorem load_colliding :
    collidingTree.IsWellFormed ∧ ∃ vars, load collidingTree ⟨"/l"⟩ = .ok vars ∧
      vars.lookup? "1" = some "y" ∧ vars.lookup? "true" = some "u" ∧
      ∃ documents : List (String × List (Value × Value)),
        (∀ document ∈ documents,
          Gives collidingTree (Path.join ⟨"/l"⟩ document.1) document.2) ∧
        ∀ name value, vars.get? name = some value ↔
          ∃ before key after,
            (documents.map Prod.snd).flatten = before ++ (key, value) :: after ∧
            key.name? = some name ∧ ∀ entry ∈ after, entry.1.name? ≠ some name := by
  have hwell : collidingTree.IsWellFormed := by decide +kernel
  have hrun : ((load collidingTree ⟨"/l"⟩).bind fun vars =>
      .ok (vars.lookup? "1", vars.lookup? "true")).toOption = some (some "y", some "u") := by
    decide +kernel
  obtain ⟨vars, hload, hlookup⟩ := exists_of_toOption_bind hrun
  obtain ⟨hone, htrue⟩ := Prod.mk.inj (Option.some.inj hlookup)
  obtain ⟨-, _, -, -, -, -, hsuccess⟩ := load_of_files hwell ⟨"/l"⟩
  obtain ⟨documents, -, hgives, hlast⟩ := hsuccess vars hload
  exact ⟨hwell, vars, hload, hone, htrue, documents, hgives, hlast⟩

end Layer

end LayeredConfig
