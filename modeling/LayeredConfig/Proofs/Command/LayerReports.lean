import LayeredConfig.Command.Failure
import LayeredConfig.Proofs.Configuration.LayerFiles
import LayeredConfig.Proofs.Text.Lines

/-!
# What is reported of a variable file at fault

Loading a layer fails with its first variable file that gives no entries. If the content of that
file is a text, the failure names the file, and it is reported with its path and with the exit code
of configurations, whatever was being done. A content that is no text is a failure of the file
operation instead, which names no file and has the general exit code.
-/

namespace LayeredConfig

open Text

/-- A failure while several things were being done, outermost first. -/
def Failure.amid (doings : List String) (cause : Failure) : Failure := doings.foldr .within cause

/-- What was being done does not change the exit code, however much it was. -/
theorem Failure.exitCode_amid (doings : List String) (cause : Failure) :
    (cause.amid doings).exitCode = cause.exitCode := by
  induction doings with
  | nil => rfl
  | cons doing rest ih => exact (exitCode_within doing (cause.amid rest)).trans ih

/-- What was being done is reported in front of the messages of a failure. -/
theorem Failure.chain_amid (doings : List String) (cause : Failure) :
    (cause.amid doings).chain = doings ++ cause.chain := by
  induction doings with
  | nil => rfl
  | cons doing rest ih => exact congrArg (doing :: ·) ih

/-- A failure is reported with each of its messages. -/
theorem Failure.infix_report {f : Failure} {message : String} (h : message ∈ f.chain) :
    message.toList <:+: f.report.toList := by
  rw [report, String.toList_append, String.toList_intercalate]
  exact (infix_intercalate (List.mem_map_of_mem h)).trans (List.suffix_append _ _).isInfix

namespace Layer

variable {tree : FileTree} {directory p : Path} {name : String} {e : ConfigError}
  {content : ByteArray}

/-- The file is the first variable file of a directory that gives no entries, by the order of the
names. -/
structure IsFirstFault (tree : FileTree) (directory : Path) (name : String) : Prop where
  /-- It is a variable file. -/
  isVariableFile : tree.HasFile directory name ∧ IsYamlName name
  /-- It gives no entries. -/
  gives_nothing : ¬ ∃ entries, Gives tree (directory.join name) entries
  /-- Every variable file before it gives entries. -/
  before_gives : ∀ other, tree.HasFile directory other → IsYamlName other →
    octets other < octets name → ∃ entries, Gives tree (directory.join other) entries

/-- A file gives no entries exactly when it fails. -/
theorem not_gives_iff : (¬ ∃ entries, Gives tree p entries) ↔ ∃ e, Fails tree p e := by
  cases hfile : ofFile tree p with
  | ok vars =>
    obtain ⟨entries, hgives, -⟩ := ofFile_eq_ok_iff.mp hfile
    refine iff_of_false (fun h => h ⟨entries, hgives⟩) ?_
    rintro ⟨e, hfails⟩
    rw [ofFile_eq_error_iff.mpr hfails] at hfile
    cases hfile
  | error e =>
    refine iff_of_true ?_ ⟨e, ofFile_eq_error_iff.mp hfile⟩
    rintro ⟨entries, hgives⟩
    rw [ofFile_eq_ok_iff.mpr ⟨entries, hgives, rfl⟩] at hfile
    cases hfile

/-- Loading fails exactly with the failure of the first file at fault. -/
theorem load_eq_error_iff_firstFault (hwell : tree.IsWellFormed) :
    load tree directory = .error e ↔
      ∃ name, IsFirstFault tree directory name ∧ Fails tree (directory.join name) e := by
  rw [load_eq_error_iff hwell]
  constructor
  · rintro ⟨before, name, after, hsplit, hbefore, hfails⟩
    have hnames := pairwise_names tree directory
    rw [hsplit, List.pairwise_append, List.pairwise_cons] at hnames
    obtain ⟨-, ⟨hafter, -⟩, -⟩ := hnames
    refine ⟨name, ⟨mem_names_iff.mp (by simp [hsplit]), not_gives_iff.mpr ⟨e, hfails⟩, ?_⟩, hfails⟩
    intro other hfile hyaml hlt
    have hmem : other ∈ names tree directory := mem_names_iff.mpr ⟨hfile, hyaml⟩
    rw [octets_lt_iff] at hlt
    rw [hsplit, List.mem_append, List.mem_cons] at hmem
    rcases hmem with hmem | rfl | hmem
    · exact hbefore other hmem
    · exact absurd hlt (String.lt_irrefl other)
    · exact absurd (String.lt_trans hlt (hafter other hmem)) (String.lt_irrefl other)
  · rintro ⟨name, hfirst, hfails⟩
    obtain ⟨before, after, hsplit⟩ := List.append_of_mem (mem_names_iff.mpr hfirst.isVariableFile)
    have hnames := pairwise_names tree directory
    rw [hsplit, List.pairwise_append] at hnames
    refine ⟨before, name, after, hsplit, fun other hother => ?_, hfails⟩
    have hmem : other ∈ names tree directory := by simp [hsplit, hother]
    obtain ⟨hfile, hyaml⟩ := mem_names_iff.mp hmem
    exact hfirst.before_gives other hfile hyaml
      (octets_lt_iff.mpr (hnames.2.2 other hother name List.mem_cons_self))

/-- A file in a directory has a content. -/
theorem exists_fetch_of_hasFile (h : tree.HasFile directory name) :
    ∃ content, tree.fetch (directory.join name) = .ok content := by
  obtain ⟨location, -, -, hfile⟩ := h
  obtain ⟨place, mode, content, hplace⟩ := FileTree.isFile_iff.mp hfile
  exact ⟨content, FileTree.fetch_eq_ok_iff.mpr ⟨place, mode, hplace⟩⟩

/-- A content that is a text is read as one. -/
theorem exists_fetchText (h : tree.fetch p = .ok content) (hvalid : content.IsValidUTF8) :
    ∃ text, tree.fetchText p = .ok text :=
  ⟨String.fromUTF8 content hvalid, by
    simp only [FileTree.fetchText, h, String.fromUTF8?, dif_pos hvalid]⟩

/-- A content that is no text cannot be read as one. -/
theorem fetchText_of_not_isValidUTF8 (h : tree.fetch p = .ok content)
    (hinvalid : ¬ content.IsValidUTF8) : tree.fetchText p = .error .invalidData := by
  simp only [FileTree.fetchText, h, String.fromUTF8?, dif_neg hinvalid]

/-- A file that is read as a text fails with a fault of that file. -/
theorem Fails.exists_fault (h : Fails tree p e) {text : String}
    (htext : tree.fetchText p = .ok text) : ∃ fault, e = .invalidLayerFile p fault := by
  cases h with
  | unreadable hunreadable =>
    rw [htext] at hunreadable
    cases hunreadable
  | notYaml => exact ⟨_, rfl⟩
  | notMapping => exact ⟨_, rfl⟩
  | unsupportedName => exact ⟨_, rfl⟩

/-- A file that cannot be read as a text fails as the file operation does. -/
theorem Fails.eq_file (h : Fails tree p e) {cause : FileError}
    (htext : tree.fetchText p = .error cause) : e = .file cause := by
  have hfile := ofFile_eq_error_iff.mpr h
  rw [ofFile, htext] at hfile
  exact (Except.error.inj hfile).symm

/-- The failure is reported as one of a variable file: with its path and the exit code of
configurations, whatever was being done. -/
structure IsReported (p : Path) (e : ConfigError) : Prop where
  /-- It names the file and why it holds no variables. -/
  names_file : ∃ fault, e = .invalidLayerFile p fault
  /-- The report holds the path. -/
  infix_report : ∀ doings, p.text.toList <:+: ((Failure.config e).amid doings).report.toList
  /-- The exit code is that of configurations. -/
  exitCode_eq : ∀ doings, ((Failure.config e).amid doings).exitCode = .configuration

/-- The message of a variable file at fault has its path in front of the reason. -/
theorem message_invalidLayerFile (p : Path) (fault : LayerFault) :
    (ConfigError.invalidLayerFile p fault).message =
      "Invalid variable file " ++ p.text ++ ": " ++ fault.message := rfl

/-- A failure that names a variable file is reported as such. -/
theorem isReported_invalidLayerFile (p : Path) (fault : LayerFault) :
    IsReported p (.invalidLayerFile p fault) := by
  have hchain : (ConfigError.invalidLayerFile p fault).message ∈
      (Failure.config (.invalidLayerFile p fault)).chain := by
    simp [Failure.chain, ConfigError.chain]
  refine ⟨⟨fault, rfl⟩, ?_, ?_⟩
  · intro doings
    have hmessage := List.mem_append_right doings hchain
    rw [← Failure.chain_amid] at hmessage
    have hpath : p.text.toList <:+: (ConfigError.invalidLayerFile p fault).message.toList :=
      ⟨"Invalid variable file ".toList, ": ".toList ++ fault.message.toList, by
        simp only [message_invalidLayerFile, String.toList_append, List.append_assoc]⟩
    exact hpath.trans (Failure.infix_report hmessage)
  · intro doings
    rw [Failure.exitCode_amid]
    rfl

/-- Loading a layer fails exactly when one of its variable files gives no entries, and then for the
first of them. The failure is reported as one of that file exactly when the content of the file is
a text, whatever else is wrong with it. Otherwise it is a failure of the file operation, which
names no file and has the general exit code. -/
theorem reports_of_load (hwell : tree.IsWellFormed) (directory : Path) :
    ((∃ e, load tree directory = .error e) ↔ ∃ name, IsFirstFault tree directory name) ∧
    ∀ e, load tree directory = .error e →
      ∃ name content, IsFirstFault tree directory name ∧
        tree.fetch (directory.join name) = .ok content ∧
        (IsReported (directory.join name) e ↔ content.IsValidUTF8) ∧
        (¬ content.IsValidUTF8 → e = .file .invalidData ∧
          ∀ doings, ((Failure.config e).amid doings).exitCode = .general) := by
  constructor
  · simp only [load_eq_error_iff_firstFault hwell]
    constructor
    · rintro ⟨e, name, hfirst, -⟩
      exact ⟨name, hfirst⟩
    · rintro ⟨name, hfirst⟩
      obtain ⟨e, hfails⟩ := not_gives_iff.mp hfirst.gives_nothing
      exact ⟨e, name, hfirst, hfails⟩
  · intro e hload
    obtain ⟨name, hfirst, hfails⟩ := (load_eq_error_iff_firstFault hwell).mp hload
    obtain ⟨content, hfetch⟩ := exists_fetch_of_hasFile hfirst.isVariableFile.1
    refine ⟨name, content, hfirst, hfetch, ?_⟩
    by_cases hvalid : content.IsValidUTF8
    · obtain ⟨text, htext⟩ := exists_fetchText hfetch hvalid
      obtain ⟨fault, rfl⟩ := hfails.exists_fault htext
      exact ⟨iff_of_true (isReported_invalidLayerFile _ fault) hvalid,
        fun hinvalid => absurd hvalid hinvalid⟩
    · obtain rfl := hfails.eq_file (fetchText_of_not_isValidUTF8 hfetch hvalid)
      refine ⟨iff_of_false (fun hreported => ?_) hvalid,
        fun _ => ⟨rfl, fun doings => by rw [Failure.exitCode_amid]; rfl⟩⟩
      obtain ⟨fault, hnamed⟩ := hreported.names_file
      cases hnamed

/-- A directory with a variable file, a list in place of a mapping behind it, and a content that
is no text behind both. -/
def muddledTree : FileTree :=
  ⟨.ofList
    [ (["l"], .directory),
      (["l", "a.yaml"], .file 0o644 "port: 80\n".toUTF8),
      (["l", "b.yml"], .file 0o644 "- port\n".toUTF8),
      (["l", "c.yaml"], .file 0o644 ⟨#[0xe9]⟩) ], []⟩

/-- The list is the first fault, and is reported with its path as a failure of the
configuration. -/
theorem list_is_reported :
    muddledTree.IsWellFormed ∧ ∃ e, load muddledTree ⟨"/l"⟩ = .error e ∧
      IsReported ⟨"/l/b.yml"⟩ e := by
  have hwell : muddledTree.IsWellFormed := by decide +kernel
  have hrun : (match load muddledTree ⟨"/l"⟩ with
      | .error (.invalidLayerFile p _) => decide (p = ⟨"/l/b.yml"⟩)
      | _ => false) = true := by
    decide +kernel
  split at hrun
  · rename_i p fault hload
    obtain rfl : p = ⟨"/l/b.yml"⟩ := of_decide_eq_true hrun
    obtain ⟨name, content, -, -, hreported, hother⟩ := (reports_of_load hwell ⟨"/l"⟩).2 _ hload
    by_cases hvalid : content.IsValidUTF8
    · have h := hreported.mpr hvalid
      obtain ⟨fault, hnamed⟩ := h.names_file
      obtain ⟨hpath, -⟩ := ConfigError.invalidLayerFile.inj hnamed
      exact ⟨hwell, _, hload, hpath ▸ h⟩
    · obtain ⟨hfile, -⟩ := hother hvalid
      cases hfile
  · cases hrun

/-- A directory with one variable file, which is written in Latin-1. -/
def latinTree : FileTree :=
  ⟨.ofList
    [ (["l"], .directory),
      (["l", "a.yaml"], .file 0o644 ⟨#[0x61, 0x3a, 0x20, 0xe9, 0x0a]⟩) ], []⟩

/-- A content in Latin-1 is reported neither with the path of its file nor as a failure of the
configuration. -/
theorem latin_is_not_reported :
    latinTree.IsWellFormed ∧ load latinTree ⟨"/l"⟩ = .error (.file .invalidData) ∧
      ¬ "/l/a.yaml".toList <:+: (Failure.config (.file .invalidData)).report.toList ∧
      (Failure.config (.file .invalidData)).exitCode = .general ∧
      ¬ IsReported ⟨"/l/a.yaml"⟩ (.file .invalidData) := by
  have hrun : (match load latinTree ⟨"/l"⟩ with
      | .error (.file e) => decide (e = .invalidData)
      | _ => false) = true := by
    decide +kernel
  refine ⟨by decide +kernel, ?_, by decide +kernel, rfl, fun hreported => ?_⟩
  · split at hrun
    · rename_i e hload
      rw [hload, of_decide_eq_true hrun]
    · cases hrun
  · obtain ⟨fault, hnamed⟩ := hreported.names_file
    cases hnamed

end Layer

end LayeredConfig
