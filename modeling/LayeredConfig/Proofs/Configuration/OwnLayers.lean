import LayeredConfig.Proofs.Configuration.LayerFiles
import LayeredConfig.Proofs.Configuration.Reads
import LayeredConfig.Proofs.Outcome
import Mathlib.Data.List.Sort

/-!
# Only the own variable files matter

The variables of a request come from the YAML files that stand directly in the
directories of its four layers. In trees without links nothing else is read: two
trees with the same files there resolve the request alike, whatever they hold
elsewhere, and so does a tree before and after a file is written elsewhere.
-/

namespace LayeredConfig

open FileTree (hasFile_iff isEntryName_of_hasFile)

variable {tree tree' : FileTree}

namespace Layer

variable {directory : Path} {name : String} {content : ByteArray}

/-- The variable files that stand in a directory are those that are listed, with the contents
that are read. -/
theorem holdsFile_iff_of_isYamlName (hwell : tree.IsWellFormed) (hfree : tree.IsLinkFree)
    (hyaml : IsYamlName name) :
    tree.HoldsFile directory name content ↔
      name ∈ names tree directory ∧ tree.fetch (directory.join name) = .ok content := by
  rw [mem_names_iff, hasFile_iff hwell hfree]
  constructor
  · intro h
    exact ⟨⟨⟨content, h⟩, hyaml⟩, h.fetch_eq hwell⟩
  · rintro ⟨⟨⟨stored, h⟩, -⟩, hfetch⟩
    rw [h.fetch_eq hwell] at hfetch
    cases hfetch
    exact h

/-- Among paths to entries of a directory, those of its variable files are the layer's files. -/
theorem join_mem_files_iff (hwell : tree.IsWellFormed) (hname : IsEntryName name) :
    directory.join name ∈ files tree directory ↔ name ∈ names tree directory := by
  rw [files_eq_map_names hwell, List.mem_map]
  constructor
  · rintro ⟨other, hother, hjoin⟩
    have hentry := isEntryName_of_hasFile hwell (mem_names_iff.mp hother).1
    rwa [← Path.join_injective directory hentry.2.2.2 hname.2.2.2 hjoin]
  · intro h
    exact ⟨name, h, rfl⟩

/-- Trees in whose directory the same variable files stand list the same names. -/
theorem names_eq_of_holdsFile (hwell : tree.IsWellFormed) (hwell' : tree'.IsWellFormed)
    (hfree : tree.IsLinkFree) (hfree' : tree'.IsLinkFree)
    (h : ∀ name content, IsYamlName name →
      (tree'.HoldsFile directory name content ↔ tree.HoldsFile directory name content)) :
    names tree' directory = names tree directory := by
  refine (pairwise_names tree' directory).eq_of_mem_iff (pairwise_names tree directory)
    fun name => ?_
  rw [mem_names_iff, mem_names_iff, hasFile_iff hwell hfree, hasFile_iff hwell' hfree']
  refine and_congr_left fun hyaml => ?_
  simp only [fun content => h name content hyaml]

/-- Without links, a layer is the same in two trees when the same variable files with the same
contents stand in its directory. -/
theorem same_iff_holdsFile (hwell : tree.IsWellFormed) (hwell' : tree'.IsWellFormed)
    (hfree : tree.IsLinkFree) (hfree' : tree'.IsLinkFree) :
    Same tree tree' directory ↔
      ∀ name content, IsYamlName name →
        (tree'.HoldsFile directory name content ↔ tree.HoldsFile directory name content) := by
  constructor
  · intro h name content hyaml
    rw [holdsFile_iff_of_isYamlName hwell hfree hyaml,
      holdsFile_iff_of_isYamlName hwell' hfree' hyaml]
    by_cases hentry : IsEntryName name
    · rw [← join_mem_files_iff hwell hentry, ← join_mem_files_iff hwell' hentry, h.files]
      exact and_congr_right fun hmem => by rw [h.contents _ hmem]
    · have hnone : ∀ t : FileTree, t.IsWellFormed → name ∉ names t directory :=
        fun t ht hmem => hentry (isEntryName_of_hasFile ht (mem_names_iff.mp hmem).1)
      simp [hnone tree hwell, hnone tree' hwell']
  · intro h
    have hnames := names_eq_of_holdsFile hwell hwell' hfree hfree' h
    refine ⟨?_, fun p hmem => ?_⟩
    · rw [files_eq_map_names hwell', files_eq_map_names hwell, hnames]
    · rw [files_eq_map_names hwell] at hmem
      obtain ⟨name, hname, rfl⟩ := List.mem_map.mp hmem
      obtain ⟨hfile, hyaml⟩ := mem_names_iff.mp hname
      obtain ⟨content, hholds⟩ := (hasFile_iff hwell hfree).mp hfile
      rw [hholds.fetch_eq hwell, ((h name content hyaml).mpr hholds).fetch_eq hwell']

end Layer

namespace Resolution

variable {root : Root} {request : Request}

/-- Without links, trees with the same variable files in the directories of the layers agree on
what the layers are read from. -/
theorem sameLayers_of_holdsFile (hwell : tree.IsWellFormed) (hwell' : tree'.IsWellFormed)
    (hfree : tree.IsLinkFree) (hfree' : tree'.IsLinkFree)
    (hrequired : ∀ directory ∈ root.requiredDirectories,
      tree'.isDirectory directory = tree.isDirectory directory)
    (hfiles : ∀ directory ∈ root.layerDirectories request, ∀ name content, IsYamlName name →
      (tree'.HoldsFile directory name content ↔ tree.HoldsFile directory name content)) :
    root.SameLayers request tree tree' where
  required := hrequired
  layers := fun directory hmem =>
    (Layer.same_iff_holdsFile hwell hwell' hfree hfree').mpr (hfiles directory hmem)

/-- Let two trees without links have the same variable files with the same contents directly in
the directories of the layers of a request, and the directories of environments and services in
both or in neither. Then they give the same variables for the request and resolve it to the same,
or fail for the same reason. A directory of a layer may be missing in one tree and hold no
variable file in the other. -/
theorem resolve_of_own_files (hwell : tree.IsWellFormed) (hwell' : tree'.IsWellFormed)
    (hfree : tree.IsLinkFree) (hfree' : tree'.IsLinkFree)
    (hrequired : ∀ directory ∈ root.requiredDirectories,
      tree'.isDirectory directory = tree.isDirectory directory)
    (hfiles : ∀ directory ∈ root.layerDirectories request, ∀ name content, IsYamlName name →
      (tree'.HoldsFile directory name content ↔ tree.HoldsFile directory name content)) :
    root.layeredVariables tree' request = root.layeredVariables tree request ∧
      resolve root tree' request = resolve root tree request := by
  have hsame := sameLayers_of_holdsFile hwell hwell' hfree hfree' hrequired hfiles
  exact ⟨hsame.layeredVariables_eq, resolve_congr hsame⟩

/-- A configuration with a variable for each layer of a service but one. -/
def harborTree : FileTree :=
  ⟨.ofList
    [ (["c"], .directory),
      (["c", "exconf.yaml"], .file 0o644 ("services_dir_name: s\n" ++
        "templates_dir_name: t\nenvironments_dir_name: e\n").toUTF8),
      (["c", "e"], .directory),
      (["c", "e", "all.yaml"], .file 0o644 "color: red\n".toUTF8),
      (["c", "e", "prod"], .directory),
      (["c", "e", "prod", "all.yml"], .file 0o644 "size: big\n".toUTF8),
      (["c", "s"], .directory),
      (["c", "s", "web"], .directory),
      (["c", "s", "web", "web.yaml"], .file 0o644 "port: 80\n".toUTF8) ], []⟩

/-- The same configuration with another environment and another service, a nested directory,
files of other types, a template and other permission bits, and a directory for the layer that
had none. -/
def crowdedHarborTree : FileTree :=
  ⟨harborTree.nodes.insertAll
    [ (["c", "e", "all.yaml"], .file 0o600 "color: red\n".toUTF8),
      (["c", "e", "notes.txt"], .file 0o644 "color: blue\n".toUTF8),
      (["c", "e", "prod", "old"], .directory),
      (["c", "e", "prod", "old", "all.yaml"], .file 0o644 "size: old\n".toUTF8),
      (["c", "e", "prod", "s"], .directory),
      (["c", "e", "prod", "s", "web"], .directory),
      (["c", "e", "test"], .directory),
      (["c", "e", "test", "all.yaml"], .file 0o644 "size: test\n".toUTF8),
      (["c", "s", "db"], .directory),
      (["c", "s", "db", "db.yaml"], .file 0o644 "port: 90\n".toUTF8),
      (["c", "t"], .directory),
      (["c", "t", "run.sh"], .file 0o755 "echo\n".toUTF8) ], []⟩

/-- What else the crowded configuration holds changes nothing for the service. -/
theorem resolve_harbor :
    ∃ root resolution, Root.openAt harborTree ⟨"/c"⟩ = .ok root ∧
      resolve root harborTree (.ofNames "web" "prod") = .ok resolution ∧
      resolution.values.lookup? "color" = some "red" ∧
      resolve root crowdedHarborTree (.ofNames "web" "prod") = .ok resolution := by
  have hrun : ((Root.openAt harborTree ⟨"/c"⟩).bind fun root =>
      (resolve root harborTree (.ofNames "web" "prod")).bind fun resolution =>
        .ok (root.requiredDirectories, root.layerDirectories (.ofNames "web" "prod"),
          resolution.values.lookup? "color")).toOption =
      some ([⟨"/c/e"⟩, ⟨"/c/s"⟩], [⟨"/c/e"⟩, ⟨"/c/e/prod"⟩, ⟨"/c/s/web"⟩, ⟨"/c/e/prod/s/web"⟩],
        some "red") := by
    decide +kernel
  obtain ⟨root, hopen, hrun⟩ := exists_of_toOption_bind hrun
  obtain ⟨resolution, hresolve, hfound⟩ := exists_of_toOption_bind hrun
  obtain ⟨hrequired, hrest⟩ := Prod.mk.inj (Option.some.inj hfound)
  obtain ⟨hlayers, hcolor⟩ := Prod.mk.inj hrest
  have hwell : harborTree.IsWellFormed := by decide +kernel
  have hwell' : crowdedHarborTree.IsWellFormed := by decide +kernel
  have hfree : harborTree.IsLinkFree := by decide +kernel
  have hfree' : crowdedHarborTree.IsLinkFree := by decide +kernel
  have hdirectories : ∀ directory ∈ root.requiredDirectories,
      crowdedHarborTree.isDirectory directory = harborTree.isDirectory directory := by
    rw [hrequired]
    decide +kernel
  have hread : ∀ directory ∈ root.layerDirectories (.ofNames "web" "prod"),
      Layer.files crowdedHarborTree directory = Layer.files harborTree directory ∧
      ∀ p ∈ Layer.files harborTree directory,
        crowdedHarborTree.fetch p = harborTree.fetch p := by
    rw [hlayers]
    decide +kernel
  have hfiles := fun directory hmem =>
    (Layer.same_iff_holdsFile hwell hwell' hfree hfree').mp
      ⟨(hread directory hmem).1, (hread directory hmem).2⟩
  obtain ⟨-, hsame⟩ := resolve_of_own_files hwell hwell' hfree hfree' hdirectories hfiles
  exact ⟨root, resolution, hopen, hresolve, hcolor, hsame.trans hresolve⟩

/-- Writing a file that is not a variable file of the layers of a request leaves the variables of
the request as they are, and what it is resolved to. -/
theorem resolve_store_elsewhere {p : Path} {content : ByteArray} (hwell : tree.IsWellFormed)
    (hfree : tree.IsLinkFree) (h : tree.store p content = .ok tree')
    (helsewhere : ∀ directory ∈ root.layerDirectories request, ∀ name, IsYamlName name →
      tree.place? (directory.join name) ≠ tree.place? p) :
    root.layeredVariables tree' request = root.layeredVariables tree request ∧
      resolve root tree' request = resolve root tree request := by
  obtain ⟨location, mode, hplace, hwrite⟩ := FileTree.store_eq_ok h
  have hwell' : tree'.IsWellFormed := FileTree.isWellFormed_puts hwell (FileTree.puts_of_store h)
  have hfree' : tree'.IsLinkFree := fun other target =>
    hwrite.ways.node?_ne_link (hfree other target)
  have hsame : root.SameLayers request tree tree' := by
    refine sameLayers_of_holdsFile hwell hwell' hfree hfree' ?_ ?_
    · intro directory _
      exact hwrite.ways.isDirectory directory
    · intro directory hmem name content hyaml
      exact hwrite.holdsFile_iff hwell' hfree (hplace ▸ helsewhere directory hmem name hyaml)
  exact ⟨hsame.layeredVariables_eq, resolve_congr hsame⟩

end Resolution

end LayeredConfig
