import LayeredConfig.Configuration.Resolution
import LayeredConfig.Proofs.Configuration.LayerFiles
import LayeredConfig.Proofs.Lookup

/-!
# Which source decides a variable

The variables of a request come from eight sources. Loading them succeeds
exactly when the two required directories are there and the four layers load,
and every name then has the value of the most particular source that binds it,
taken as it stands.
-/

namespace LayeredConfig

namespace Root

/-- An opened root has the variables of its descriptor, under the path of the
root, and the settings that these hold. -/
theorem openAt_eq_ok {tree : FileTree} {place : Path} {root : Root}
    (h : openAt tree place = .ok root) :
    ∃ document, Layer.ofFile tree (root.path.join ConfigError.descriptorName) = .ok document ∧
      root.descriptor = document.insert pathVariable (.string root.path.text) ∧
      Settings.ofVariables root.descriptor = .ok root.settings := by
  rw [openAt] at h
  split at h
  · split at h
    · cases h
    · rename_i path hpath
      split at h
      · cases h
      · rename_i document hdocument
        dsimp only at h
        split at h
        · cases h
        · rename_i settings hsettings
          cases h
          exact ⟨document, hdocument, rfl, hsettings⟩
  · cases h

/-- What is done with a required directory succeeds exactly when the directory is there and
the step succeeds on it. -/
theorem existingDirectory_then_eq_ok_iff {r : Root} {tree : FileTree} {role : DirectoryRole}
    {name : String} {α : Type} {f : Path → Except ConfigError α} {a : α} :
    (match r.existingDirectory tree role name with
      | .ok directory => f directory
      | .error e => .error e) = .ok a ↔
      tree.isDirectory (r.path.join name) = true ∧ f (r.path.join name) = .ok a := by
  rw [existingDirectory]
  by_cases hd : tree.isDirectory (r.path.join name) = true
  · simp [hd]
  · simp [hd]

/-- The variables of the four layers of a request. -/
structure Layers where
  /-- For all services in all environments. -/
  everywhere : Variables
  /-- For all services in the environment. -/
  environment : Variables
  /-- For the service in all environments. -/
  service : Variables
  /-- For the service in the environment. -/
  here : Variables

/-- Both required directories are there, and every layer is what its directory holds. -/
structure LoadsLayers (r : Root) (tree : FileTree) (request : Request) (layers : Layers) :
    Prop where
  /-- The directory of environments is there. -/
  environments : tree.isDirectory (r.path.join r.settings.environmentsDirectory) = true
  /-- The directory of services is there. -/
  services : tree.isDirectory (r.path.join r.settings.servicesDirectory) = true
  /-- The directory of environments holds the layer of all environments. -/
  everywhere : Layer.load tree (r.path.join r.settings.environmentsDirectory) =
    .ok layers.everywhere
  /-- The directory of the environment holds the layer of the environment. -/
  environment : Layer.load tree ((r.path.join r.settings.environmentsDirectory).join
    request.environment) = .ok layers.environment
  /-- The directory of the service holds the layer of the service. -/
  service : Layer.load tree ((r.path.join r.settings.servicesDirectory).join
    request.service) = .ok layers.service
  /-- The directory of the service in the environment holds the most particular layer. -/
  here : Layer.load tree ((((r.path.join r.settings.environmentsDirectory).join
    request.environment).join r.settings.servicesDirectory).join request.service) =
    .ok layers.here

variable {r : Root} {tree : FileTree} {request : Request} {vars : Variables}

/-- The layer of all environments loads when the directory of environments is there. -/
theorem globalLayer_eq_ok_iff :
    r.globalLayer tree = .ok vars ↔
      tree.isDirectory (r.path.join r.settings.environmentsDirectory) = true ∧
      Layer.load tree (r.path.join r.settings.environmentsDirectory) = .ok vars :=
  existingDirectory_then_eq_ok_iff

/-- The layer of an environment needs the directory of environments. -/
theorem environmentLayer_eq_ok_iff {environment : String} :
    r.environmentLayer tree environment = .ok vars ↔
      tree.isDirectory (r.path.join r.settings.environmentsDirectory) = true ∧
      Layer.load tree ((r.path.join r.settings.environmentsDirectory).join environment) =
        .ok vars :=
  existingDirectory_then_eq_ok_iff (f := fun directory =>
    Layer.load tree (directory.join environment))

/-- The layer of a service needs the directory of services. -/
theorem serviceLayer_eq_ok_iff {service : String} :
    r.serviceLayer tree service = .ok vars ↔
      tree.isDirectory (r.path.join r.settings.servicesDirectory) = true ∧
      Layer.load tree ((r.path.join r.settings.servicesDirectory).join service) = .ok vars :=
  existingDirectory_then_eq_ok_iff (f := fun directory =>
    Layer.load tree (directory.join service))

/-- The layer of a service in an environment needs the directory of environments only. -/
theorem serviceInEnvironmentLayer_eq_ok_iff {service environment : String} :
    r.serviceInEnvironmentLayer tree service environment = .ok vars ↔
      tree.isDirectory (r.path.join r.settings.environmentsDirectory) = true ∧
      Layer.load tree ((((r.path.join r.settings.environmentsDirectory).join
        environment).join r.settings.servicesDirectory).join service) = .ok vars := by
  rw [serviceInEnvironmentLayer, servicesDirectoryIn, environmentsDirectory, existingDirectory]
  by_cases hd : tree.isDirectory (r.path.join r.settings.environmentsDirectory) = true
  · simp [hd]
  · simp [hd]

/-- The layers of a request over its base variables, and the extra variables on top. -/
def layered (r : Root) (request : Request) (layers : Layers) : Variables :=
  (((((r.baseVariables request).overlay layers.everywhere).overlay layers.environment).overlay
    layers.service).overlay layers.here).overlay request.extra

/-- Loading succeeds exactly when the required directories are there and the layers load, and
gives the layers over one another. -/
theorem layeredVariables_eq_ok_iff :
    r.layeredVariables tree request = .ok vars ↔
      ∃ layers, r.LoadsLayers tree request layers ∧ vars = r.layered request layers := by
  simp only [layeredVariables, except_bind_eq_ok_iff, globalLayer_eq_ok_iff,
    environmentLayer_eq_ok_iff, serviceLayer_eq_ok_iff, serviceInEnvironmentLayer_eq_ok_iff]
  constructor
  · rintro ⟨everywhere, ⟨henvironments, heverywhere⟩, environment, ⟨-, henvironment⟩, service,
      ⟨hservices, hservice⟩, here, ⟨-, hhere⟩, hvars⟩
    refine ⟨⟨everywhere, environment, service, here⟩, ?_, ?_⟩
    · exact ⟨henvironments, hservices, heverywhere, henvironment, hservice, hhere⟩
    · cases hvars
      rfl
  · rintro ⟨layers, hload, rfl⟩
    exact ⟨layers.everywhere, ⟨hload.environments, hload.everywhere⟩, layers.environment,
      ⟨hload.environments, hload.environment⟩, layers.service, ⟨hload.services, hload.service⟩,
      layers.here, ⟨hload.environments, hload.here⟩, rfl⟩

/-- The sources of a request's variables, from the most particular on: the extra variables, the
layers of the service in the environment, of the service, of the environment and of all
environments, the names of service and environment, the path of the root, and the document of
the descriptor. -/
def sources (r : Root) (request : Request) (layers : Layers) (document : Variables) :
    List Variables :=
  [ request.extra,
    layers.here,
    layers.service,
    layers.environment,
    layers.everywhere,
    .ofList [(serviceVariable, .string request.service),
      (environmentVariable, .string request.environment)],
    .ofList [(pathVariable, .string r.path.text)],
    document ]

/-- The first of several sources answers before the others. -/
theorem findSome?_get?_cons (source : Variables) (rest : List Variables) (name : String) :
    (source :: rest).findSome? (·.get? name) =
      (source.get? name).or (rest.findSome? (·.get? name)) := by
  rw [List.findSome?_cons]
  cases source.get? name with
  | none => rfl
  | some value => rfl

/-- Layers over one another answer a name from the first source that binds it. -/
theorem get?_layered {layers : Layers} {document : Variables}
    (h : r.descriptor = document.insert pathVariable (.string r.path.text)) (name : String) :
    (r.layered request layers).get? name =
      (r.sources request layers document).findSome? (·.get? name) := by
  have hbase : (r.baseVariables request).get? name =
      ((SortedMap.ofList [(serviceVariable, Value.string request.service),
        (environmentVariable, .string request.environment)]).get? name).or
        (((SortedMap.ofList [(pathVariable, Value.string r.path.text)]).get? name).or
          (document.get? name)) := by
    rw [baseVariables, h]
    simp only [SortedMap.ofList, SortedMap.insertAll, List.foldl, SortedMap.get?_insert,
      SortedMap.get?_empty]
    split
    · rfl
    · split
      · rfl
      · split
        · rfl
        · rfl
  simp only [layered, sources, SortedMap.get?_overlay, hbase, findSome?_get?_cons,
    List.findSome?_nil, Option.or_none]

/-- A null in a source hides what less particular sources say: the name is bound to null, and
no text stands for it. -/
theorem lookup?_of_null {before after : List Variables} {source : Variables} {name : String}
    (hvars : vars.get? name = (before ++ source :: after).findSome? (·.get? name))
    (hbefore : ∀ other ∈ before, other.get? name = none) (hsource : source.get? name = some .null) :
    vars.get? name = some .null ∧ vars.lookup? name = none := by
  have hnone : before.findSome? (·.get? name) = none := List.findSome?_eq_none_iff.mpr hbefore
  have hnull : vars.get? name = some .null := by
    rw [hvars, List.findSome?_append, hnone, findSome?_get?_cons, hsource]
    rfl
  constructor
  · exact hnull
  · rw [Variables.lookup?, hnull]
    rfl

/-- Loading all variables of a request from an opened root succeeds exactly when the directories
of environments and services are there and the four layers load; a layer without a directory is
empty. What is loaded gives every name the value of the first source that binds it, and a null
there hides the values behind it. -/
theorem layeredVariables_of_openAt {opened : FileTree} {place : Path}
    (h : openAt opened place = .ok r) (tree : FileTree) (request : Request) :
    ∃ document,
      Layer.ofFile opened (r.path.join ConfigError.descriptorName) = .ok document ∧
      Settings.ofVariables (document.insert pathVariable (.string r.path.text)) =
        .ok r.settings ∧
      ((∃ vars, r.layeredVariables tree request = .ok vars) ↔
        ∃ layers, r.LoadsLayers tree request layers) ∧
      (∀ directory, tree.isDirectory directory = false →
        Layer.load tree directory = .ok SortedMap.empty) ∧
      ∀ layers vars, r.LoadsLayers tree request layers →
        r.layeredVariables tree request = .ok vars →
        (∀ name, vars.get? name =
          (r.sources request layers document).findSome? (·.get? name)) ∧
        ∀ before source after name,
          r.sources request layers document = before ++ source :: after →
          (∀ other ∈ before, other.get? name = none) → source.get? name = some .null →
          vars.get? name = some .null ∧ vars.lookup? name = none := by
  obtain ⟨document, hdocument, hdescriptor, hsettings⟩ := openAt_eq_ok h
  refine ⟨document, hdocument, hdescriptor ▸ hsettings, ?_, ?_, ?_⟩
  · constructor
    · rintro ⟨vars, hvars⟩
      obtain ⟨layers, hload, -⟩ := layeredVariables_eq_ok_iff.mp hvars
      exact ⟨layers, hload⟩
    · rintro ⟨layers, hload⟩
      exact ⟨r.layered request layers, layeredVariables_eq_ok_iff.mpr ⟨layers, hload, rfl⟩⟩
  · intro directory hmissing
    exact Layer.load_of_not_isDirectory hmissing
  · intro layers vars hload hvars
    have hall : ∀ name, vars.get? name =
        (r.sources request layers document).findSome? (·.get? name) := by
      intro name
      have hlayered : r.layeredVariables tree request = .ok (r.layered request layers) :=
        layeredVariables_eq_ok_iff.mpr ⟨layers, hload, rfl⟩
      rw [hlayered] at hvars
      cases hvars
      exact get?_layered hdescriptor name
    refine ⟨hall, ?_⟩
    intro before source after name hsplit hbefore hsource
    have hname : vars.get? name = (before ++ source :: after).findSome? (·.get? name) := by
      rw [hall name, hsplit]
    exact lookup?_of_null hname hbefore hsource

/-- A small configuration: the environment changes what holds everywhere. -/
def paletteTree : FileTree :=
  ⟨.ofList
    [ (["c"], .directory),
      (["c", "exconf.yaml"], .file 0o644 ("services_dir_name: s\n" ++
        "templates_dir_name: t\nenvironments_dir_name: e\n").toUTF8),
      (["c", "e"], .directory),
      (["c", "e", "all.yaml"], .file 0o644 "color: red\nsize: big\n".toUTF8),
      (["c", "e", "prod"], .directory),
      (["c", "e", "prod", "all.yml"], .file 0o644 "size: null\n".toUTF8),
      (["c", "s"], .directory) ], []⟩

/-- A request that takes the color away. -/
def colorlessRequest : Request := ⟨"web", "prod", .ofList [("color", .null)], true⟩

/-- In the small configuration the variables load though two layers have no directory, every
name has its value from the first source, and the color is hidden. -/
theorem layeredVariables_palette :
    ∃ r document layers vars,
      openAt paletteTree ⟨"/c"⟩ = .ok r ∧
      r.LoadsLayers paletteTree colorlessRequest layers ∧
      r.layeredVariables paletteTree colorlessRequest = .ok vars ∧
      (∀ name, vars.get? name =
        (r.sources colorlessRequest layers document).findSome? (·.get? name)) ∧
      vars.get? "color" = some .null ∧ vars.lookup? "color" = none := by
  have hrun : (((openAt paletteTree ⟨"/c"⟩).bind fun r =>
      (r.layeredVariables paletteTree colorlessRequest).bind fun _ => .ok ()).toOption) =
        some () := by
    decide +kernel
  obtain ⟨r, hopen, hrun⟩ := exists_of_toOption_bind hrun
  obtain ⟨vars, hvars, -⟩ := exists_of_toOption_bind hrun
  obtain ⟨document, -, -, hiff, -, hall⟩ :=
    layeredVariables_of_openAt hopen paletteTree colorlessRequest
  obtain ⟨layers, hload⟩ := hiff.mp ⟨vars, hvars⟩
  obtain ⟨hfirst, hnull⟩ := hall layers vars hload hvars
  have hcolor := hnull [] colorlessRequest.extra _ "color" rfl (by simp) rfl
  exact ⟨r, document, layers, vars, hopen, hload, hvars, hfirst, hcolor⟩

end Root

end LayeredConfig
