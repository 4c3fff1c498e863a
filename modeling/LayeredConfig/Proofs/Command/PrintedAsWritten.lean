import LayeredConfig.Command.Program
import LayeredConfig.Proofs.Configuration.LenientResolution
import LayeredConfig.Proofs.Configuration.OutputPlaces
import LayeredConfig.Proofs.Configuration.PrintedOutputs
import LayeredConfig.Proofs.Configuration.Reads
import Mathlib.Data.Prod.Basic

/-!
# Printing what would be written

To write templates, the target directory is made first and the request is resolved
as it stands. To print them, nothing is made, and the request is resolved leniently
before the requirement for the bodies is set. Both show the same outputs as long as
the target directory is apart from what the request reads: making it changes nothing
that is read, and no template is in it.
-/

namespace LayeredConfig

namespace WorkDirectory

variable {tree made final : FileTree} {out : Path} {r : Resolution} {w : WorkDirectory}

/-- A target directory is apart from what a request reads. -/
structure IsApart (root : Root) (request : Request) (tree made : FileTree) (out : Path) :
    Prop where
  /-- By making it, none of the directories that the layers need came to be. -/
  required : ∀ directory ∈ root.requiredDirectories,
    made.isDirectory directory = tree.isDirectory directory
  /-- No variable file came to be where the layers are read from. -/
  layers : ∀ directory ∈ root.layerDirectories request,
    Layer.files made directory = Layer.files tree directory
  /-- Neither did the directory of the templates, or a template. -/
  templates : ∀ r, Resolution.resolve root tree request = .ok r → r.SameTemplates tree made
  /-- No path directly in it leads to a template. -/
  spared : ∀ r sources, Resolution.resolve root tree request = .ok r →
    r.templateFiles tree = .ok sources → SparesSources made out sources

end WorkDirectory

namespace Program

open WorkDirectory (Target)

variable {s : Surroundings} {given : Option Path} {t : TargetArguments} {ignoreMissing : Bool}
  {directory out : Path} {root : Root} {request : Request} {made final : FileTree} {text : String}

end Program

end LayeredConfig
