import LayeredConfig.Configuration.TemplateFiles
import LayeredConfig.Proofs.Template.Leniency
import Mathlib.Control.Monad.Basic

/-!
# Requests resolved in both modes

The layers of a request do not depend on its mode, and the mode of a renderer is
the only thing that its settings do not decide. So a request that can be
resolved strictly is resolved leniently to the same variables and settings, and
every template with a text in the strict resolution has this text in the lenient
one.
-/

namespace LayeredConfig

open Template (Renderer)

/-- Settings that give a renderer give it in either mode. -/
theorem Settings.renderer_requiring {s : Settings} {renderer : Renderer} {requireAll : Bool}
    (h : s.renderer requireAll = .ok renderer) (other : Bool) :
    s.renderer other = .ok (renderer.requiring other) := by
  rw [Settings.renderer] at h ⊢
  split at h
  · rename_i found hfound
    cases h
    rw [Renderer.ofMarkup?_requiring hfound other]
  · cases h

namespace Resolution

variable {root : Root} {tree : FileTree} {request : Request} {vars expanded : Variables}
  {strict : Resolution}

/-- The resolution with a lenient renderer for template bodies. -/
def lenient (r : Resolution) : Resolution :=
  { r with request := r.request.withRequirement false, renderer := r.renderer.requiring false }

/-- Variables that are expanded strictly are expanded leniently to the same. -/
theorem expand_lenient (h : expand vars true = .ok expanded) :
    expand vars false = .ok expanded := by
  rw [expand] at h ⊢
  obtain ⟨settings, hsettings, h⟩ := except_bind_eq_ok_iff.mp h
  obtain ⟨renderer, hrenderer, h⟩ := except_bind_eq_ok_iff.mp h
  refine except_bind_eq_ok_iff.mpr ⟨settings, hsettings, ?_⟩
  refine except_bind_eq_ok_iff.mpr ⟨_, Settings.renderer_requiring hrenderer false, ?_⟩
  split at h
  · rename_i found hfound
    cases h
    -- the settings give one renderer, so it is in strict mode already
    have hstrict := Settings.renderer_requiring hrenderer true
    rw [hrenderer, Except.ok.injEq] at hstrict
    rw [hstrict] at hfound
    rw [(Template.Renderer.sameUnless_renderVariables renderer vars).eq_ok hfound]
    rfl
  · cases h

/-- The settings of a resolution give its renderer, in the mode of its request. -/
theorem renderer_of_ofVariables (h : ofVariables root request vars = .ok strict) :
    strict.settings.renderer request.requireAll = .ok strict.renderer := by
  rw [ofVariables] at h
  obtain ⟨settings, hsettings, h⟩ := except_bind_eq_ok_iff.mp h
  obtain ⟨renderer, hrenderer, h⟩ := except_bind_eq_ok_iff.mp h
  obtain ⟨delimiters, hdelimiters, h⟩ := except_bind_eq_ok_iff.mp h
  cases h
  exact hrenderer

/-- Variables that give a strict resolution give the lenient one. -/
theorem ofVariables_lenient
    (h : ofVariables root (request.withRequirement true) vars = .ok strict) :
    ofVariables root (request.withRequirement false) vars = .ok strict.lenient := by
  rw [ofVariables] at h ⊢
  obtain ⟨settings, hsettings, h⟩ := except_bind_eq_ok_iff.mp h
  obtain ⟨renderer, hrenderer, h⟩ := except_bind_eq_ok_iff.mp h
  obtain ⟨delimiters, hdelimiters, h⟩ := except_bind_eq_ok_iff.mp h
  cases h
  refine except_bind_eq_ok_iff.mpr ⟨settings, hsettings, ?_⟩
  refine except_bind_eq_ok_iff.mpr ⟨_, Settings.renderer_requiring hrenderer false, ?_⟩
  exact except_bind_eq_ok_iff.mpr ⟨delimiters, hdelimiters, rfl⟩

/-- A request that is resolved strictly is resolved leniently: it is the strict resolution with a
lenient renderer for template bodies. -/
theorem resolve_lenient (h : resolve root tree (request.withRequirement true) = .ok strict) :
    resolve root tree (request.withRequirement false) = .ok strict.lenient ∧
      strict.renderer = strict.renderer.requiring true ∧
      strict.withBodyRequirement false = .ok strict.lenient := by
  rw [resolve] at h ⊢
  obtain ⟨layered, hlayered, h⟩ := except_bind_eq_ok_iff.mp h
  obtain ⟨expanded, hexpanded, h⟩ := except_bind_eq_ok_iff.mp h
  have hrenderer := renderer_of_ofVariables h
  refine ⟨?_, ?_, ?_⟩
  · refine except_bind_eq_ok_iff.mpr ⟨layered, hlayered, ?_⟩
    exact except_bind_eq_ok_iff.mpr ⟨expanded, expand_lenient hexpanded, ofVariables_lenient h⟩
  · have hstrict := Settings.renderer_requiring hrenderer true
    rw [← Except.ok.injEq, ← hstrict, ← hrenderer]
    rfl
  · rw [withBodyRequirement, Settings.renderer_requiring hrenderer false]
    rfl

/-- A template is populated when it can be read and its text rendered. -/
theorem populate_eq_ok_iff {r : Resolution} {source : Path} {body : String} :
    r.populate tree source = .ok body ↔
      ∃ text, tree.fetchText source = .ok text ∧ r.renderer.render r.values text = .ok body := by
  rw [populate]
  cases tree.fetchText source with
  | error e => simp
  | ok text =>
    dsimp only
    cases hrender : r.renderer.render r.values text with
    | error e => simp [hrender]
    | ok rendered => simp [hrender]

/-- A template that has a text in a strict resolution has it in the lenient one. -/
theorem populate_lenient (hmode : strict.renderer = strict.renderer.requiring true)
    {source : Path} {body : String} (h : strict.populate tree source = .ok body) :
    strict.lenient.populate tree source = .ok body := by
  obtain ⟨text, htext, hrender⟩ := populate_eq_ok_iff.mp h
  rw [hmode] at hrender
  have hsame := Renderer.sameUnless_render strict.renderer strict.values text
  exact populate_eq_ok_iff.mpr ⟨text, htext, hsame.eq_ok hrender⟩

/-- What a strict renderer gives, texts and variables, the lenient one gives; what does not come to
an end for one does not for the other, under the same name; and the lenient one never reports a
missing value. So a request that is resolved strictly is resolved leniently to the same variables
and settings, and its templates have the same texts. -/
theorem lenient_of_strict (r : Renderer) (vars : Variables) :
    (∀ text out, (r.requiring true).render vars text = .ok out →
      (r.requiring false).render vars text = .ok out) ∧
    (∀ text passes, (r.requiring true).render vars text = .error (.didNotConverge passes) →
      (r.requiring false).render vars text = .error (.didNotConverge passes)) ∧
    (∀ text missing,
      (r.requiring false).render vars text ≠ .error (.missingVariables missing)) ∧
    (∀ resolved, (r.requiring true).renderVariables vars = .ok resolved →
      (r.requiring false).renderVariables vars = .ok resolved) ∧
    (∀ name passes,
      (r.requiring true).renderVariables vars = .error (.inVariable name (.didNotConverge passes)) →
      (r.requiring false).renderVariables vars =
        .error (.inVariable name (.didNotConverge passes))) ∧
    (∀ e, (r.requiring false).renderVariables vars = .error e →
      ∃ name passes, e = .inVariable name (.didNotConverge passes)) ∧
    ∀ root tree (request : Request) strict,
      resolve root tree (request.withRequirement true) = .ok strict →
      ∃ lenient, resolve root tree (request.withRequirement false) = .ok lenient ∧
        strict.withBodyRequirement false = .ok lenient ∧
        lenient.values = strict.values ∧ lenient.settings = strict.settings ∧
        ∀ later source body, strict.populate later source = .ok body →
          lenient.populate later source = .ok body := by
  have hrender := Renderer.sameUnless_render r vars
  have hvariables := Renderer.sameUnless_renderVariables r vars
  refine ⟨?_, ?_, ?_, ?_, ?_, ?_, ?_⟩
  · exact fun text out h => (hrender text).eq_ok h
  · exact fun text passes h => (hrender text).eq_error h (not_not_intro rfl)
  · intro text missing h
    have hcause := Renderer.eq_didNotConverge_of_render h
    cases hcause
  · exact fun resolved h => hvariables.eq_ok h
  · exact fun name passes h => hvariables.eq_error h (not_not_intro rfl)
  · intro e h
    obtain ⟨entry, -, he⟩ := Renderer.exists_of_renderVariables_eq_error h
    exact ⟨entry.1, Template.maxPasses, he⟩
  · intro root tree request strict h
    obtain ⟨hresolve, hmode, hbody⟩ := resolve_lenient h
    exact ⟨strict.lenient, hresolve, hbody, rfl, rfl,
      fun later source body => populate_lenient hmode⟩

/-- A configuration whose template shows an address made of another variable. -/
def addressTree : FileTree :=
  ⟨.ofList
    [ (["c"], .directory),
      (["c", "exconf.yaml"], .file 0o644 ("services_dir_name: s\ntemplates_dir_name: t\n" ++
        "environments_dir_name: e\nhost: db\nurl: http://\x7b\x7bhost\x7d\x7d/\n").toUTF8),
      (["c", "address"], .file 0o644 "# \x7b\x7bport\x7d\x7d\n\x7b\x7burl\x7d\x7d\n".toUTF8),
      (["c", "e"], .directory),
      (["c", "s"], .directory) ], []⟩

/-- A variable that refers to itself. -/
def loopingVariables : Variables := .ofList [("loop", .string "\x7b\x7bloop\x7d\x7d")]

/-- A looping variable is given up by both renderers under its name, and the template of the
configuration has its strict text also when the request is resolved leniently. -/
theorem lenient_address_and_loop :
    ∃ r root lenient, Renderer.ofMarkup? .standard true = .ok r ∧
      (r.requiring false).renderVariables loopingVariables =
        .error (.inVariable "loop" (.didNotConverge 30)) ∧
      Root.openAt addressTree ⟨"/c"⟩ = .ok root ∧
      resolve root addressTree ((Request.ofNames "web" "prod").withRequirement false) =
        .ok lenient ∧
      lenient.populate addressTree ⟨"/c/address"⟩ =
        .ok "# \x7b\x7bport\x7d\x7d\nhttp://db/\n" := by
  have hrun : ((Renderer.ofMarkup? .standard true).bind fun r => .ok <| decide <|
      ((r.requiring true).renderVariables loopingVariables).map SortedMap.keys =
        .error (.inVariable "loop" (.didNotConverge 30))).toOption = some true := by
    decide +kernel
  have hresolved : ((Root.openAt addressTree ⟨"/c"⟩).bind fun root =>
      (resolve root addressTree ((Request.ofNames "web" "prod").withRequirement true)).bind
        fun strict => .ok <| decide <| (strict.populate addressTree ⟨"/c/address"⟩).toOption =
          some "# \x7b\x7bport\x7d\x7d\nhttp://db/\n").toOption = some true := by
    decide +kernel
  obtain ⟨r, hr, hrun⟩ := exists_of_toOption_bind hrun
  obtain ⟨root, hroot, hresolved⟩ := exists_of_toOption_bind hresolved
  obtain ⟨strict, hstrict, hresolved⟩ := exists_of_toOption_bind hresolved
  have hloop := except_map_eq_error_iff.mp (of_decide_eq_true (Option.some.inj hrun))
  have hbody := eq_ok_of_toOption (of_decide_eq_true (Option.some.inj hresolved))
  obtain ⟨-, -, -, -, hlooping, -, hresolve⟩ := lenient_of_strict r loopingVariables
  obtain ⟨lenient, hlenient, -, -, -, hpopulate⟩ := hresolve root addressTree _ strict hstrict
  exact ⟨r, root, lenient, hr, hlooping _ _ hloop, hroot, hlenient,
    hpopulate addressTree _ _ hbody⟩

end Resolution

end LayeredConfig
