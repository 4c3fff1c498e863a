import LayeredConfig.Proofs.Template.Convergence
import LayeredConfig.Proofs.Template.Leniency

/-!
# More variables than are needed

A pass asks only for the variables of the placeholders that it meets. A strict pass that
misses nothing has a value for each of them, so it meets the same values, and no other
placeholders, where more variables are defined. What a strict renderer gives is therefore
given whatever else is defined, for texts, for values and for the variables themselves.
-/

namespace LayeredConfig

/-- Every text of a variable is its text among the others too. -/
def Variables.IsExtendedBy (vars others : Variables) : Prop :=
  ∀ name value, vars.lookup? name = some value → others.lookup? name = some value

/-- Variables are extended by those that have all their entries. -/
theorem Variables.isExtendedBy_of_get? {vars others : Variables}
    (h : ∀ name value, vars.get? name = some value → others.get? name = some value) :
    vars.IsExtendedBy others := by
  intro name text htext
  rw [Variables.lookup?] at htext
  cases hvalue : vars.get? name with
  | none =>
    rw [hvalue] at htext
    cases htext
  | some value =>
    rw [hvalue] at htext
    rw [Variables.lookup?, h name value hvalue]
    exact htext

namespace Template

/-- A placeholder with a value has the same value among more variables. -/
theorem placeholderText?_of_isExtendedBy {vars others : Variables} {inner : List Char}
    (h : vars.IsExtendedBy others) (hsome : (placeholderText? vars inner).isSome) :
    placeholderText? others inner = placeholderText? vars inner := by
  rw [isSome_placeholderText?, Option.isSome_iff_exists] at hsome
  obtain ⟨value, hvalue⟩ := hsome
  rw [placeholderText?, placeholderText?, hvalue, h _ value hvalue]

namespace Renderer

open Text

variable {r : Renderer} {vars others resolved resolved' : Variables} {line text : List Char}

/-! ## What a pass asks for -/

section Segments

variable {segs : List Segment}
  (h : ∀ inner, .placeholder inner ∈ segs →
    placeholderText? others inner = placeholderText? vars inner)

include h

/-- Segments are filled alike where their placeholders have the same texts. -/
theorem flatMap_fillSegment_congr :
    segs.flatMap (r.fillSegment others) = segs.flatMap (r.fillSegment vars) := by
  refine List.flatMap_congr fun seg hseg => ?_
  cases seg with
  | literal text => rfl
  | placeholder inner => rw [fillSegment, fillSegment, h inner hseg]

/-- The same names are missing where placeholders have the same texts. -/
theorem filterMap_missingName?_congr :
    segs.filterMap (missingName? others) = segs.filterMap (missingName? vars) := by
  refine List.filterMap_congr fun seg hseg => ?_
  cases seg with
  | literal text => rfl
  | placeholder inner => rw [missingName?, missingName?, h inner hseg]

end Segments

/-- The same is missing in lines whose placeholders have the same texts. -/
theorem missingFrom_congr {texts : List (List Char)} (number : ℕ)
    (h : ∀ line ∈ texts, r.missingNames others line = r.missingNames vars line) :
    r.missingFrom others number texts = r.missingFrom vars number texts := by
  induction texts generalizing number with
  | nil => rfl
  | cons line rest ih =>
    have hrest := ih (number + 1) fun other hother => h other (List.mem_cons_of_mem line hother)
    rw [missingFrom, missingFrom, h line List.mem_cons_self, hrest]

/-- A pass depends only on the texts for the placeholders that it meets. -/
theorem pass_congr
    (h : ∀ inner, r.HasPlaceholder text inner →
      placeholderText? others inner = placeholderText? vars inner) :
    r.pass others text = r.pass vars text := by
  have hline : ∀ line ∈ lines text, ∀ inner, .placeholder inner ∈ r.lineSegments line →
      placeholderText? others inner = placeholderText? vars inner :=
    fun line hmem inner hinner => h inner ⟨line, hmem, hinner⟩
  have hfill : (lines text).map (r.fillLine others) = (lines text).map (r.fillLine vars) :=
    List.map_congr_left fun line hmem => flatMap_fillSegment_congr (hline line hmem)
  have hchange :
      (lines text).any (r.changesLine others) = (lines text).any (r.changesLine vars) := by
    rw [Bool.eq_iff_iff, any_changesLine_iff, any_changesLine_iff]
    exact exists_congr fun inner => and_congr_right fun hinner => by rw [h inner hinner]
  have hmissing : r.missingIn others text = r.missingIn vars text := by
    rw [missingIn, missingIn, missingFrom_congr 1 fun line hmem =>
      filterMap_missingName?_congr (hline line hmem)]
  rw [pass, pass, hfill, hchange, hmissing]

/-! ## Strict rendering with more variables -/

/-- A strict pass with more variables is the same, unless a value was missing. -/
theorem sameUnless_pass_of_isExtendedBy (hstrict : r.requireAll = true)
    (h : vars.IsExtendedBy others) (text : List Char) :
    SameUnless Error.IsMissing (r.pass vars text) (r.pass others text) := by
  cases hmissing : r.missingIn vars text with
  | cons m more =>
    refine .inr ⟨.missingVariables (m :: more), ?_, List.cons_ne_nil m more⟩
    rw [pass, hmissing]
  | nil =>
    have hsome := missingIn_eq_nil_iff.mp hmissing hstrict
    exact .inl (pass_congr fun inner hinner =>
      placeholderText?_of_isExtendedBy h (hsome inner hinner))

/-- A variable is rendered with more variables as it was, where it was rendered at all. -/
theorem get?_renderVariables_of_isExtendedBy (hstrict : r.requireAll = true)
    (h : ∀ name value, vars.get? name = some value → others.get? name = some value)
    (hvars : r.renderVariables vars = .ok resolved)
    (hothers : r.renderVariables others = .ok resolved') {name : String}
    (hname : name ∈ vars.keys) :
    resolved'.get? name = resolved.get? name := by
  have hpass := sameUnless_pass_of_isExtendedBy hstrict (Variables.isExtendedBy_of_get? h)
  obtain ⟨value, hvalue⟩ := Option.isSome_iff_exists.mp (SortedMap.mem_keys_iff.mp hname)
  have hother := h name value hvalue
  rcases SortedMap.get?_traverse hvars name with ⟨hnone, -⟩ | ⟨old, new, hold, hstep, hnew⟩
  · rw [hvalue] at hnone
    cases hnone
  · rcases SortedMap.get?_traverse hothers name with
      ⟨hnone, -⟩ | ⟨old', new', hold', hstep', hnew'⟩
    · rw [hother] at hnone
      cases hnone
    · obtain rfl := Option.some.inj (hvalue.symm.trans hold)
      obtain rfl := Option.some.inj (hother.symm.trans hold')
      have hrendered := (sameUnless_renderValue_of_pass hpass value).eq_ok
        (renderVariable_eq_ok_iff.mp hstep)
      have hsame := hrendered.symm.trans (renderVariable_eq_ok_iff.mp hstep')
      rw [hnew, hnew', Except.ok.inj hsame]

/-- A text that a strict renderer renders is rendered to the same with more variables. And where
more variables are rendered strictly, those that were rendered before are rendered to the same. -/
theorem render_of_more_variables (hstrict : r.requireAll = true) :
    (∀ others text out,
      (∀ name value, vars.lookup? name = some value → others.lookup? name = some value) →
      r.render vars text = .ok out → r.render others text = .ok out) ∧
    ∀ others resolved resolved',
      (∀ name value, vars.get? name = some value → others.get? name = some value) →
      r.renderVariables vars = .ok resolved → r.renderVariables others = .ok resolved' →
      ∀ name ∈ vars.keys, resolved'.get? name = resolved.get? name := by
  constructor
  · intro others text out h hrender
    have hpass := sameUnless_pass_of_isExtendedBy hstrict h
    exact (sameUnless_render_of_pass hpass text).eq_ok hrender
  · intro others resolved resolved' h hvars hothers name hname
    exact get?_renderVariables_of_isExtendedBy hstrict h hvars hothers hname

/-- An address whose host is a variable of its own. -/
def serviceVariables : Variables :=
  .ofList [("url", .string "http://\x7b\x7bhost\x7d\x7d"), ("host", .string "db")]

/-- The same with a variable that refers to the address. -/
def serverVariables : Variables :=
  serviceVariables.insert "server" (.sequence [.string "\x7b\x7burl\x7d\x7d"])

/-- The address is rendered to the same, and resolved to the same, where the server is defined
too. -/
theorem service_stays_with_server :
    standardRenderer.render serverVariables "at \x7b\x7burl\x7d\x7d" = .ok "at http://db" ∧
      ∃ resolved resolved', standardRenderer.renderVariables serviceVariables = .ok resolved ∧
        standardRenderer.renderVariables serverVariables = .ok resolved' ∧
        serviceVariables.keys = ["host", "url"] ∧
        ∀ name ∈ serviceVariables.keys, resolved'.get? name = resolved.get? name := by
  have hundefined : serviceVariables.get? "server" = none := by decide +kernel
  have hentries : ∀ name value, serviceVariables.get? name = some value →
      serverVariables.get? name = some value := by
    intro name value hvalue
    have hname : "server" ≠ name := by
      rintro rfl
      rw [hundefined] at hvalue
      cases hvalue
    rw [serverVariables, SortedMap.get?_insert, if_neg hname, hvalue]
  have hrender : standardRenderer.render serviceVariables "at \x7b\x7burl\x7d\x7d" =
      .ok "at http://db" := by
    decide +kernel
  have hresolves : ((standardRenderer.renderVariables serviceVariables).bind fun _ =>
      (standardRenderer.renderVariables serverVariables).bind fun _ => .ok ()).toOption =
        some () := by
    decide +kernel
  obtain ⟨resolved, hresolved, hresolves⟩ := exists_of_toOption_bind hresolves
  obtain ⟨resolved', hresolved', -⟩ := exists_of_toOption_bind hresolves
  have hstrict : standardRenderer.requireAll = true := rfl
  have htext := (render_of_more_variables hstrict).1 serverVariables _ _
    (Variables.isExtendedBy_of_get? hentries) hrender
  have hnames := (render_of_more_variables hstrict).2 _ _ _ hentries hresolved hresolved'
  exact ⟨htext, resolved, resolved', hresolved, hresolved', by decide +kernel, hnames⟩

end Renderer

end Template

end LayeredConfig
