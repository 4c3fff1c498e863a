import LayeredConfig.Proofs.Configuration.LenientResolution
import LayeredConfig.Proofs.Template.RenderedValues

/-!
# Settings derived from expanded variables

The delimiters by which variables are expanded are variables themselves, and so are
expanded with themselves. A text that is shorter than both delimiters together holds
no placeholder, and a comment marker is a comment line. So the settings read from the
expanded variables have the same delimiters and, as a rule, the same comment marker,
and nothing but an empty token for file names can keep a resolution from being made.
-/

namespace LayeredConfig

open Template (Renderer Delimiters)

namespace Template

open Text

/-- A line that is shorter than both delimiters together is one literal. -/
theorem segments_of_length_lt {d : Delimiters} {line : List Char}
    (h : line.length < d.opening.length + d.closing.length) : segments d line = [.literal line] := by
  rw [segments]
  split
  · rfl
  · rename_i before after hopen
    have hlength := congrArg List.length (append_of_cut? hopen)
    simp only [List.length_append] at hlength
    split
    · rfl
    · rename_i rest hclose
      have hrest := congrArg List.length (append_of_cut? hclose)
      simp only [List.length_append] at hrest
      omega
    · rename_i c inner rest hclose
      have hrest := congrArg List.length (append_of_cut? hclose)
      simp only [List.length_append] at hrest
      omega

namespace Renderer

variable {r : Renderer} {vars : Variables}

/-- A text that is shorter than both delimiters together is settled. -/
theorem isSettled_of_length_lt {text : List Char}
    (h : text.length < r.delimiters.opening.length + r.delimiters.closing.length) :
    r.IsSettled vars text := by
  rintro inner ⟨line, hline, hinner⟩
  have hshort := segments_of_length_lt
    (Nat.lt_of_le_of_lt (length_le_of_mem_splitAtChar hline) h)
  rw [lineSegments, hshort] at hinner
  split at hinner <;> simp at hinner

/-- A comment marker that is trimmed and has no line feed is settled: it is a comment line, or
empty. -/
theorem isSettled_commentMarker (htrim : trim r.commentMarker = r.commentMarker)
    (hbreak : '\n' ∉ r.commentMarker) : r.IsSettled vars r.commentMarker := by
  by_cases hempty : r.commentMarker = []
  · have hlength := List.length_pos_iff.mpr r.delimiters.opening_ne_nil
    refine isSettled_of_length_lt ?_
    rw [hempty, List.length_nil]
    omega
  · have hcomment : r.isComment r.commentMarker = true := by
      simp [isComment, htrim, hempty, List.isPrefixOf_iff_prefix]
    rintro inner ⟨line, hline, hinner⟩
    rw [lines, splitAtChar_of_not_mem hbreak, List.mem_singleton] at hline
    subst hline
    rw [lineSegments, if_pos hcomment] at hinner
    simp at hinner

end Renderer

end Template

namespace Settings

variable {r : Renderer} {vars expanded : Variables}

/-- One setting is the other one expanded. -/
abbrev Expands (r : Renderer) (vars : Variables) (text text' : String) : Prop :=
  r.render vars text = .ok text'

/-- Under its tags a rendered value is the value under its tags rendered. -/
theorem renderValue_untagged {value value' : Value} (h : r.renderValue vars value = .ok value') :
    r.renderValue vars value.untagged = .ok value'.untagged := by
  induction value generalizing value' with
  | null => cases h; rfl
  | bool b => cases h; rfl
  | number n => cases h; rfl
  | string text =>
    have hsame := h
    rw [Renderer.renderValue_string] at h
    obtain ⟨text', -, rfl⟩ := except_map_eq_ok_iff.mp h
    exact hsame
  | sequence items ih =>
    have hsame := h
    rw [Renderer.renderValue_sequence] at h
    obtain ⟨items', -, rfl⟩ := except_map_eq_ok_iff.mp h
    exact hsame
  | mapping entries ih =>
    have hsame := h
    rw [Renderer.renderValue_mapping] at h
    obtain ⟨entries', -, rfl⟩ := except_map_eq_ok_iff.mp h
    exact hsame
  | tagged tag value ih =>
    rw [Renderer.renderValue_tagged] at h
    obtain ⟨inner, hinner, rfl⟩ := except_map_eq_ok_iff.mp h
    rw [Value.untagged, Value.untagged]
    exact ih hinner

/-- A setting of expanded variables is left out where it was, and else the text expanded. -/
theorem text?_yields (h : r.renderVariables vars = .ok expanded) (name : String) :
    Yields (Option.Rel (Expands r vars)) (text? vars name) (text? expanded name) := by
  intro found hfound
  rw [text?] at hfound
  rw [text?]
  rcases SortedMap.get?_traverse h name with ⟨hold, hnew⟩ | ⟨value, value', hold, hstep, hnew⟩
  · rw [hold] at hfound
    rw [hnew]
    cases hfound
    exact ⟨none, rfl, .none⟩
  · rw [hold] at hfound
    rw [hnew]
    have hrendered := renderValue_untagged (Renderer.renderVariable_eq_ok_iff.mp hstep)
    dsimp only at hfound ⊢
    split at hfound
    · rename_i text htext
      cases hfound
      rw [htext, Renderer.renderValue_string] at hrendered
      obtain ⟨text', hrender, huntagged⟩ := except_map_eq_ok_iff.mp hrendered
      rw [← huntagged]
      exact ⟨some text', rfl, .some hrender⟩
    · cases hfound

/-- Only null is rendered to null. -/
theorem eq_null_of_renderValue {value : Value} (h : r.renderValue vars value = .ok .null) :
    value = .null := by
  cases value with
  | null => rfl
  | bool b => cases h
  | number n => cases h
  | string text =>
    rw [Renderer.renderValue_string] at h
    obtain ⟨text', -, hnull⟩ := except_map_eq_ok_iff.mp h
    cases hnull
  | sequence items =>
    rw [Renderer.renderValue_sequence] at h
    obtain ⟨items', -, hnull⟩ := except_map_eq_ok_iff.mp h
    cases hnull
  | mapping entries =>
    rw [Renderer.renderValue_mapping] at h
    obtain ⟨entries', -, hnull⟩ := except_map_eq_ok_iff.mp h
    cases hnull
  | tagged tag value =>
    rw [Renderer.renderValue_tagged] at h
    obtain ⟨inner, -, hnull⟩ := except_map_eq_ok_iff.mp h
    cases hnull

/-- A variable is null among the expanded ones exactly when it was before. -/
theorem get?_eq_null_iff (h : r.renderVariables vars = .ok expanded) (name : String) :
    expanded.get? name = some .null ↔ vars.get? name = some .null := by
  rcases SortedMap.get?_traverse h name with ⟨hold, hnew⟩ | ⟨value, value', hold, hstep, hnew⟩
  · simp [hold, hnew]
  · rw [hold, hnew, Option.some.injEq, Option.some.injEq]
    have hrendered := Renderer.renderVariable_eq_ok_iff.mp hstep
    constructor
    · rintro rfl
      exact eq_null_of_renderValue hrendered
    · rintro rfl
      cases hrendered
      rfl

/-- A variable that is not null is read as any setting. -/
theorem optionalText?_of_ne_null {name : String} (h : vars.get? name ≠ some .null) :
    optionalText? vars name = text? vars name := by
  rw [optionalText?]
  split
  · contradiction
  · rfl

/-- A setting that may be null is left open where it was, and else the text expanded. -/
theorem optionalText?_yields (h : r.renderVariables vars = .ok expanded) (name : String) :
    Yields (Option.Rel (Expands r vars)) (optionalText? vars name)
      (optionalText? expanded name) := by
  by_cases hnull : vars.get? name = some .null
  · rw [optionalText?, optionalText?, hnull, (get?_eq_null_iff h name).mpr hnull]
    exact .of_related .none
  · have hnull' : expanded.get? name ≠ some .null := fun he =>
      hnull ((get?_eq_null_iff h name).mp he)
    rw [optionalText?_of_ne_null hnull, optionalText?_of_ne_null hnull']
    exact text?_yields h name

/-- A required setting is there where it was, expanded. -/
theorem require_yields {found found' : Option String} (h : Option.Rel (Expands r vars) found found')
    (name : String) : Yields (Expands r vars) (require name found) (require name found') := by
  cases h with
  | none => intro text htext; cases htext
  | some htext => exact .of_related htext

/-- The settings of expanded variables are the settings expanded, as far as variables give them. -/
structure Expanded (r : Renderer) (vars : Variables) (s s' : Settings) : Prop where
  /-- What opens a placeholder stays if it is the standard one, and is expanded else. -/
  opening : s'.markup.opening = s.markup.opening ∨
    Expands r vars s.markup.opening s'.markup.opening
  /-- So does what closes a placeholder. -/
  closing : s'.markup.closing = s.markup.closing ∨
    Expands r vars s.markup.closing s'.markup.closing
  /-- So does what a comment line starts with. -/
  commentMarker : s'.markup.commentMarker = s.markup.commentMarker ∨
    Expands r vars s.markup.commentMarker s'.markup.commentMarker

/-- A setting with a standard value is standard or expanded. -/
theorem getD_expands {found found' : Option String} (h : Option.Rel (Expands r vars) found found')
    (standard : String) : found'.getD standard = found.getD standard ∨
      Expands r vars (found.getD standard) (found'.getD standard) := by
  cases h with
  | none => exact .inl rfl
  | some htext => exact .inr htext

/-- Settings can be read from the expanded variables if they could be read before. -/
theorem read_yields (h : r.renderVariables vars = .ok expanded) :
    Yields (Expanded r vars) (read vars) (read expanded) := by
  have htext := text?_yields h
  have hoptional := optionalText?_yields h
  rw [read, read]
  refine (htext _).bind fun environments environments' henvironments => ?_
  refine (hoptional _).bind fun command command' hcommand => ?_
  refine (hoptional _).bind fun file file' hfile => ?_
  refine (htext _).bind fun fileOpening fileOpening' hfileOpening => ?_
  refine (htext _).bind fun fileClosing fileClosing' hfileClosing => ?_
  refine (htext _).bind fun services services' hservices => ?_
  refine (htext _).bind fun opening opening' hopening => ?_
  refine (htext _).bind fun closing closing' hclosing => ?_
  refine (htext _).bind fun comment comment' hcomment => ?_
  refine (htext _).bind fun templates templates' htemplates => ?_
  refine (require_yields hservices _).bind fun services services' _ => ?_
  refine (require_yields htemplates _).bind fun templates templates' _ => ?_
  refine (require_yields henvironments _).bind fun environments environments' _ => ?_
  exact .of_related
    ⟨getD_expands hopening _, getD_expands hclosing _, getD_expands hcomment _⟩

/-- Settings that variables hold are held by the expanded variables, expanded. -/
theorem ofVariables_yields (h : r.renderVariables vars = .ok expanded) :
    Yields (Expanded r vars) (ofVariables vars) (ofVariables expanded) := by
  intro settings hsettings
  rw [ofVariables] at hsettings
  split at hsettings
  · rename_i found hfound
    cases hsettings
    obtain ⟨settings', hread, hkept⟩ := read_yields h _ hfound
    exact ⟨settings', by rw [ofVariables, hread], hkept⟩
  · cases hsettings

/-- A renderer has the delimiters and the comment marker of its settings. -/
theorem of_renderer {s : Settings} {requireAll : Bool} (h : s.renderer requireAll = .ok r) :
    r.delimiters.opening = s.markup.opening.toList ∧
      r.delimiters.closing = s.markup.closing.toList ∧
      r.commentMarker = s.markup.commentMarker.toList := by
  rw [renderer, Renderer.ofMarkup?, Delimiters.ofStrings?] at h
  split at h
  · rename_i found hfound
    cases h
    split at hfound
    · cases hfound
    · rename_i delimiters hdelimiters
      cases hfound
      split at hdelimiters
      · cases hdelimiters
      · cases hdelimiters
        exact ⟨rfl, rfl, rfl⟩
  · cases h

/-- A settled setting stays. -/
theorem eq_of_isSettled {text text' : String} (hsettled : r.IsSettled vars text.toList)
    (h : text' = text ∨ Expands r vars text text') : text' = text := by
  rcases h with hsame | hrender
  · exact hsame
  · rw [Expands, Renderer.render_of_isSettled hsettled] at hrender
    exact (Except.ok.inj hrender).symm

/-- The delimiters by which settings are expanded are those of the expanded settings, and so is the
comment marker if it is a comment line. -/
theorem renderer_of_expanded {s s' : Settings} {requireAll : Bool}
    (hr : s.renderer requireAll = .ok r) (h : Expanded r vars s s') :
    ∃ r', s'.renderer requireAll = .ok r' ∧ r'.delimiters = r.delimiters ∧
      (Text.trim r.commentMarker = r.commentMarker → '\n' ∉ r.commentMarker →
        r'.commentMarker = r.commentMarker) := by
  obtain ⟨hopening, hclosing, hcomment⟩ := of_renderer hr
  have hopenLength := List.length_pos_iff.mpr r.delimiters.opening_ne_nil
  have hcloseLength := List.length_pos_iff.mpr r.delimiters.closing_ne_nil
  have hopening' : s'.markup.opening = s.markup.opening := by
    refine eq_of_isSettled (Renderer.isSettled_of_length_lt ?_) h.opening
    rw [← hopening]
    omega
  have hclosing' : s'.markup.closing = s.markup.closing := by
    refine eq_of_isSettled (Renderer.isSettled_of_length_lt ?_) h.closing
    rw [← hclosing]
    omega
  have hfound : s'.renderer requireAll =
      .ok { r with commentMarker := s'.markup.commentMarker.toList } := by
    rw [renderer, Renderer.ofMarkup?] at hr ⊢
    rw [hopening', hclosing']
    split at hr
    · rename_i found hdelimiters
      cases hr
      split at hdelimiters
      · cases hdelimiters
      · cases hdelimiters
        rfl
    · cases hr
  refine ⟨_, hfound, rfl, ?_⟩
  intro htrim hbreak
  have hsettled : r.IsSettled vars s.markup.commentMarker.toList := by
    rw [← hcomment]
    exact Renderer.isSettled_commentMarker htrim hbreak
  rw [hcomment, eq_of_isSettled hsettled h.commentMarker]

end Settings

namespace Resolution

variable {root : Root} {tree : FileTree} {request : Request} {vars expanded : Variables}
  {settings : Settings}

/-- A session whose settings give a renderer can be asked for either requirement, again and
again. -/
theorem withBodyRequirement_eq_ok {r : Resolution} {renderer : Renderer} {before : Bool}
    (h : r.settings.renderer before = .ok renderer) (requireAll : Bool) :
    ∃ next, r.withBodyRequirement requireAll = .ok next ∧ next.settings = r.settings ∧
      next.renderer = renderer.requiring requireAll := by
  rw [withBodyRequirement, Settings.renderer_requiring h requireAll]
  exact ⟨_, rfl, rfl, rfl⟩

/-- Delimiters of file names are missing only when a token is empty. -/
theorem fileNameDelimiters_eq_error {e : ConfigError}
    (h : settings.fileNameDelimiters = .error e) :
    e = .template (.emptyDelimiter .fileName settings.fileNameOpening settings.fileNameClosing) ∧
      (settings.fileNameOpening = "" ∨ settings.fileNameClosing = "") := by
  rw [Settings.fileNameDelimiters, Delimiters.ofStrings?] at h
  split at h
  · cases h
  · rename_i cause hcause
    cases h
    split at hcause
    · rename_i hempty
      cases hcause
      exact ⟨rfl, by simpa [String.toList_eq_nil_iff] using hempty⟩
    · cases hcause

/-- From settings with a renderer a resolution is made, unless a token for file names is empty. -/
theorem ofVariables_cases {renderer : Renderer}
    (hsettings : Settings.ofVariables expanded = .ok settings)
    (hrenderer : settings.renderer request.requireAll = .ok renderer) :
    (∃ r, ofVariables root request expanded = .ok r ∧ r.settings = settings ∧
      r.renderer = renderer) ∨
    (ofVariables root request expanded = .error (.template (.emptyDelimiter .fileName
        settings.fileNameOpening settings.fileNameClosing)) ∧
      (settings.fileNameOpening = "" ∨ settings.fileNameClosing = "")) := by
  cases hdelimiters : settings.fileNameDelimiters with
  | ok delimiters =>
    left
    refine ⟨⟨root, request, expanded, settings, renderer, delimiters⟩, ?_, rfl, rfl⟩
    refine except_bind_eq_ok_iff.mpr ⟨settings, hsettings, ?_⟩
    refine except_bind_eq_ok_iff.mpr ⟨renderer, hrenderer, ?_⟩
    exact except_bind_eq_ok_iff.mpr ⟨delimiters, hdelimiters, rfl⟩
  | error e =>
    obtain ⟨rfl, hempty⟩ := fileNameDelimiters_eq_error hdelimiters
    right
    refine ⟨?_, hempty⟩
    simp only [ofVariables, hsettings, hrenderer, hdelimiters, bind, Except.bind]

/-- Where the variables of a request are expanded, their settings can be read anew from the
expanded ones and give a renderer again, with the same delimiters, and with the same comment marker
if that is trimmed and has no line feed. So the request is resolved unless a token for file names is
empty, and the resolution can be asked for either requirement, again and again. -/
theorem resolve_of_expand (hvars : root.layeredVariables tree request = .ok vars)
    (hexpand : expand vars request.requireAll = .ok expanded) :
    ∃ settings renderer settings' renderer',
      Settings.ofVariables vars = .ok settings ∧
      settings.renderer request.requireAll = .ok renderer ∧
      renderer.renderVariables vars = .ok expanded ∧
      Settings.ofVariables expanded = .ok settings' ∧
      settings'.renderer request.requireAll = .ok renderer' ∧
      renderer'.delimiters = renderer.delimiters ∧
      (Text.trim renderer.commentMarker = renderer.commentMarker →
        '\n' ∉ renderer.commentMarker → renderer'.commentMarker = renderer.commentMarker) ∧
      ((∃ r, resolve root tree request = .ok r ∧ r.settings = settings' ∧
          r.renderer = renderer') ∨
        (resolve root tree request = .error (.template (.emptyDelimiter .fileName
            settings'.fileNameOpening settings'.fileNameClosing)) ∧
          (settings'.fileNameOpening = "" ∨ settings'.fileNameClosing = ""))) ∧
      ∀ (r : Resolution) requireAll, r.settings = settings' →
        ∃ next, r.withBodyRequirement requireAll = .ok next ∧ next.settings = settings' ∧
          next.renderer = renderer'.requiring requireAll := by
  have hresolve : resolve root tree request = ofVariables root request expanded := by
    simp only [resolve, hvars, hexpand, bind, Except.bind]
  rw [expand] at hexpand
  obtain ⟨settings, hsettings, hexpand⟩ := except_bind_eq_ok_iff.mp hexpand
  obtain ⟨renderer, hrenderer, hexpand⟩ := except_bind_eq_ok_iff.mp hexpand
  have hexpanded : renderer.renderVariables vars = .ok expanded := by
    split at hexpand
    · rename_i found hfound
      cases hexpand
      exact hfound
    · cases hexpand
  obtain ⟨settings', hsettings', hkept⟩ := Settings.ofVariables_yields hexpanded settings hsettings
  obtain ⟨renderer', hrenderer', hdelimiters, hcomment⟩ :=
    Settings.renderer_of_expanded hrenderer hkept
  refine ⟨settings, renderer, settings', renderer', hsettings, hrenderer, hexpanded, hsettings',
    hrenderer', hdelimiters, hcomment, ?_, ?_⟩
  · rw [hresolve]
    exact ofVariables_cases hsettings' hrenderer'
  · rintro r requireAll rfl
    exact withBodyRequirement_eq_ok hrenderer' requireAll

/-- A configuration whose first delimiter begins the second one, and whose comment marker is a
placeholder. -/
def angleTree : FileTree :=
  ⟨.ofList
    [ (["c"], .directory),
      (["c", "exconf.yaml"], .file 0o644 ("services_dir_name: s\ntemplates_dir_name: t\n" ++
        "environments_dir_name: e\nstring_template_prefix: <\nstring_template_suffix: <>\n" ++
        "template_comment_line_begin: <host<>\nhost: db\nurl: at <host<>\n").toUTF8),
      (["c", "e"], .directory),
      (["c", "s"], .directory) ], []⟩

/-- The variables are expanded by the delimiters, which stay, and so does the comment marker. -/
theorem resolve_angles :
    ∃ root vars expanded r, ∃ renderer renderer' : Renderer,
      Root.openAt angleTree ⟨"/c"⟩ = .ok root ∧
      root.layeredVariables angleTree (.ofNames "web" "prod") = .ok vars ∧
      expand vars true = .ok expanded ∧ expanded.lookup? "url" = some "at db" ∧
      renderer.renderVariables vars = .ok expanded ∧
      renderer'.delimiters = renderer.delimiters ∧
      renderer'.commentMarker = "<host<>".toList ∧
      resolve root angleTree (.ofNames "web" "prod") = .ok r ∧ r.renderer = renderer' ∧
      ∃ lenient, r.withBodyRequirement false = .ok lenient := by
  have hrun : ((Root.openAt angleTree ⟨"/c"⟩).bind fun root =>
      (root.layeredVariables angleTree (.ofNames "web" "prod")).bind fun vars =>
        (expand vars true).bind fun expanded => .ok <| decide <|
          ((Settings.ofVariables vars).toOption.map Settings.markup) = some ⟨"<", "<>", "<host<>"⟩ ∧
          expanded.lookup? "url" = some "at db" ∧
          (resolve root angleTree (.ofNames "web" "prod")).toOption.isSome).toOption =
      some true := by
    decide +kernel
  obtain ⟨root, hroot, hrun⟩ := exists_of_toOption_bind hrun
  obtain ⟨vars, hvars, hrun⟩ := exists_of_toOption_bind hrun
  obtain ⟨expanded, hexpand, hrun⟩ := exists_of_toOption_bind hrun
  obtain ⟨hmarkup, hurl, hresolved⟩ := of_decide_eq_true (Option.some.inj hrun)
  obtain ⟨settings, renderer, settings', renderer', hsettings, hrenderer, hexpanded, -, -,
    hdelimiters, hcomment, hresolve, hrequirement⟩ := resolve_of_expand hvars hexpand
  rw [hsettings, Except.toOption, Option.map_some, Option.some.injEq] at hmarkup
  obtain ⟨-, -, hmarker⟩ := Settings.of_renderer hrenderer
  rw [hmarkup] at hmarker
  have hkept := hcomment (by rw [hmarker]; decide) (by rw [hmarker]; decide)
  rcases hresolve with ⟨r, hr, hsame, hbody⟩ | ⟨he, -⟩
  · obtain ⟨lenient, hlenient, -, -⟩ := hrequirement r false hsame
    exact ⟨root, vars, expanded, r, renderer, renderer', hroot, hvars, hexpand, hurl, hexpanded,
      hdelimiters, hkept.trans hmarker, hr, hbody, lenient, hlenient⟩
  · rw [he] at hresolved
    cases hresolved

end Resolution

end LayeredConfig
