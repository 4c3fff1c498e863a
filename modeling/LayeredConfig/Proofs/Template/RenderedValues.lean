import LayeredConfig.Proofs.Template.Settled
import LayeredConfig.Proofs.Traversal

/-!
# Rendering values and variables

Rendering a value walks through its items and entries and renders every text on
the way. Whether a variable has a value is not changed by that: null stays null
under its tags, and everything else keeps a text. So what was left in place for
want of a value finds none among the rendered variables either, and rendered
variables are rendered to themselves.
-/

namespace LayeredConfig

/-- A statement holds of every value if it holds of scalars, and of a structure or a tagged value
whenever it holds of what that is made of. -/
@[elab_as_elim, induction_eliminator]
theorem Value.induction {motive : Value → Prop} (null : motive .null)
    (bool : ∀ b, motive (.bool b)) (number : ∀ n, motive (.number n))
    (string : ∀ text, motive (.string text))
    (sequence : ∀ items, (∀ value ∈ items, motive value) → motive (.sequence items))
    (mapping : ∀ entries, (∀ entry ∈ entries, motive entry.2) → motive (.mapping entries))
    (tagged : ∀ tag value, motive value → motive (.tagged tag value)) :
    ∀ value, motive value
  | .null => null
  | .bool b => bool b
  | .number n => number n
  | .string text => string text
  | .sequence items => sequence items fun value _hmem =>
      Value.induction null bool number string sequence mapping tagged value
  | .mapping entries => mapping entries fun entry _hmem =>
      Value.induction null bool number string sequence mapping tagged entry.2
  | .tagged tag value => tagged tag value
      (Value.induction null bool number string sequence mapping tagged value)
termination_by value => sizeOf value
decreasing_by
  · have hitem := List.sizeOf_lt_of_mem _hmem
    simp only [Value.sequence.sizeOf_spec]
    omega
  · have hentry := List.sizeOf_lt_of_mem _hmem
    obtain ⟨key, value⟩ := entry
    simp only [Prod.mk.sizeOf_spec] at hentry
    simp only [Value.mapping.sizeOf_spec]
    omega
  · simp only [Value.tagged.sizeOf_spec]
    omega

/-- The text of a variable is the text of an entry. -/
theorem Variables.exists_mem_of_lookup? {vars : Variables} {name value : String}
    (h : vars.lookup? name = some value) : ∃ entry ∈ vars.entries, entry.2.text? = some value := by
  rw [Variables.lookup?] at h
  split at h
  · rename_i v hget
    exact ⟨_, SortedMap.mem_of_findEntry hget, h⟩
  · cases h

namespace Template.Renderer

variable {r : Renderer} {vars others resolved : Variables} {value value' : Value}

/-- A text is rendered as its characters are. -/
theorem render_eq_map (r : Renderer) (vars : Variables) (text : String) :
    r.render vars text = (r.passes vars maxPasses text.toList).map String.ofList := by
  rw [render, renderChars]
  cases r.passes vars maxPasses text.toList with
  | error e => rfl
  | ok result => rfl

/-- The items of a sequence are rendered one by one. -/
theorem renderItems_eq_mapM (r : Renderer) (vars : Variables) (items : List Value) :
    r.renderItems vars items = items.mapM (r.renderValue vars) := by
  induction items with
  | nil => rfl
  | cons value rest ih =>
    rw [renderItems, ih, List.mapM_cons]
    cases r.renderValue vars value with
    | error e => rfl
    | ok value' =>
      cases rest.mapM (r.renderValue vars) with
      | error e => rfl
      | ok rest' => rfl

/-- The values of a mapping are rendered one by one, under their keys. -/
theorem renderEntries_eq_mapM (r : Renderer) (vars : Variables) (entries : List (Value × Value)) :
    r.renderEntries vars entries =
      entries.mapM (SortedMap.keyed fun _ value => r.renderValue vars value) := by
  induction entries with
  | nil => rfl
  | cons entry rest ih =>
    obtain ⟨key, value⟩ := entry
    rw [renderEntries, ih, List.mapM_cons, SortedMap.keyed]
    cases r.renderValue vars value with
    | error e => rfl
    | ok value' =>
      cases rest.mapM (SortedMap.keyed fun _ value => r.renderValue vars value) with
      | error e => rfl
      | ok rest' => rfl

/-! ## What is rendered inside a value -/

/-- A text is rendered as it is. -/
theorem renderValue_string (text : String) :
    r.renderValue vars (.string text) = (r.render vars text).map .string := by
  rw [renderValue]
  cases r.render vars text with
  | error e => rfl
  | ok text' => rfl

/-- A sequence is rendered item by item. -/
theorem renderValue_sequence (items : List Value) :
    r.renderValue vars (.sequence items) =
      (items.mapM (r.renderValue vars)).map .sequence := by
  rw [renderValue, renderItems_eq_mapM]
  cases items.mapM (r.renderValue vars) with
  | error e => rfl
  | ok items' => rfl

/-- A mapping is rendered entry by entry. -/
theorem renderValue_mapping (entries : List (Value × Value)) :
    r.renderValue vars (.mapping entries) =
      (entries.mapM (SortedMap.keyed fun _ value => r.renderValue vars value)).map .mapping := by
  rw [renderValue, renderEntries_eq_mapM]
  cases entries.mapM (SortedMap.keyed fun _ value => r.renderValue vars value) with
  | error e => rfl
  | ok entries' => rfl

/-- A tagged value is rendered under its tag. -/
theorem renderValue_tagged (tag : String) (value : Value) :
    r.renderValue vars (.tagged tag value) = (r.renderValue vars value).map (.tagged tag) := by
  rw [renderValue]
  cases r.renderValue vars value with
  | error e => rfl
  | ok value' => rfl

/-! ## Two ways of rendering -/

section Alike

variable {s : Renderer} {kind : Error → Prop}
  (hpass : ∀ text, SameUnless kind (r.pass vars text) (s.pass others text))

include hpass

/-- Passes are alike until nothing changes where every single pass is. -/
theorem sameUnless_passes_of_pass (n : Nat) (text : List Char) :
    SameUnless kind (r.passes vars n text) (s.passes others n text) := by
  induction n generalizing text with
  | zero => exact .inl rfl
  | succ n ih =>
    rw [passes, passes]
    rcases hpass text with hsame | ⟨e, he, hkind⟩
    · rw [hsame]
      cases r.pass vars text with
      | error e => exact .inl rfl
      | ok result =>
        -- both ways go on from the same text
        cases hchanged : result.changed with
        | true => simpa [hchanged] using ih result.text
        | false => exact .inl (by simp [hchanged])
    · rw [he]
      exact .inr ⟨e, rfl, hkind⟩

/-- Texts are rendered alike where every single pass is alike. -/
theorem sameUnless_render_of_pass (text : String) :
    SameUnless kind (r.render vars text) (s.render others text) := by
  rw [render_eq_map, render_eq_map]
  exact (sameUnless_passes_of_pass hpass maxPasses text.toList).map String.ofList

/-- Values are rendered alike where every single pass is alike. -/
theorem sameUnless_renderValue_of_pass (value : Value) :
    SameUnless kind (r.renderValue vars value) (s.renderValue others value) := by
  induction value with
  | null => exact .inl rfl
  | bool b => exact .inl rfl
  | number n => exact .inl rfl
  | string text =>
    rw [renderValue_string, renderValue_string]
    exact (sameUnless_render_of_pass hpass text).map Value.string
  | sequence items ih =>
    rw [renderValue_sequence, renderValue_sequence]
    exact (SameUnless.mapM ih).map Value.sequence
  | mapping entries ih =>
    rw [renderValue_mapping, renderValue_mapping]
    refine SameUnless.map (SameUnless.mapM fun entry hentry => ?_) Value.mapping
    exact SortedMap.sameUnless_keyed (ih entry hentry)
  | tagged tag value ih =>
    rw [renderValue_tagged, renderValue_tagged]
    exact ih.map (Value.tagged tag)

end Alike

/-! ## Which values there are afterwards -/

/-- A rendered value stands for a text exactly when the value does. -/
theorem isSome_text?_of_renderValue (h : r.renderValue vars value = .ok value') :
    value'.text?.isSome = value.text?.isSome := by
  induction value generalizing value' with
  | null => cases h; rfl
  | bool b => cases h; rfl
  | number n => cases h; rfl
  | string text =>
    rw [renderValue_string] at h
    obtain ⟨text', -, rfl⟩ := except_map_eq_ok_iff.mp h
    rfl
  | sequence items ih =>
    rw [renderValue_sequence] at h
    obtain ⟨items', -, rfl⟩ := except_map_eq_ok_iff.mp h
    rfl
  | mapping entries ih =>
    rw [renderValue_mapping] at h
    obtain ⟨entries', -, rfl⟩ := except_map_eq_ok_iff.mp h
    rfl
  | tagged tag value ih =>
    rw [renderValue_tagged] at h
    obtain ⟨inner, hinner, rfl⟩ := except_map_eq_ok_iff.mp h
    rw [Value.text?, Value.text?]
    exact ih hinner

/-- A rendered variable is the value rendered. -/
theorem renderVariable_eq_ok_iff {name : String} :
    r.renderVariable vars name value = .ok value' ↔ r.renderValue vars value = .ok value' := by
  rw [renderVariable]
  cases r.renderValue vars value with
  | error e => simp
  | ok rendered => simp

/-- A failure of a variable names it and has the failure of the value as its cause. -/
theorem renderVariable_eq_error_iff {name : String} {e : Error} :
    r.renderVariable vars name value = .error e ↔
      ∃ cause, r.renderValue vars value = .error cause ∧ e = .inVariable name cause := by
  rw [renderVariable]
  cases r.renderValue vars value with
  | error cause => simp [eq_comm]
  | ok rendered => simp

/-- Rendered variables have values for the same names. -/
theorem isSome_lookup?_of_renderVariables (h : r.renderVariables vars = .ok resolved)
    (name : String) : (resolved.lookup? name).isSome = (vars.lookup? name).isSome := by
  rw [Variables.lookup?, Variables.lookup?]
  rcases SortedMap.get?_traverse h name with ⟨hold, hnew⟩ | ⟨value, value', hold, hstep, hnew⟩
  · rw [hold, hnew]
  · rw [hold, hnew]
    exact isSome_text?_of_renderValue (renderVariable_eq_ok_iff.mp hstep)

/-- A text is settled with all variables that define no name more. -/
theorem IsSettled.of_undefined {text : List Char} (h : r.IsSettled vars text)
    (hnone : ∀ name, vars.lookup? name = none → others.lookup? name = none) :
    r.IsSettled others text := by
  intro inner hinner
  obtain ⟨hlenient, hunfilled⟩ := h inner hinner
  refine ⟨hlenient, ?_⟩
  rw [← Option.not_isSome_iff_eq_none, isSome_placeholderText?,
    Option.not_isSome_iff_eq_none] at hunfilled ⊢
  exact hnone _ hunfilled

/-- A rendered value is rendered to itself, also with other variables that define no name more. -/
theorem renderValue_of_rendered
    (hnone : ∀ name, vars.lookup? name = none → others.lookup? name = none)
    (h : r.renderValue vars value = .ok value') : r.renderValue others value' = .ok value' := by
  induction value generalizing value' with
  | null => cases h; rfl
  | bool b => cases h; rfl
  | number n => cases h; rfl
  | string text =>
    rw [renderValue_string] at h
    obtain ⟨out, hrender, rfl⟩ := except_map_eq_ok_iff.mp h
    have hsettled := (isSettled_of_render hrender).of_undefined hnone
    rw [renderValue_string, render_of_isSettled hsettled]
    rfl
  | sequence items ih =>
    rw [renderValue_sequence] at h
    obtain ⟨items', hitems, rfl⟩ := except_map_eq_ok_iff.mp h
    have hsame : items'.mapM (r.renderValue others) = .ok items' := by
      refine mapM_eq_self fun item' hitem' => ?_
      obtain ⟨item, hitem, hrender⟩ := exists_mem_of_mapM hitems hitem'
      exact ih item hitem hrender
    rw [renderValue_sequence, hsame]
    rfl
  | mapping entries ih =>
    rw [renderValue_mapping] at h
    obtain ⟨entries', hentries, rfl⟩ := except_map_eq_ok_iff.mp h
    have hsame : entries'.mapM (SortedMap.keyed fun _ value => r.renderValue others value) =
        .ok entries' := by
      refine mapM_eq_self fun entry' hentry' => ?_
      obtain ⟨entry, hentry, hstep⟩ := exists_mem_of_mapM hentries hentry'
      obtain ⟨-, hrender⟩ := SortedMap.keyed_eq_ok_iff.mp hstep
      exact SortedMap.keyed_eq_ok_iff.mpr ⟨rfl, ih entry hentry hrender⟩
    rw [renderValue_mapping, hsame]
    rfl
  | tagged tag value ih =>
    rw [renderValue_tagged] at h
    obtain ⟨inner, hinner, rfl⟩ := except_map_eq_ok_iff.mp h
    rw [renderValue_tagged, ih hinner]
    rfl

/-- Rendered variables are rendered to themselves: every value was rendered with the variables as
they were, and stays as it is with the rendered ones. -/
theorem renderVariables_of_rendered (h : r.renderVariables vars = .ok resolved) :
    r.renderVariables resolved = .ok resolved := by
  -- what had no value before has none now, which is all that the second rendering asks
  have hnone : ∀ name, vars.lookup? name = none → resolved.lookup? name = none := by
    intro name hname
    have hsome := isSome_lookup?_of_renderVariables h name
    rw [hname] at hsome
    exact Option.not_isSome_iff_eq_none.mp (by simp [hsome])
  refine SortedMap.traverse_eq_self fun entry' hentry' => ?_
  obtain ⟨entry, -, -, hstep⟩ := SortedMap.exists_mem_of_traverse h hentry'
  have hrendered := renderVariable_eq_ok_iff.mp hstep
  exact renderVariable_eq_ok_iff.mpr (renderValue_of_rendered hnone hrendered)

/-- A sequence with a text, a null under a tag and a mapping, some of whose placeholders have no
value. -/
def nestedVariables : Variables :=
  .ofList
    [ ("host", .string "db"),
      ("nothing", .tagged "unset" .null),
      ("list", .sequence
        [ .string "\x7b\x7bhost\x7d\x7d:\x7b\x7bport\x7d\x7d",
          .tagged "unset" .null,
          .mapping [(.string "key", .string "\x7b\x7bnothing\x7d\x7d")] ]) ]

/-- A lenient renderer leaves the placeholders without a value in the nested variables, and
renders the result to itself. -/
theorem renderVariables_nested :
    ∃ r resolved, Renderer.ofMarkup? .standard false = .ok r ∧
      r.renderVariables nestedVariables = .ok resolved ∧
      resolved.lookup? "list" = some
        ("[\"db:\x7b\x7bport\x7d\x7d\",\x7b\"!unset\":null\x7d," ++
          "\x7b\"key\":\"\x7b\x7bnothing\x7d\x7d\"\x7d]") ∧
      r.renderVariables resolved = .ok resolved := by
  have hrun : ((Renderer.ofMarkup? .standard false).bind fun r =>
      (r.renderVariables nestedVariables).bind fun resolved => .ok <| decide <|
        resolved.lookup? "list" = some
          ("[\"db:\x7b\x7bport\x7d\x7d\",\x7b\"!unset\":null\x7d," ++
            "\x7b\"key\":\"\x7b\x7bnothing\x7d\x7d\"\x7d]")).toOption = some true := by
    decide +kernel
  obtain ⟨r, hr, hrun⟩ := exists_of_toOption_bind hrun
  obtain ⟨resolved, hresolved, hrun⟩ := exists_of_toOption_bind hrun
  have hlist := of_decide_eq_true (Option.some.inj hrun)
  exact ⟨r, resolved, hr, hresolved, hlist, renderVariables_of_rendered hresolved⟩

end Template.Renderer

end LayeredConfig
