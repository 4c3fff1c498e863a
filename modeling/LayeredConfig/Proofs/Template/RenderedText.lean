import LayeredConfig.Proofs.Template.Convergence
import LayeredConfig.Proofs.Template.Leaves
import LayeredConfig.Proofs.Template.QuotedTexts

/-!
# The text of a rendered value

A rendered value and its text can be had in two ways: render the value and take its text,
or take its text and render that. For a text inside tags both are the same. A number or a
truth value stays as it is, while its text may hold a placeholder. In the text of a
structure the texts inside the structure stand quoted, beside keys, tags and punctuation
that stay when the structure is rendered: there, both ways give the same when every pass
over the text fills the texts in it as a pass over each of them does, and nothing else.
-/

namespace LayeredConfig.Template.Renderer

open Text

variable {r : Renderer} {vars : Variables} {value value' : Value} {text out : String} {n : ℕ}

/-- Rendering the text of a structure fills the texts inside it where they stand, as rendering the
structure does. -/
structure RendersInPlace (r : Renderer) (vars : Variables) (value : Value) : Prop where
  /-- The delimiters hold no quotes. -/
  unquoted : ¬ r.delimiters.Uses '"'
  /-- Around the texts there is no line feed, every opening is closed and nothing is filled. -/
  around : ∀ stretch ∈ stretches [] ((Layout.of value).pieces value), '\n' ∉ stretch ∧
    AllClosed r.delimiters stretch ∧ (segments r.delimiters stretch).any (isFilled vars) = false
  /-- Before no pass the text of the structure is a comment. -/
  uncommented : ∀ n < maxPasses,
    r.isComment (value.mapLeaves (r.filledText vars n)).structureText.toList = false
  /-- Before each pass the texts inside are filled alike whether they are escaped or not. -/
  quotable : ∀ text ∈ value.leaves, ∀ n < maxPasses,
    r.IsQuotable vars (Layout.of value).escape (r.filledText vars n text).toList

/-- The characters of the text of a structure with other texts are spelled by its pieces with
them. -/
theorem toList_structureText_mapLeaves (f : String → String) (value : Value) :
    (value.mapLeaves f).structureText.toList =
      spelledAll (Layout.of value).escape
        (((Layout.of value).pieces value).map (Piece.mapText f)) := by
  rw [Layout.structureText_eq, Layout.of_mapLeaves, Layout.pieces_mapLeaves, String.toList_ofList]

/-- One more pass fills the texts inside the structure once more. -/
theorem RendersInPlace.filled (h : r.RendersInPlace vars value) (hn : n < maxPasses) :
    r.filled vars (value.mapLeaves (r.filledText vars n)).structureText.toList =
      (value.mapLeaves (r.filledText vars (n + 1))).structureText.toList := by
  have honce : ∀ piece : Piece, (piece.mapText (r.filledText vars n)).mapText
      (r.filledText vars 1) = piece.mapText (r.filledText vars (n + 1)) := by
    intro piece
    cases piece with
    | bare text => rfl
    | quoted text =>
      simp only [Piece.mapText, filledText, String.toList_ofList, filledTimes_succ]
      rfl
  have hquoted : ∀ text,
      .quoted text ∈ ((Layout.of value).pieces value).map (Piece.mapText (r.filledText vars n)) →
        r.IsQuotable vars (Layout.of value).escape text.toList := by
    intro text htext
    obtain ⟨piece, hpiece, hmapped⟩ := List.mem_map.mp htext
    cases piece with
    | bare bare => cases hmapped
    | quoted leaf =>
      cases hmapped
      exact h.quotable leaf (Layout.mem_leaves_of_mem_pieces hpiece) n hn
  have hcomment := h.uncommented n hn
  rw [toList_structureText_mapLeaves] at hcomment ⊢
  rw [toList_structureText_mapLeaves]
  rw [filled_spelledAll (Layout.newline_not_mem_escape value) h.unquoted hcomment
    (by rw [stretches_mapText]; exact h.around) hquoted, List.map_map]
  exact congrArg _ (List.map_congr_left fun piece _ => honce piece)

/-- After a number of passes the text of the structure has the texts inside it filled as often. -/
theorem RendersInPlace.filledTimes_structureText (h : r.RendersInPlace vars value)
    (hn : n ≤ maxPasses) :
    r.filledTimes vars n value.structureText.toList =
      (value.mapLeaves (r.filledText vars n)).structureText.toList := by
  induction n with
  | zero =>
    have hself : value.mapLeaves (r.filledText vars 0) = value :=
      (Value.mapLeaves_congr fun text _ => String.ofList_toList).trans value.mapLeaves_id
    rw [filledTimes_zero, hself]
  | succ n ih => rw [filledTimes_succ, ih (by omega), h.filled (by omega)]

/-- A structure that renders in place has, rendered, the text that its own text is rendered to. -/
theorem RendersInPlace.structureText_eq (h : r.RendersInPlace vars value)
    (hleaves : ∀ text ∈ value.leaves, ∃ out, r.render vars text = .ok out)
    (hout : r.render vars value.structureText = .ok out) :
    (value.mapLeaves (r.rendered vars)).structureText = out := by
  have hlast : value.mapLeaves (r.rendered vars) =
      value.mapLeaves (r.filledText vars maxPasses) := by
    refine Value.mapLeaves_congr fun text htext => ?_
    obtain ⟨leaf, hleaf⟩ := hleaves text htext
    obtain ⟨m, hm, -, hstays, -⟩ := filledTimes_of_render hleaf
    rw [rendered_eq hleaf, filledText, hstays maxPasses (by omega), String.ofList_toList]
  obtain ⟨m, hm, -, hstays, -⟩ := filledTimes_of_render hout
  rw [hlast, ← String.toList_inj, ← h.filledTimes_structureText le_rfl, hstays maxPasses (by omega)]

/-- Only the passes up to the one that changes none of the texts inside any more count. -/
theorem rendersInPlace_of_unchanged {m : ℕ} (unquoted : ¬ r.delimiters.Uses '"')
    (around : ∀ stretch ∈ stretches [] ((Layout.of value).pieces value), '\n' ∉ stretch ∧
      AllClosed r.delimiters stretch ∧ (segments r.delimiters stretch).any (isFilled vars) = false)
    (hsame : ∀ text ∈ value.leaves, r.Unchanged vars (r.filledTimes vars m text.toList))
    (uncommented : ∀ n ≤ m,
      r.isComment (value.mapLeaves (r.filledText vars n)).structureText.toList = false)
    (quotable : ∀ text ∈ value.leaves, ∀ n ≤ m,
      r.IsQuotable vars (Layout.of value).escape (r.filledText vars n text).toList) :
    r.RendersInPlace vars value := by
  have hlater : ∀ n, m ≤ n → ∀ text ∈ value.leaves,
      r.filledText vars n text = r.filledText vars m text := by
    intro n hn text htext
    rw [filledText, (hsame text htext).filledTimes_of_le hn, filledText]
  refine ⟨unquoted, around, fun n _ => ?_, fun text htext n _ => ?_⟩
  · rcases Nat.le_total n m with hn | hn
    · exact uncommented n hn
    · rw [Value.mapLeaves_congr (hlater n hn)]
      exact uncommented m le_rfl
  · rcases Nat.le_total n m with hn | hn
    · exact quotable text htext n hn
    · rw [hlater n hn text htext]
      exact quotable text htext m le_rfl

/-- A text that is rendered to itself is one that no pass changes. -/
theorem render_eq_self_iff (hout : r.render vars text = .ok out) :
    text = out ↔ r.Unchanged vars text.toList := by
  obtain ⟨m, -, hunchanged, hstays, -⟩ := filledTimes_of_render hout
  constructor
  · rintro rfl
    exact hunchanged
  · intro hsame
    rw [← String.toList_inj, ← hstays m le_rfl, hsame.filledTimes_eq]

/-- Rendering a value and then taking its text gives what rendering its text gives: always for a
text, for a number or a truth value exactly when no placeholder in its text has a value, and for a
structure when it renders in place; each of them possibly under tags. -/
theorem text?_eq_of_renderValue (h : r.renderValue vars value = .ok value')
    (htext : value.text? = some text) (hout : r.render vars text = .ok out) :
    (∀ s, value.untagged = .string s → value'.text? = some out) ∧
    ((∃ b, value.untagged = .bool b) ∨ (∃ x, value.untagged = .number x) →
      (value'.text? = some out ↔ r.Unchanged vars text.toList)) ∧
    ((∃ items, value.untagged = .sequence items) ∨
        (∃ entries, value.untagged = .mapping entries) →
      r.RendersInPlace vars value.untagged → value'.text? = some out) := by
  obtain ⟨hleaves, rfl⟩ := renderValue_eq_ok_iff.mp h
  rw [← Value.leaves_untagged] at hleaves
  rw [← Value.text?_untagged] at htext
  rw [← Value.text?_untagged, Value.untagged_mapLeaves]
  generalize value.untagged = plain at hleaves htext ⊢
  refine ⟨?_, ?_, ?_⟩
  · rintro s rfl
    cases htext
    exact congrArg some (rendered_eq hout)
  · rintro (⟨b, rfl⟩ | ⟨x, rfl⟩)
    · rw [← render_eq_self_iff hout, Value.mapLeaves, htext, Option.some_inj]
    · rw [← render_eq_self_iff hout, Value.mapLeaves, htext, Option.some_inj]
  · intro hstructure hplace
    have hboth : ∀ f, (plain.mapLeaves f).text? = some (plain.mapLeaves f).structureText ∧
        plain.text? = some plain.structureText := by
      intro f
      obtain ⟨items, rfl⟩ | ⟨entries, rfl⟩ := hstructure
      · exact ⟨rfl, rfl⟩
      · exact ⟨rfl, rfl⟩
    rw [(hboth id).2, Option.some_inj] at htext
    rw [(hboth _).1, hplace.structureText_eq hleaves (htext ▸ hout)]

/-- A region, a site in it, a quotation mark, and a variable that is named by a digit. -/
def siteVariables : Variables :=
  .ofList [("region", .string "eu"), ("site", .string "\x7b\x7bregion\x7d\x7d-1"),
    ("quote", .string "\""), ("3", .string "three")]

/-- A quoted site and a port, under a tag. -/
def siteValue : Value :=
  .tagged "sites" (.mapping [(.string "hosts",
    .sequence [.string "\"\x7b\x7bsite\x7d\x7d\"", .number (.integer 80)])])

/-- The site is expanded through its region, and has the text that its text is expanded to: the
quotes around it are escaped in both. -/
theorem text?_of_rendered_site : ∃ rendered,
    standardRenderer.renderValue siteVariables siteValue = .ok rendered ∧
      rendered.text? = some "\x7b\"hosts\":[\"\\\"eu-1\\\"\",80]\x7d" := by
  have hrun : ((standardRenderer.renderValue siteVariables siteValue).bind fun _ =>
      .ok ()).toOption = some () := by decide +kernel
  obtain ⟨rendered, h, -⟩ := exists_of_toOption_bind hrun
  have htext : siteValue.text? =
      some "\x7b\"hosts\":[\"\\\"\x7b\x7bsite\x7d\x7d\\\"\",80]\x7d" := by
    decide +kernel
  have hout : standardRenderer.render siteVariables
      "\x7b\"hosts\":[\"\\\"\x7b\x7bsite\x7d\x7d\\\"\",80]\x7d" =
        .ok "\x7b\"hosts\":[\"\\\"eu-1\\\"\",80]\x7d" := by
    decide +kernel
  have hleaves : siteValue.untagged.leaves = ["\"\x7b\x7bsite\x7d\x7d\""] := rfl
  have hplace : standardRenderer.RendersInPlace siteVariables siteValue.untagged := by
    refine rendersInPlace_of_unchanged (m := 2) (by decide) (by decide +kernel) ?_
      (by decide +kernel) ?_
    · rw [hleaves, List.forall_mem_singleton]
      exact any_changesLine_eq_false_iff.mp (by decide +kernel)
    · rw [hleaves, List.forall_mem_singleton]
      intro n hn
      obtain rfl | rfl | rfl : n = 0 ∨ n = 1 ∨ n = 2 := by omega
      · decide +kernel
      · decide +kernel
      · decide +kernel
  exact ⟨rendered, h, (text?_eq_of_renderValue h htext hout).2.2 (.inr ⟨_, rfl⟩) hplace⟩

/-- The text of the rendered value, and what the text of the value is rendered to. -/
def bothTexts? (r : Renderer) (vars : Variables) (value : Value) : Option (String × String) := do
  let rendered ← (r.renderValue vars value).toOption
  let after ← rendered.text?
  let text ← value.text?
  let inPlace ← (r.render vars text).toOption
  return (after, inPlace)

/-- The two texts differ for a value that has to be escaped, for a key with a placeholder, for a
comment that is none in quotes, and for a number when digits are the delimiters. -/
theorem bothTexts?_differ :
    bothTexts? standardRenderer siteVariables (.sequence [.string "\x7b\x7bquote\x7d\x7d"]) =
        some ("[\"\\\"\"]", "[\"\"\"]") ∧
      bothTexts? standardRenderer siteVariables
        (.mapping [(.string "\x7b\x7bregion\x7d\x7d", .bool true)]) =
          some ("\x7b\"\x7b\x7bregion\x7d\x7d\":true\x7d", "\x7b\"eu\":true\x7d") ∧
      bothTexts? standardRenderer siteVariables
        (.sequence [.string "# \x7b\x7bregion\x7d\x7d"]) =
          some ("[\"# \x7b\x7bregion\x7d\x7d\"]", "[\"# eu\"]") ∧
      bothTexts? ⟨⟨['1'], ['2'], List.cons_ne_nil _ _, List.cons_ne_nil _ _⟩, [], true⟩
        siteVariables (.number (.integer 132)) = some ("132", "three") := by
  decide +kernel

end LayeredConfig.Template.Renderer
