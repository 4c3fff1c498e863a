import LayeredConfig.Proofs.Template.FullExpansion
import LayeredConfig.Proofs.Template.Settled

/-!
# How many passes a clean text takes

Passes over a closed text keep it closed and shorten every chain of references
by one. So rendering ends in the full expansion exactly when the longest chain
is shorter than the bound on passes, and gives up otherwise.
-/

namespace LayeredConfig.Template

/-- A clean text whose references all lead to variables with clean values, with
no comment line in it or in a value. -/
structure IsClosed (r : Renderer) (vars : Variables) (text : List Char) : Prop where
  /-- The delimiters stand on one line. -/
  onOneLine : r.delimiters.OnOneLine
  /-- The text is clean. -/
  clean : IsCleanText r.delimiters text
  /-- Every variable that is reached is defined, with a clean value. -/
  values : ∀ name, Reaches r.delimiters vars text name →
    ∃ value, vars.lookup? name = some value ∧ IsCleanText r.delimiters value.toList
  /-- The first character of the comment marker does not stand in the text. -/
  unmarked : ∀ c, r.commentMarker.head? = some c → c ∉ text
  /-- The first character of the comment marker does not stand in a value that is reached. -/
  unmarkedValues : ∀ c, r.commentMarker.head? = some c → ∀ name value,
    Reaches r.delimiters vars text name → vars.lookup? name = some value → c ∉ value.toList

variable {r : Renderer} {vars : Variables}

/-- What is reached from inserted values was reached before. -/
theorem Reaches.of_next {d : Delimiters} {text next : List Char} {name : String}
    (hrefs : ∀ name, Refers d next name ↔ ∃ via value, Refers d text via ∧
      vars.lookup? via = some value ∧ Refers d value.toList name)
    (h : Reaches d vars next name) : Reaches d vars text name := by
  cases h with
  | direct href =>
    obtain ⟨via, value, hvia, hl, hr⟩ := (hrefs name).mp href
    exact .through hvia hl (.direct hr)
  | through href hl h =>
    obtain ⟨via, value, hvia, hl', hr⟩ := (hrefs _).mp href
    exact .through hvia hl' (.through hr hl h)

/-- A chain from inserted values is one reference shorter than the chain it came from. -/
theorem referenceChain_next_iff {d : Delimiters} {text next : List Char}
    (hrefs : ∀ name, Refers d next name ↔ ∃ via value, Refers d text via ∧
      vars.lookup? via = some value ∧ Refers d value.toList name)
    (hfirst : ReferenceChain d vars text 1) (n : ℕ) :
    ReferenceChain d vars next n ↔ ReferenceChain d vars text (n + 1) := by
  cases n with
  | zero => exact ⟨fun _ => hfirst, fun _ => .stop next⟩
  | succ n =>
    constructor
    · rintro (_ | ⟨href, hl, hc⟩)
      obtain ⟨via, value, hvia, hl', hr⟩ := (hrefs _).mp href
      exact .step hvia hl' (.step hr hl hc)
    · rintro (_ | ⟨hvia, hl', _ | ⟨hr, hl, hc⟩⟩)
      exact .step ((hrefs _).mpr ⟨_, _, hvia, hl', hr⟩) hl hc

/-- A text without references is its own full expansion. -/
theorem isFullExpansion_self {d : Delimiters} {text : List Char} (hc : IsCleanText d text)
    (h : ∀ name, ¬ Refers d text name) : IsFullExpansion d vars text text := by
  obtain ⟨segs, hclean, rfl⟩ := hc
  have hnone : ∀ inner, .placeholder inner ∉ segs := fun inner hi =>
    h _ ((refers_written_iff hclean _).mpr ⟨inner, hi, rfl⟩)
  refine ⟨segs, hclean, rfl, ?_⟩
  clear h
  induction segs with
  | nil => exact .nil
  | cons seg segs ih =>
    cases seg with
    | placeholder inner => exact absurd List.mem_cons_self (hnone inner)
    | literal text =>
      exact .literal text (ih (allClean_cons.mp hclean).2
        fun inner hi => hnone inner (List.mem_cons_of_mem _ hi))

/-- A pass over a closed text changes it when it refers to a variable. What
results is closed, refers to what the values referred to and expands alike. -/
theorem IsClosed.pass {text : List Char} (h : IsClosed r vars text) :
    ∃ next changed, r.pass vars text = .ok ⟨next, changed⟩ ∧
      (changed = true ↔ ∃ name, Refers r.delimiters text name) ∧ IsClosed r vars next ∧
      (∀ name, Refers r.delimiters next name ↔ ∃ via value, Refers r.delimiters text via ∧
        vars.lookup? via = some value ∧ Refers r.delimiters value.toList name) ∧
      ∀ out, IsFullExpansion r.delimiters vars next out ↔
        IsFullExpansion r.delimiters vars text out := by
  obtain ⟨segs, hc, rfl⟩ := h.clean
  have href : ∀ inner, .placeholder inner ∈ segs →
      Refers r.delimiters (written r.delimiters segs) (placeholderName inner) :=
    fun inner hi => (refers_written_iff hc _).mpr ⟨inner, hi, rfl⟩
  have hv : HasCleanValues r.delimiters vars segs :=
    fun inner hi => h.values _ (.direct (href inner hi))
  have hsome : ∀ inner, .placeholder inner ∈ segs → (placeholderText? vars inner).isSome := by
    intro inner hi
    obtain ⟨value, hl, -⟩ := hv inner hi
    simp [placeholderText?, hl]
  have hclean := allClean_inserted hc hv.insertsClean
  have hwritten := written_inserted r vars segs
  have hrefs := refers_inserted_iff hc hv
  rw [hwritten] at hrefs
  refine ⟨_, _, (Renderer.pass_written_iff h.onOneLine hc h.unmarked).mpr ⟨fun _ => hsome, rfl⟩,
    ?_, ?_, hrefs, ?_⟩
  · rw [Renderer.any_isFilled_iff]
    constructor
    · rintro ⟨inner, hi, -⟩
      exact ⟨_, href inner hi⟩
    · rintro ⟨name, hr⟩
      obtain ⟨inner, hi, -⟩ := (refers_written_iff hc name).mp hr
      exact ⟨inner, hi, hsome inner hi⟩
  · refine ⟨h.onOneLine, ⟨_, hclean, hwritten⟩, fun name hr => h.values name (hr.of_next hrefs),
      fun c hm hn => ?_, fun c hm name value hr => h.unmarkedValues c hm name value
        (hr.of_next hrefs)⟩
    rcases mem_fill hn with hn | ⟨inner, value, hi, hl, hn⟩
    · exact h.unmarked c hm hn
    · exact h.unmarkedValues c hm _ value (.direct (href inner hi)) hl hn
  · intro out
    rw [← hwritten, isFullExpansion_written_iff hclean, isFullExpansion_written_iff hc]
    exact expandsTo_inserted_iff hv

/-- A number of passes ends in the full expansion when no chain of references
is that long, and gives up when one is. -/
theorem IsClosed.passes {text : List Char} (h : IsClosed r vars text) (n : ℕ) :
    (ReferenceChain r.delimiters vars text n →
      r.passes vars n text = .error (.didNotConverge maxPasses)) ∧
    (¬ ReferenceChain r.delimiters vars text n →
      ∃ out, r.passes vars n text = .ok out ∧
        IsFullExpansion r.delimiters vars text out) := by
  induction n generalizing text with
  | zero => exact ⟨fun _ => rfl, fun hn => absurd (.stop text) hn⟩
  | succ n ih =>
    obtain ⟨next, changed, hpass, hchanged, hnext, hrefs, hfull⟩ := h.pass
    rw [Renderer.passes, hpass]
    cases changed with
    | false =>
      have hnone : ∀ name, ¬ Refers r.delimiters text name :=
        fun name hr => Bool.false_ne_true (hchanged.mpr ⟨name, hr⟩)
      have hnoneNext : ∀ name, ¬ Refers r.delimiters next name := by
        intro name hr
        obtain ⟨via, -, hvia, -⟩ := (hrefs name).mp hr
        exact hnone via hvia
      constructor
      · rintro (_ | ⟨hr, -, -⟩)
        exact absurd hr (hnone _)
      · intro _
        exact ⟨next, rfl, (hfull next).mp (isFullExpansion_self hnext.clean hnoneNext)⟩
    | true =>
      obtain ⟨name, hr⟩ := hchanged.mp rfl
      obtain ⟨value, hl, -⟩ := h.values name (.direct hr)
      have hchain := referenceChain_next_iff hrefs (.step hr hl (.stop _)) n
      obtain ⟨hgive, hend⟩ := ih hnext
      rw [← hchain]
      refine ⟨hgive, fun hn => ?_⟩
      obtain ⟨out, hout, hexp⟩ := hend hn
      exact ⟨out, hout, (hfull out).mp hexp⟩

/-! ## Finding out whether a text is closed -/

instance (d : Delimiters) : DecidablePred d.Uses :=
  fun c => inferInstanceAs (Decidable (c ∈ d.opening ∨ c ∈ d.closing))

instance (d : Delimiters) : Decidable d.OnOneLine := inferInstanceAs (Decidable (¬ d.Uses '\n'))

-- the texts are searched, not all characters there are
instance (d : Delimiters) : DecidablePred (Segment.IsClean d)
  | .literal text => List.decidableBAll (fun c => ¬ d.Uses c) text
  | .placeholder inner =>
    have : Decidable (∀ c ∈ inner, ¬ d.Uses c) := List.decidableBAll (fun c => ¬ d.Uses c) inner
    inferInstanceAs (Decidable (inner ≠ [] ∧ '\n' ∉ inner ∧ ∀ c ∈ inner, ¬ d.Uses c))

instance (d : Delimiters) (segs : List Segment) : Decidable (AllClean d segs) :=
  inferInstanceAs (Decidable (∀ seg ∈ segs, seg.IsClean d))

/-- The variables that a text names. -/
def references (d : Delimiters) (text : List Char) : List String :=
  ((segments d text).flatMap Segment.inner).map placeholderName

/-- What stands in a text or a value of a closed text. -/
def IsClosedPart (r : Renderer) (names : List String) (text : List Char) : Prop :=
  AllClean r.delimiters (segments r.delimiters text) ∧
    (∀ name ∈ references r.delimiters text, name ∈ names) ∧
    ∀ c ∈ r.commentMarker.head?, c ∉ text

instance (r : Renderer) (names : List String) (text : List Char) :
    Decidable (IsClosedPart r names text) :=
  have : Decidable (∀ c ∈ r.commentMarker.head?, c ∉ text) :=
    Option.decidableForallMem (p := fun c => c ∉ text) r.commentMarker.head?
  inferInstanceAs (Decidable (AllClean r.delimiters (segments r.delimiters text) ∧
    (∀ name ∈ references r.delimiters text, name ∈ names) ∧
    ∀ c ∈ r.commentMarker.head?, c ∉ text))

/-- A clean text refers to the variables it names. -/
theorem refers_iff_mem_references {d : Delimiters} {text : List Char}
    (hc : AllClean d (segments d text)) (name : String) :
    Refers d text name ↔ name ∈ references d text := by
  have h := refers_written_iff hc name
  rw [written_segments] at h
  rw [h, references, List.mem_map]
  simp only [mem_flatMap_inner]

/-- Names that hold all references of a text and of their own values hold all that is reached. -/
theorem Reaches.mem_names {names : List String} {text : List Char} {name : String}
    (hvalues : ∀ name ∈ names, ∃ value, vars.lookup? name = some value ∧
      IsClosedPart r names value.toList)
    (htext : IsClosedPart r names text) (h : Reaches r.delimiters vars text name) :
    name ∈ names := by
  induction h with
  | direct href => exact htext.2.1 _ ((refers_iff_mem_references htext.1 _).mp href)
  | through href hl _ ih =>
    have hmem := htext.2.1 _ ((refers_iff_mem_references htext.1 _).mp href)
    obtain ⟨value, hl', hpart⟩ := hvalues _ hmem
    obtain rfl := Option.some.inj (hl.symm.trans hl')
    exact ih hpart

/-- A text is closed when it and the values of finitely many names refer only to these names. -/
theorem isClosed_of_names (names : List String) {text : List Char}
    (hd : r.delimiters.OnOneLine) (htext : IsClosedPart r names text)
    (hvalues : ∀ name ∈ names, ∃ value, vars.lookup? name = some value ∧
      IsClosedPart r names value.toList) : IsClosed r vars text where
  onOneLine := hd
  clean := isCleanText_iff.mpr htext.1
  values name hr := by
    obtain ⟨value, hl, hpart⟩ := hvalues name (hr.mem_names hvalues htext)
    exact ⟨value, hl, isCleanText_iff.mpr hpart.1⟩
  unmarked c hm := htext.2.2 c hm
  unmarkedValues c hm name value hr hl := by
    obtain ⟨other, hl', hpart⟩ := hvalues name (hr.mem_names hvalues htext)
    obtain rfl := Option.some.inj (hl.symm.trans hl')
    exact hpart.2.2 c hm

/-- Rendering a closed text gives its full expansion exactly when the longest
chain of references has at most 29 of them, and gives up after 30 passes when
one is longer. A text without references has depth zero, and a cycle that is
reached makes the depth infinite. -/
theorem render_of_isClosed {text : String} (h : IsClosed r vars text.toList) :
    (∀ out, r.render vars text = .ok out ↔
      referenceDepth r.delimiters vars text.toList ≤ 29 ∧
        IsFullExpansion r.delimiters vars text.toList out.toList) ∧
    (referenceDepth r.delimiters vars text.toList ≤ 29 ↔
      ∃ out, r.render vars text = .ok out) ∧
    (¬ referenceDepth r.delimiters vars text.toList ≤ 29 →
      r.render vars text = .error (.didNotConverge 30)) ∧
    ((∀ name, ¬ Refers r.delimiters text.toList name) →
      referenceDepth r.delimiters vars text.toList = 0) ∧
    (∀ name value, Reaches r.delimiters vars text.toList name →
      vars.lookup? name = some value → Reaches r.delimiters vars value.toList name →
      referenceDepth r.delimiters vars text.toList = ⊤) := by
  have hdepth : referenceDepth r.delimiters vars text.toList ≤ 29 ↔
      ¬ ReferenceChain r.delimiters vars text.toList (29 + 1) := referenceDepth_le_iff_not_chain
  obtain ⟨hgive, hend⟩ := h.passes maxPasses
  have hok : referenceDepth r.delimiters vars text.toList ≤ 29 → ∃ out,
      r.render vars text = .ok (String.ofList out) ∧
        IsFullExpansion r.delimiters vars text.toList out := by
    intro hle
    obtain ⟨out, hpasses, hexp⟩ := hend (hdepth.mp hle)
    exact ⟨out, by rw [Renderer.render, Renderer.renderChars, hpasses], hexp⟩
  have herror : ¬ referenceDepth r.delimiters vars text.toList ≤ 29 →
      r.render vars text = .error (.didNotConverge 30) := by
    intro hlt
    have hchain := not_not.mp (mt hdepth.mpr hlt)
    rw [Renderer.render, Renderer.renderChars, hgive hchain]
    rfl
  have hle : ∀ out, r.render vars text = .ok out →
      referenceDepth r.delimiters vars text.toList ≤ 29 := by
    intro out hr
    by_contra hlt
    rw [herror hlt] at hr
    cases hr
  refine ⟨fun out => ⟨fun hr => ⟨hle out hr, ?_⟩, ?_⟩,
    ⟨fun hd => ?_, fun hresult => hresult.elim hle⟩, herror, referenceDepth_eq_zero,
    fun name value => referenceDepth_eq_top⟩
  · obtain ⟨full, hf, hexp⟩ := hok (hle out hr)
    obtain rfl := Except.ok.inj (hr.symm.trans hf)
    rwa [String.toList_ofList]
  · rintro ⟨hd, hexp⟩
    obtain ⟨full, hf, hfull⟩ := hok hd
    rw [hf, hfull.unique hexp, String.ofList_toList]
  · obtain ⟨full, hf, -⟩ := hok hd
    exact ⟨_, hf⟩

/-- A strict renderer with the usual markup. -/
def standardRenderer : Renderer :=
  ⟨⟨['\x7b', '\x7b'], ['\x7d', '\x7d'], List.cons_ne_nil _ _, List.cons_ne_nil _ _⟩, ['#'], true⟩

/-- An address made of two other variables, and a variable that refers to itself. -/
def addressVariables : Variables :=
  SortedMap.ofList [("host", .string "db"), ("port", .number (.integer 5432)),
    ("url", .string "http://\x7b\x7b host \x7d\x7d:\x7b\x7bport\x7d\x7d"),
    ("loop", .string "again \x7b\x7bloop\x7d\x7d")]

/-- The address is expanded through both of its parts, and the loop is given up. -/
theorem render_address_and_loop :
    IsClosed standardRenderer addressVariables "at \x7b\x7burl\x7d\x7d\n".toList ∧
    IsFullExpansion standardRenderer.delimiters addressVariables
      "at \x7b\x7burl\x7d\x7d\n".toList "at http://db:5432\n".toList ∧
    IsClosed standardRenderer addressVariables "\x7b\x7bloop\x7d\x7d".toList ∧
    standardRenderer.render addressVariables "\x7b\x7bloop\x7d\x7d" =
      .error (.didNotConverge 30) := by
  have haddress : IsClosed standardRenderer addressVariables
      "at \x7b\x7burl\x7d\x7d\n".toList :=
    isClosed_of_names ["url", "host", "port"] (by decide +kernel) (by decide +kernel)
      (by decide +kernel)
  have hrender : standardRenderer.render addressVariables "at \x7b\x7burl\x7d\x7d\n" =
      .ok "at http://db:5432\n" := by decide +kernel
  have hloop : IsClosed standardRenderer addressVariables "\x7b\x7bloop\x7d\x7d".toList :=
    isClosed_of_names ["loop"] (by decide +kernel) (by decide +kernel) (by decide +kernel)
  have hvalue : addressVariables.lookup? "loop" = some "again \x7b\x7bloop\x7d\x7d" := by
    decide +kernel
  have hfirst : Reaches standardRenderer.delimiters addressVariables
      "\x7b\x7bloop\x7d\x7d".toList "loop" :=
    .direct ((refers_iff_mem_references (by decide +kernel) _).mpr (by decide +kernel))
  have hagain : Reaches standardRenderer.delimiters addressVariables
      "again \x7b\x7bloop\x7d\x7d".toList "loop" :=
    .direct ((refers_iff_mem_references (by decide +kernel) _).mpr (by decide +kernel))
  obtain ⟨-, -, hgive, -, hcycle⟩ := render_of_isClosed hloop
  have hdepth := hcycle _ _ hfirst hvalue hagain
  refine ⟨haddress, (((render_of_isClosed haddress).1 _).mp hrender).2, hloop, hgive ?_⟩
  rw [hdepth, top_le_iff]
  exact ENat.natCast_ne_top 29

end LayeredConfig.Template
