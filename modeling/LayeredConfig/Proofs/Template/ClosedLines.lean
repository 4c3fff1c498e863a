import LayeredConfig.Proofs.Template.CleanPass

/-!
# Lines that close what they open

When every opening that is read on a line is closed on it, what follows the line behind
a separator is read as if it stood alone. And when characters that the delimiters do not
use are escaped by others of this kind, a line is read as before, with its literals and
the texts in its placeholders escaped.
-/

namespace LayeredConfig.Template

open Text

variable {d : Delimiters} {line front text separator : List Char}

/-! ## Reading a line, case by case -/

/-- A line with an opening that is not closed is one literal. -/
theorem segments_of_unclosed {before after : List Char}
    (ho : cut? d.opening line = some (before, after)) (hc : cut? d.closing after = none) :
    segments d line = [.literal line] := by
  rw [segments]
  split
  · rfl
  · rename_i h
    rw [ho] at h
    cases h
    split
    · rfl
    · rename_i h
      rw [hc] at h
      cases h
    · rename_i h
      rw [hc] at h
      cases h

/-- An opening that is closed at once is literal. -/
theorem segments_of_empty {before after rest : List Char}
    (ho : cut? d.opening line = some (before, after))
    (hc : cut? d.closing after = some ([], rest)) :
    segments d line = .literal (before ++ d.opening) :: segments d after := by
  rw [segments]
  split
  · rename_i h
    rw [ho] at h
    cases h
  · rename_i h
    rw [ho] at h
    cases h
    split
    · rename_i h
      rw [hc] at h
      cases h
    · rfl
    · rename_i h
      rw [hc] at h
      cases h

/-- A line is read as at least one segment. -/
theorem segments_ne_nil (d : Delimiters) (line : List Char) : segments d line ≠ [] := by
  induction line using segments.induct d with
  | case1 line hopen => simp [segments_of_unopened hopen]
  | case2 line before after hopen hclose => simp [segments_of_unclosed hopen hclose]
  | case3 line before after hopen rest hclose ih => simp [segments_of_empty hopen hclose]
  | case4 line before after hopen c inner rest hclose ih =>
    simp [segments_of_placeholder hopen hclose]

/-- Every opening that is read on the line is closed on it: the last literal has none. -/
def AllClosed (d : Delimiters) (line : List Char) : Prop :=
  ∀ last, (segments d line).getLast? = some (.literal last) → cut? d.opening last = none

instance (d : Delimiters) (line : List Char) : Decidable (AllClosed d line) :=
  match h : (segments d line).getLast? with
  | some (.literal last) => decidable_of_iff (cut? d.opening last = none) (by simp [AllClosed, h])
  | some (.placeholder inner) => .isTrue (by simp [AllClosed, h])
  | none => .isTrue (by simp [AllClosed, h])

/-- Segments in front do not decide whether a line is closed. -/
theorem allClosed_of_segments (segs : List Segment) {rest : List Char}
    (h : segments d line = segs ++ segments d rest) : AllClosed d line ↔ AllClosed d rest := by
  have hlast := List.getLast?_eq_some_getLast (segments_ne_nil d rest)
  rw [AllClosed, AllClosed, h, List.getLast?_append, hlast, Option.some_or]

/-- A line with an opening that is not closed is not closed. -/
theorem not_allClosed_of_unclosed {before after : List Char}
    (ho : cut? d.opening line = some (before, after)) (hc : cut? d.closing after = none) :
    ¬ AllClosed d line := by
  intro h
  have hnone := h line (by rw [segments_of_unclosed ho hc]; rfl)
  rw [ho] at hnone
  cases hnone

/-! ## What follows a closed line -/

section Reading

variable {β : Type} {f : Segment → List β}

/-- A text in which no opening begins is a literal in front of what follows it. -/
theorem flatMap_segments_of_passed (hf : IgnoresDivision f)
    (h : cut? d.opening (front ++ text) =
      (cut? d.opening text).map fun parts => (front ++ parts.1, parts.2)) :
    (segments d (front ++ text)).flatMap f = f (.literal front) ++ (segments d text).flatMap f := by
  cases hopen : cut? d.opening text with
  | none =>
    rw [hopen] at h
    rw [segments_of_unopened h, segments_of_unopened hopen, List.flatMap_singleton,
      List.flatMap_singleton, hf]
  | some parts =>
    obtain ⟨before, after⟩ := parts
    rw [hopen] at h
    cases hclose : cut? d.closing after with
    | none =>
      rw [segments_of_unclosed h hclose, segments_of_unclosed hopen hclose,
        List.flatMap_singleton, List.flatMap_singleton, hf]
    | some parts =>
      obtain ⟨inner, rest⟩ := parts
      cases inner with
      | nil =>
        rw [segments_of_empty h hclose, segments_of_empty hopen hclose, List.append_assoc,
          List.flatMap_cons, hf front, List.append_assoc, List.flatMap_cons]
      | cons c inner =>
        rw [segments_of_placeholder h hclose, segments_of_placeholder hopen hclose,
          List.flatMap_cons, hf front, List.append_assoc, List.flatMap_cons]
        rfl

/-- A text without an opening, and a separator, are a literal in front of what follows them. -/
theorem flatMap_segments_of_unopened (hf : IgnoresDivision f) (hseparator : separator ≠ [])
    (hunused : ∀ c ∈ separator, ¬ d.Uses c) (hopen : cut? d.opening front = none)
    (text : List Char) :
    (segments d (front ++ separator ++ text)).flatMap f =
      f (.literal front) ++ f (.literal separator) ++ (segments d text).flatMap f := by
  have hpassed := cut?_append_separator text d.opening_ne_nil hseparator
    (fun c hc ho => hunused c hc (.inl ho)) hopen
  rw [flatMap_segments_of_passed hf hpassed, hf]

/-- Behind a closed line and a separator, the rest is read as if it stood alone. -/
theorem flatMap_segments_of_allClosed (hf : IgnoresDivision f) (hclosed : AllClosed d front)
    (hseparator : separator ≠ []) (hunused : ∀ c ∈ separator, ¬ d.Uses c) (text : List Char) :
    (segments d (front ++ separator ++ text)).flatMap f =
      (segments d front).flatMap f ++ f (.literal separator) ++ (segments d text).flatMap f := by
  induction front using segments.induct d with
  | case1 line hopen =>
    rw [flatMap_segments_of_unopened hf hseparator hunused hopen, segments_of_unopened hopen]
    simp
  | case2 line before after hopen hclose =>
    exact absurd hclosed (not_allClosed_of_unclosed hopen hclose)
  | case3 line before after hopen rest hclose ih =>
    have hsegments := segments_of_empty hopen hclose
    have hafter := (allClosed_of_segments [_] hsegments).mp hclosed
    have hopen' := cut?_append_of_eq_some hopen (separator ++ text)
    have hclose' := cut?_append_of_eq_some hclose (separator ++ text)
    rw [List.append_assoc, segments_of_empty hopen' hclose', hsegments,
      List.flatMap_cons, List.flatMap_cons, ← List.append_assoc after, ih hafter]
    simp
  | case4 line before after hopen c inner rest hclose ih =>
    have hsegments := segments_of_placeholder hopen hclose
    have hrest := (allClosed_of_segments [_, _] hsegments).mp hclosed
    have hopen' := cut?_append_of_eq_some hopen (separator ++ text)
    have hclose' := cut?_append_of_eq_some hclose (separator ++ text)
    have hread := ih hrest
    rw [List.append_assoc] at hread
    rw [List.append_assoc, segments_of_placeholder hopen' hclose', hsegments]
    simp [hread]

end Reading

/-! ## Lines with escaped characters -/

/-- Escaping the character does not disturb the delimiters: it stands for itself if they use it,
and otherwise nothing that they use stands for it. -/
def EscapesApart (d : Delimiters) (escape : Char → List Char) (c : Char) : Prop :=
  (d.Uses c → escape c = [c]) ∧ (¬ d.Uses c → escape c ≠ [] ∧ ∀ e ∈ escape c, ¬ d.Uses e)

instance (d : Delimiters) (c : Char) : Decidable (d.Uses c) :=
  inferInstanceAs (Decidable (c ∈ d.opening ∨ c ∈ d.closing))

instance (d : Delimiters) (escape : Char → List Char) (c : Char) :
    Decidable (EscapesApart d escape c) :=
  -- only the characters of the list are gone through
  haveI : Decidable (∀ e ∈ escape c, ¬ d.Uses e) := List.decidableBAll _ _
  inferInstanceAs (Decidable ((d.Uses c → escape c = [c]) ∧
    (¬ d.Uses c → escape c ≠ [] ∧ ∀ e ∈ escape c, ¬ d.Uses e)))

/-- A segment with its literal or the text in the placeholder escaped. -/
def Segment.escaped (escape : Char → List Char) : Segment → Segment
  | .literal text => .literal (text.flatMap escape)
  | .placeholder inner => .placeholder (inner.flatMap escape)

section Escaping

variable {escape : Char → List Char} {pattern : List Char}

/-- Characters that the delimiters use stand for themselves. -/
theorem flatMap_escape_of_uses (huses : ∀ c ∈ pattern, d.Uses c)
    (hapart : ∀ c ∈ pattern, EscapesApart d escape c) : pattern.flatMap escape = pattern := by
  induction pattern with
  | nil => rfl
  | cons c rest ih =>
    have hc := (hapart c List.mem_cons_self).1 (huses c List.mem_cons_self)
    rw [List.flatMap_cons, hc, ih (fun e he => huses e (List.mem_cons_of_mem c he))
      (fun e he => hapart e (List.mem_cons_of_mem c he))]
    rfl

/-- A pattern of the delimiters' characters begins the escaped text exactly when it begins the
text. -/
theorem prefix_flatMap_escape_iff (huses : ∀ c ∈ pattern, d.Uses c)
    (hapart : ∀ c ∈ text, EscapesApart d escape c) :
    pattern <+: text.flatMap escape ↔ pattern <+: text := by
  induction pattern generalizing text with
  | nil => simp
  | cons p pattern ih =>
    cases text with
    | nil => simp
    | cons c rest =>
      have hrest : ∀ e ∈ rest, EscapesApart d escape e := fun e he =>
        hapart e (List.mem_cons_of_mem c he)
      have hpattern : ∀ e ∈ pattern, d.Uses e := fun e he => huses e (List.mem_cons_of_mem p he)
      by_cases hc : d.Uses c
      · rw [List.flatMap_cons, (hapart c List.mem_cons_self).1 hc, List.singleton_append,
          List.cons_prefix_cons, List.cons_prefix_cons, ih hpattern hrest]
      · obtain ⟨hne, hunused⟩ := (hapart c List.mem_cons_self).2 hc
        obtain ⟨e, others, hescape⟩ := List.exists_cons_of_ne_nil hne
        have he : ¬ d.Uses e := hunused e (by rw [hescape]; exact List.mem_cons_self)
        have hp := huses p List.mem_cons_self
        rw [List.flatMap_cons, hescape, List.cons_append, List.cons_prefix_cons,
          List.cons_prefix_cons]
        constructor
        · rintro ⟨rfl, -⟩
          exact absurd hp he
        · rintro ⟨rfl, -⟩
          exact absurd hp hc

/-- A pattern of the delimiters' characters is found in the escaped text where it is found in the
text. -/
theorem cut?_flatMap_escape (hpattern : pattern ≠ []) (huses : ∀ c ∈ pattern, d.Uses c)
    (hapart : ∀ c ∈ text, EscapesApart d escape c) :
    cut? pattern (text.flatMap escape) =
      (cut? pattern text).map fun parts => (parts.1.flatMap escape, parts.2.flatMap escape) := by
  induction text with
  | nil => simp [cut?, hpattern]
  | cons c rest ih =>
    have hrest := ih fun e he => hapart e (List.mem_cons_of_mem c he)
    have hbegins := prefix_flatMap_escape_iff huses hapart
    by_cases hp : pattern <+: c :: rest
    · -- the pattern stands for itself in front of the escaped text
      obtain ⟨tail, htail⟩ := hp
      have hself : pattern.flatMap escape = pattern := by
        refine flatMap_escape_of_uses huses fun e he => hapart e ?_
        rw [← htail]
        exact List.mem_append_left _ he
      rw [← htail, List.flatMap_append, hself]
      have hfound : ∀ after, cut? pattern (pattern ++ after) = some ([], after) := by
        intro after
        obtain ⟨p, others, rfl⟩ := List.exists_cons_of_ne_nil hpattern
        exact cut?_append after List.not_mem_nil
      rw [hfound, hfound]
      rfl
    · have hescaped : ¬ pattern <+: (c :: rest).flatMap escape := fun h => hp (hbegins.mp h)
      rw [cut?, if_neg (fun h => hp (List.isPrefixOf_iff_prefix.mp h))]
      rw [List.flatMap_cons] at hescaped ⊢
      by_cases hc : d.Uses c
      · rw [(hapart c List.mem_cons_self).1 hc, List.singleton_append] at hescaped ⊢
        rw [cut?, if_neg (fun h => hescaped (List.isPrefixOf_iff_prefix.mp h)), hrest]
        cases cut? pattern rest with
        | none => rfl
        | some parts => simp [(hapart c List.mem_cons_self).1 hc]
      · obtain ⟨-, hunused⟩ := (hapart c List.mem_cons_self).2 hc
        obtain ⟨p, others, rfl⟩ := List.exists_cons_of_ne_nil hpattern
        rw [cut?_append_of_not_mem _ fun hmem => hunused p hmem (huses p List.mem_cons_self), hrest]
        cases cut? (p :: others) rest with
        | none => rfl
        | some parts => simp

/-- A line is read as before when it is escaped. -/
theorem segments_flatMap_escape (hapart : ∀ c ∈ line, EscapesApart d escape c) :
    segments d (line.flatMap escape) = (segments d line).map (Segment.escaped escape) := by
  have hopening : ∀ c ∈ d.opening, d.Uses c := fun c hc => .inl hc
  have hclosing : ∀ c ∈ d.closing, d.Uses c := fun c hc => .inr hc
  induction line using segments.induct d with
  | case1 line hopen =>
    have hopen' := cut?_flatMap_escape d.opening_ne_nil hopening hapart
    rw [hopen] at hopen'
    rw [segments_of_unopened hopen', segments_of_unopened hopen]
    rfl
  | case2 line before after hopen hclose =>
    have hline := append_of_cut? hopen
    have hafter : ∀ c ∈ after, EscapesApart d escape c := fun c hc =>
      hapart c (by rw [← hline]; exact List.mem_append_right _ hc)
    have hopen' := cut?_flatMap_escape d.opening_ne_nil hopening hapart
    have hclose' := cut?_flatMap_escape d.closing_ne_nil hclosing hafter
    rw [hopen] at hopen'
    rw [hclose] at hclose'
    rw [segments_of_unclosed hopen' hclose', segments_of_unclosed hopen hclose]
    rfl
  | case3 line before after hopen rest hclose ih =>
    have hline := append_of_cut? hopen
    have hafter : ∀ c ∈ after, EscapesApart d escape c := fun c hc =>
      hapart c (by rw [← hline]; exact List.mem_append_right _ hc)
    have hself : d.opening.flatMap escape = d.opening :=
      flatMap_escape_of_uses hopening fun c hc =>
        hapart c (by rw [← hline]; simp [hc])
    have hopen' := cut?_flatMap_escape d.opening_ne_nil hopening hapart
    have hclose' := cut?_flatMap_escape d.closing_ne_nil hclosing hafter
    rw [hopen] at hopen'
    rw [hclose] at hclose'
    rw [segments_of_empty hopen' hclose', segments_of_empty hopen hclose, ih hafter]
    simp [Segment.escaped, hself]
  | case4 line before after hopen c inner rest hclose ih =>
    have hline := append_of_cut? hopen
    have hinner := append_of_cut? hclose
    have hafter : ∀ e ∈ after, EscapesApart d escape e := fun e he =>
      hapart e (by rw [← hline]; exact List.mem_append_right _ he)
    have hrest : ∀ e ∈ rest, EscapesApart d escape e := fun e he =>
      hafter e (by rw [← hinner]; exact List.mem_append_right _ he)
    have hopen' := cut?_flatMap_escape d.opening_ne_nil hopening hapart
    have hclose' := cut?_flatMap_escape d.closing_ne_nil hclosing hafter
    rw [hopen] at hopen'
    rw [hclose] at hclose'
    -- what is escaped in the placeholder is not empty either
    have hne : (c :: inner).flatMap escape ≠ [] := by
      have hc := hafter c (by rw [← hinner]; simp)
      by_cases huses : d.Uses c
      · simp [hc.1 huses]
      · simp [(hc.2 huses).1]
    obtain ⟨first, others, hescaped⟩ := List.exists_cons_of_ne_nil hne
    simp only [Option.map_some, hescaped] at hclose'
    rw [segments_of_placeholder hopen' hclose', segments_of_placeholder hopen hclose, ih hrest]
    simp [Segment.escaped, ← hescaped]

/-- An escaped line is closed when the line is. -/
theorem AllClosed.flatMap_escape (h : AllClosed d line)
    (hapart : ∀ c ∈ line, EscapesApart d escape c) : AllClosed d (line.flatMap escape) := by
  intro last hlast
  rw [segments_flatMap_escape hapart, List.getLast?_map, Option.map_eq_some_iff] at hlast
  obtain ⟨seg, hseg, hescaped⟩ := hlast
  cases seg with
  | placeholder inner => cases hescaped
  | literal text =>
    cases hescaped
    have hmem : ∀ c ∈ text, EscapesApart d escape c := by
      intro c hc
      refine hapart c ?_
      rw [← written_segments d line, written, List.mem_flatMap]
      exact ⟨.literal text, List.mem_of_getLast? hseg, hc⟩
    rw [cut?_flatMap_escape d.opening_ne_nil (fun c hc => .inl hc) hmem, h text hseg]
    rfl

end Escaping

end LayeredConfig.Template
