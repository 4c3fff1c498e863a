/-!
# Cutting a text at a pattern

A text is cut at the first occurrence of a pattern into what stands before it
and what follows it. Lines are what the line feeds cut a text into, and joining
them with line feeds gives the text back.
-/

namespace LayeredConfig.Text

/-- Cut at the first occurrence of the pattern. -/
def cut? (pattern : List Char) : List Char → Option (List Char × List Char)
  | [] => if pattern = [] then some ([], []) else none
  | c :: rest =>
    if pattern.isPrefixOf (c :: rest) then some ([], (c :: rest).drop pattern.length)
    else
      match cut? pattern rest with
      | some (before, after) => some (c :: before, after)
      | none => none

/-- The parts of a cut and the pattern between them are the text. -/
theorem append_of_cut? {pattern : List Char} :
    ∀ {text before after : List Char}, cut? pattern text = some (before, after) →
      before ++ pattern ++ after = text
  | [], before, after, h => by
    rw [cut?] at h
    split at h
    · rename_i hp
      cases h
      simp [hp]
    · cases h
  | c :: rest, before, after, h => by
    rw [cut?] at h
    split at h
    · rename_i hp
      cases h
      obtain ⟨tail, ht⟩ := List.isPrefixOf_iff_prefix.mp hp
      simp [← ht]
    · split at h
      · rename_i hr
        cases h
        simpa using append_of_cut? hr
      · cases h

/-- What follows a nonempty pattern is shorter than the text. -/
theorem length_lt_of_cut? {pattern text before after : List Char} (hp : pattern ≠ [])
    (h : cut? pattern text = some (before, after)) : after.length < text.length := by
  have hl := congrArg List.length (append_of_cut? h)
  have := List.length_pos_iff.mpr hp
  simp only [List.length_append] at hl
  omega

/-- The pattern occurs in the text. -/
def occurs (pattern text : List Char) : Bool := (cut? pattern text).isSome

/-- The parts between the occurrences of a separator character. -/
def splitAtChar (separator : Char) : List Char → List (List Char)
  | [] => [[]]
  | c :: rest =>
    if c = separator then [] :: splitAtChar separator rest
    else
      match splitAtChar separator rest with
      | [] => [[c]]
      | part :: parts => (c :: part) :: parts

/-- There is always a first part. -/
theorem splitAtChar_ne_nil (separator : Char) (text : List Char) :
    splitAtChar separator text ≠ [] := by
  cases text with
  | nil => simp [splitAtChar]
  | cons c rest =>
    rw [splitAtChar]
    split
    · simp
    · split <;> simp

/-- The lines of a text: the parts between its line feeds. -/
def lines (text : List Char) : List (List Char) := splitAtChar '\n' text

/-- Put a separator character between the parts. -/
def joinWithChar (separator : Char) : List (List Char) → List Char
  | [] => []
  | [part] => part
  | part :: parts => part ++ separator :: joinWithChar separator parts

/-- Put line feeds between the lines. -/
def unlines (parts : List (List Char)) : List Char := joinWithChar '\n' parts

/-- Joining what a separator cut apart gives the text back. -/
theorem joinWithChar_splitAtChar (separator : Char) (text : List Char) :
    joinWithChar separator (splitAtChar separator text) = text := by
  induction text with
  | nil => rfl
  | cons c rest ih =>
    rw [splitAtChar]
    split
    · rename_i hc
      subst hc
      have hne := splitAtChar_ne_nil c rest
      cases hs : splitAtChar c rest with
      | nil => exact absurd hs hne
      | cons part parts => rw [hs] at ih; simp [joinWithChar, ih]
    · cases hs : splitAtChar separator rest with
      | nil => exact absurd hs (splitAtChar_ne_nil _ _)
      | cons part parts =>
        rw [hs] at ih
        cases parts with
        | nil => simpa [joinWithChar] using ih
        | cons next others => simpa [joinWithChar] using ih

/-- Joining the lines of a text gives the text back. -/
theorem unlines_lines (text : List Char) : unlines (lines text) = text :=
  joinWithChar_splitAtChar '\n' text

end LayeredConfig.Text
