import LayeredConfig.Text.Blank
import LayeredConfig.Text.Cut

/-!
# Laws of cutting and of lines

A pattern is found where it was put as long as its first character does not
occur earlier. Cutting at a separator turns texts joined by it into the parts
of both, so a text may be read line by line. No cut and no trimming makes up
a character.
-/

namespace LayeredConfig.Text

/-- A pattern is not found where its first character does not occur. -/
theorem cut?_eq_none_of_not_mem {p : Char} {pattern text : List Char} (h : p ∉ text) :
    cut? (p :: pattern) text = none := by
  induction text with
  | nil => simp [cut?]
  | cons c rest ih =>
    obtain ⟨hc, hrest⟩ := List.ne_and_not_mem_of_not_mem_cons h
    have hp : (p :: pattern).isPrefixOf (c :: rest) = false := by
      simp [List.isPrefixOf, hc]
    rw [cut?, hp, ih hrest]
    rfl

/-- A pattern is found first where it was put, if its first character does not
occur in front. -/
theorem cut?_append {p : Char} {pattern before : List Char} (after : List Char)
    (h : p ∉ before) :
    cut? (p :: pattern) (before ++ (p :: pattern) ++ after) = some (before, after) := by
  induction before with
  | nil =>
    have hp : (p :: pattern).isPrefixOf (p :: (pattern ++ after)) = true :=
      List.isPrefixOf_iff_prefix.mpr ⟨after, rfl⟩
    rw [List.nil_append, List.cons_append, cut?, if_pos hp]
    simp
  | cons c rest ih =>
    obtain ⟨hc, hrest⟩ := List.ne_and_not_mem_of_not_mem_cons h
    have hp : (p :: pattern).isPrefixOf (c :: (rest ++ (p :: pattern) ++ after)) = false := by
      simp [List.isPrefixOf, hc]
    rw [List.cons_append, List.cons_append, cut?, hp, ih hrest]
    rfl

/-- A text that begins with a pattern is cut at once. -/
theorem cut?_self_append {pattern : List Char} (hpattern : pattern ≠ []) (after : List Char) :
    cut? pattern (pattern ++ after) = some ([], after) := by
  obtain ⟨p, rest, rfl⟩ := List.exists_cons_of_ne_nil hpattern
  exact cut?_append after List.not_mem_nil

/-- A pattern is found exactly when it stands somewhere in the text. -/
theorem cut?_eq_none_iff {pattern text : List Char} :
    cut? pattern text = none ↔ ¬ pattern <:+: text := by
  induction text with
  | nil =>
    rw [cut?, List.infix_nil]
    split <;> simp_all
  | cons c rest ih =>
    rw [cut?, List.infix_cons_iff, ← List.isPrefixOf_iff_prefix]
    split
    · rename_i hp
      simp [hp]
    · rename_i hp
      rw [not_or, ← ih]
      cases cut? pattern rest with
      | none => simp [hp]
      | some parts => simp

/-- What is found in a text is found where the text goes on. -/
theorem cut?_append_of_eq_some {pattern text before after : List Char}
    (h : cut? pattern text = some (before, after)) (rest : List Char) :
    cut? pattern (text ++ rest) = some (before, after ++ rest) := by
  induction text generalizing before with
  | nil =>
    rw [cut?] at h
    split at h
    · rename_i hp
      cases h
      subst hp
      cases rest with
      | nil => rfl
      | cons c rest => simp [cut?]
    · cases h
  | cons c text ih =>
    rw [cut?] at h
    split at h
    · rename_i hp
      cases h
      obtain ⟨tail, htail⟩ := List.isPrefixOf_iff_prefix.mp hp
      have hlong : pattern.isPrefixOf (c :: (text ++ rest)) = true :=
        List.isPrefixOf_iff_prefix.mpr ⟨tail ++ rest, by rw [← List.append_assoc, htail]; rfl⟩
      rw [List.cons_append, cut?, if_pos hlong, ← List.cons_append, ← htail]
      simp
    · rename_i hp
      split at h
      · rename_i front back hcut
        cases h
        -- the pattern fits into what follows, so it does not begin here either
        have hshort : ¬ pattern.isPrefixOf (c :: (text ++ rest)) = true := by
          intro hlong
          refine hp (List.isPrefixOf_iff_prefix.mpr ?_)
          have hfits : pattern.length ≤ (c :: text).length := by
            have hlen := congrArg List.length (append_of_cut? hcut)
            simp only [List.length_append, List.length_cons] at hlen ⊢
            omega
          exact List.prefix_of_prefix_length_le (List.isPrefixOf_iff_prefix.mp hlong)
            (List.prefix_append (c :: text) rest) hfits
        rw [List.cons_append, cut?, if_neg hshort, ih hcut]
      · cases h

/-- A text that does not hold the first character of a pattern is passed over. -/
theorem cut?_append_of_not_mem {p : Char} {pattern front : List Char} (text : List Char)
    (h : p ∉ front) :
    cut? (p :: pattern) (front ++ text) =
      (cut? (p :: pattern) text).map fun parts => (front ++ parts.1, parts.2) := by
  induction front with
  | nil => simp
  | cons c rest ih =>
    obtain ⟨hc, hrest⟩ := List.ne_and_not_mem_of_not_mem_cons h
    have hp : (p :: pattern).isPrefixOf (c :: (rest ++ text)) = false := by
      simp [List.isPrefixOf, hc]
    rw [List.cons_append, cut?, hp, ih hrest]
    cases cut? (p :: pattern) text with
    | none => rfl
    | some parts => rfl

/-- Behind a text without a pattern, and a separator with none of its characters, the pattern is
searched in what follows. -/
theorem cut?_append_separator {pattern front separator : List Char} (text : List Char)
    (hpattern : pattern ≠ []) (hseparator : separator ≠ [])
    (hapart : ∀ c ∈ separator, c ∉ pattern) (h : cut? pattern front = none) :
    cut? pattern (front ++ separator ++ text) =
      (cut? pattern text).map fun parts => (front ++ separator ++ parts.1, parts.2) := by
  induction front with
  | nil =>
    obtain ⟨p, others, rfl⟩ := List.exists_cons_of_ne_nil hpattern
    exact cut?_append_of_not_mem text fun hp => hapart p hp List.mem_cons_self
  | cons c rest ih =>
    rw [cut?_eq_none_iff, List.infix_cons_iff, not_or, ← cut?_eq_none_iff] at h
    obtain ⟨hnot, hrest⟩ := h
    have hshort : ¬ pattern.isPrefixOf (c :: (rest ++ separator ++ text)) = true := by
      intro hlong
      obtain ⟨tail, htail⟩ := List.isPrefixOf_iff_prefix.mp hlong
      have hsplit : pattern ++ tail = (c :: rest) ++ (separator ++ text) := by
        rw [htail]
        simp
      rcases List.append_eq_append_iff.mp hsplit with ⟨more, hmore, -⟩ | ⟨more, hmore, htext⟩
      · exact hnot ⟨more, hmore.symm⟩
      · cases more with
        | nil => exact hnot ⟨[], by simpa using hmore⟩
        | cons x more =>
          -- the pattern would reach into the separator
          obtain ⟨s, separator, rfl⟩ := List.exists_cons_of_ne_nil hseparator
          obtain rfl : s = x := by simpa using (List.cons.inj htext).1
          exact hapart s List.mem_cons_self (by rw [hmore]; simp)
    rw [List.cons_append, List.cons_append, cut?, if_neg hshort, ih hrest]
    cases cut? pattern text with
    | none => rfl
    | some parts => rfl

/-- A text without the pattern that ends in none of its characters is passed over. -/
theorem cut?_append_of_passed {pattern front : List Char} (text : List Char)
    (hpattern : pattern ≠ []) (h : cut? pattern front = none)
    (hends : ∀ c, front.getLast? = some c → c ∉ pattern) :
    cut? pattern (front ++ text) =
      (cut? pattern text).map fun parts => (front ++ parts.1, parts.2) := by
  rcases List.eq_nil_or_concat front with rfl | ⟨init, last, rfl⟩
  · simp
  · rw [List.concat_eq_append] at h hends ⊢
    have hinit : cut? pattern init = none := by
      rw [cut?_eq_none_iff] at h ⊢
      exact fun hinfix => h (List.infix_append_of_infix_left hinfix)
    have hlast : ∀ c ∈ [last], c ∉ pattern := by
      intro c hc
      exact hends c (by rw [List.mem_singleton.mp hc]; simp)
    exact cut?_append_separator text hpattern (List.cons_ne_nil last []) hlast hinit

/-- Cutting at a separator yields the parts of both sides of any one of its occurrences. -/
theorem splitAtChar_append (separator : Char) (left right : List Char) :
    splitAtChar separator (left ++ separator :: right) =
      splitAtChar separator left ++ splitAtChar separator right := by
  induction left with
  | nil => simp [splitAtChar]
  | cons c rest ih =>
    by_cases hc : c = separator
    · simp [splitAtChar, hc, ih]
    · rw [List.cons_append, splitAtChar, if_neg hc, ih, splitAtChar, if_neg hc]
      cases hs : splitAtChar separator rest with
      | nil => exact absurd hs (splitAtChar_ne_nil _ _)
      | cons part parts => rfl

/-- What stands in front without a separator belongs to the first part. -/
theorem splitAtChar_append_of_not_mem {separator : Char} {front text first : List Char}
    {others : List (List Char)} (h : separator ∉ front)
    (ht : splitAtChar separator text = first :: others) :
    splitAtChar separator (front ++ text) = (front ++ first) :: others := by
  induction front with
  | nil => exact ht
  | cons c rest ih =>
    obtain ⟨hc, hrest⟩ := List.ne_and_not_mem_of_not_mem_cons h
    rw [List.cons_append, splitAtChar, if_neg (Ne.symm hc), ih hrest]
    rfl

/-- A text without a separator is its only part. -/
theorem splitAtChar_of_not_mem {separator : Char} {text : List Char} (h : separator ∉ text) :
    splitAtChar separator text = [text] := by
  have hnil : splitAtChar separator [] = [[]] := rfl
  have hs := splitAtChar_append_of_not_mem h hnil
  rwa [List.append_nil] at hs

/-- There is one part more than there are separators. -/
theorem length_splitAtChar (separator : Char) (text : List Char) :
    (splitAtChar separator text).length = text.count separator + 1 := by
  induction text with
  | nil => rfl
  | cons c rest ih =>
    by_cases hc : c = separator
    · simp [splitAtChar, hc, ih]
    · rw [splitAtChar, if_neg hc, List.count_cons_of_ne hc]
      cases hs : splitAtChar separator rest with
      | nil => exact absurd hs (splitAtChar_ne_nil _ _)
      | cons part parts =>
        rw [hs] at ih
        exact ih

/-- A character of a part is a character of the text, and not the separator. -/
theorem mem_of_mem_splitAtChar {separator c : Char} {text part : List Char}
    (hp : part ∈ splitAtChar separator text) (hc : c ∈ part) : c ∈ text ∧ c ≠ separator := by
  induction text generalizing part with
  | nil =>
    rw [splitAtChar, List.mem_singleton] at hp
    rw [hp] at hc
    cases hc
  | cons d rest ih =>
    rw [splitAtChar] at hp
    split at hp
    · rcases List.mem_cons.mp hp with rfl | hp
      · cases hc
      · exact ⟨List.mem_cons_of_mem _ (ih hp hc).1, (ih hp hc).2⟩
    · rename_i hd
      cases hs : splitAtChar separator rest with
      | nil => exact absurd hs (splitAtChar_ne_nil _ _)
      | cons first others =>
        rw [hs] at hp ih
        rcases List.mem_cons.mp hp with rfl | hp
        · rcases List.mem_cons.mp hc with rfl | hc
          · exact ⟨List.mem_cons_self, hd⟩
          · have hr := ih List.mem_cons_self hc
            exact ⟨List.mem_cons_of_mem _ hr.1, hr.2⟩
        · have hr := ih (List.mem_cons_of_mem _ hp) hc
          exact ⟨List.mem_cons_of_mem _ hr.1, hr.2⟩

/-- A part is no longer than the text. -/
theorem length_le_of_mem_splitAtChar {separator : Char} {text part : List Char}
    (hp : part ∈ splitAtChar separator text) : part.length ≤ text.length := by
  induction text generalizing part with
  | nil =>
    rw [splitAtChar, List.mem_singleton] at hp
    simp [hp]
  | cons d rest ih =>
    rw [splitAtChar] at hp
    split at hp
    · rcases List.mem_cons.mp hp with rfl | hp
      · simp
      · exact Nat.le_succ_of_le (ih hp)
    · cases hs : splitAtChar separator rest with
      | nil => exact absurd hs (splitAtChar_ne_nil _ _)
      | cons first others =>
        rw [hs] at hp ih
        rcases List.mem_cons.mp hp with rfl | hp
        · exact Nat.succ_le_succ (ih List.mem_cons_self)
        · exact Nat.le_succ_of_le (ih (List.mem_cons_of_mem _ hp))

/-- Joining with a character is putting that character between the parts. -/
theorem joinWithChar_eq_intercalate (separator : Char) (parts : List (List Char)) :
    joinWithChar separator parts = [separator].intercalate parts := by
  induction parts with
  | nil => rfl
  | cons part parts ih =>
    cases parts with
    | nil => simp [joinWithChar]
    | cons next others => simp [joinWithChar, List.intercalate_cons_cons, ih]

/-- A part stands in the parts with something between them. -/
theorem infix_intercalate {separator part : List Char} {parts : List (List Char)}
    (h : part ∈ parts) : part <:+: separator.intercalate parts := by
  induction parts with
  | nil => cases h
  | cons first rest ih =>
    cases rest with
    | nil =>
      obtain rfl := List.mem_singleton.mp h
      simp
    | cons next others =>
      rw [List.intercalate_cons_cons]
      rcases List.mem_cons.mp h with rfl | h
      · exact List.infix_append_of_infix_left (List.infix_append' [] part separator)
      · exact (ih h).trans (List.suffix_append _ _).isInfix

/-- Replacing the characters of joined parts is joining the parts with replaced characters. -/
theorem flatMap_joinWithChar (separator : Char) (replace : Char → List Char)
    (parts : List (List Char)) :
    (joinWithChar separator parts).flatMap replace =
      (replace separator).intercalate (parts.map fun part => part.flatMap replace) := by
  rw [joinWithChar_eq_intercalate]
  induction parts with
  | nil => rfl
  | cons part parts ih =>
    cases parts with
    | nil => simp
    | cons next others =>
      rw [List.intercalate_cons_cons, List.flatMap_append, List.flatMap_append, ih]
      simp [List.intercalate_cons_cons]

/-- Before the last part stand a part and the separator. -/
theorem joinWithChar_cons_cons (separator : Char) (part next : List Char)
    (others : List (List Char)) :
    joinWithChar separator (part :: next :: others) =
      part ++ separator :: joinWithChar separator (next :: others) := rfl

/-- Two lists of parts are joined by joining each, with the separator between them. -/
theorem joinWithChar_append {separator : Char} {first second : List (List Char)}
    (hfirst : first ≠ []) (hsecond : second ≠ []) :
    joinWithChar separator (first ++ second) =
      joinWithChar separator first ++ separator :: joinWithChar separator second := by
  induction first with
  | nil => exact absurd rfl hfirst
  | cons part parts ih =>
    cases parts with
    | nil =>
      obtain ⟨next, others, rfl⟩ := List.exists_cons_of_ne_nil hsecond
      rfl
    | cons next others =>
      have hrest := ih (List.cons_ne_nil next others)
      rw [List.cons_append] at hrest
      rw [List.cons_append, List.cons_append, joinWithChar_cons_cons, hrest,
        joinWithChar_cons_cons, List.append_assoc, List.cons_append]

/-- Cutting joined parts gives the pieces that each of them is cut into, one part after the
other. -/
theorem splitAtChar_joinWithChar_eq_flatMap {separator : Char} {parts : List (List Char)}
    (hne : parts ≠ []) :
    splitAtChar separator (joinWithChar separator parts) =
      parts.flatMap (splitAtChar separator) := by
  induction parts with
  | nil => exact absurd rfl hne
  | cons part parts ih =>
    cases parts with
    | nil => simp [joinWithChar]
    | cons next others =>
      have hrest := ih (List.cons_ne_nil next others)
      rw [joinWithChar_cons_cons, splitAtChar_append, hrest, ← List.flatMap_cons]

/-- Cutting gives back the parts that were joined, if none of them holds the separator. -/
theorem splitAtChar_joinWithChar {separator : Char} {parts : List (List Char)}
    (hne : parts ≠ []) (h : ∀ part ∈ parts, separator ∉ part) :
    splitAtChar separator (joinWithChar separator parts) = parts := by
  have hwhole : ∀ part ∈ parts, splitAtChar separator part = [part] := fun part hpart =>
    splitAtChar_of_not_mem (h part hpart)
  rw [splitAtChar_joinWithChar_eq_flatMap hne, List.flatMap_def, List.map_congr_left hwhole,
    ← List.flatMap_def]
  exact List.flatMap_singleton' parts

/-- The lines of two texts joined by a line feed are those of the first and those of the second. -/
theorem lines_append (first second : List Char) :
    lines (first ++ '\n' :: second) = lines first ++ lines second :=
  splitAtChar_append '\n' first second

/-- A text without line feeds is its only line. -/
theorem lines_of_not_mem {line : List Char} (h : '\n' ∉ line) : lines line = [line] :=
  splitAtChar_of_not_mem h

/-- No line holds a line feed. -/
theorem newline_not_mem_of_mem_lines {line text : List Char} (h : line ∈ lines text) :
    '\n' ∉ line :=
  fun hc => (mem_of_mem_splitAtChar h hc).2 rfl

/-- Trimming only leaves out. -/
theorem mem_of_mem_trim {c : Char} {text : List Char} (h : c ∈ trim text) : c ∈ text := by
  have hs : ∀ {cs : List Char}, c ∈ cs.dropWhile isBlank → c ∈ cs :=
    fun hm => (List.dropWhile_suffix isBlank).subset hm
  rw [trim, trimEnd, List.mem_reverse] at h
  exact hs (List.mem_reverse.mp (hs h))

/-- A text that does not begin with a blank begins with the same character when it is trimmed. -/
theorem exists_trim_cons {c : Char} (h : isBlank c = false) (rest : List Char) :
    ∃ others, trim (c :: rest) = c :: others := by
  have hstart : trimStart (c :: rest) = c :: rest := by
    rw [trimStart, List.dropWhile_cons_of_neg (by simp [h])]
  rw [trim, hstart, trimEnd, List.reverse_cons, List.dropWhile_append]
  split
  · exact ⟨[], by simp [h]⟩
  · exact ⟨(rest.reverse.dropWhile isBlank).reverse, by simp⟩

end LayeredConfig.Text
