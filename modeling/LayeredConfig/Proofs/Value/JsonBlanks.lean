import LayeredConfig.Text.Blank
import LayeredConfig.Value.Json
import Mathlib.Data.Nat.Digits.Defs
import Mathlib.Tactic.SplitIfs

/-!
# JSON texts without blanks

The indented text of a document differs from the compact one only by blanks outside string
literals. A literal is read up to the quote that ends it, past the characters that are escaped, so
that blanks and quotes inside a text are not mistaken for others. Nothing else in a compact text is
blank: the spellings of numbers are digits, signs, points and letters.
-/

namespace LayeredConfig

open Text

/-- The character is neither blank nor a quote. -/
def Text.IsSolid (c : Char) : Prop := isBlank c = false ∧ c ≠ '"'

instance (c : Char) : Decidable (Text.IsSolid c) := inferInstanceAs (Decidable (_ ∧ _))

/-- All characters are solid. -/
def Text.AllSolid (cs : List Char) : Prop := ∀ c ∈ cs, IsSolid c

-- Asked for all characters of a list, the library would try every character there is.
instance (cs : List Char) : Decidable (Text.AllSolid cs) := List.decidableBAll IsSolid cs

/-- A solid character in front of solid ones. -/
theorem Text.AllSolid.cons {c : Char} {rest : List Char} (hrest : AllSolid rest) (h : IsSolid c) :
    AllSolid (c :: rest) :=
  List.forall_mem_cons.mpr ⟨h, hrest⟩

/-- Solid characters in front of others. -/
theorem Text.AllSolid.append {front back : List Char} (hfront : AllSolid front)
    (hback : AllSolid back) : AllSolid (front ++ back) :=
  List.forall_mem_append.mpr ⟨hfront, hback⟩

/-- Digits are solid. -/
theorem Text.isSolid_of_isDigit {c : Char} (h : c.isDigit = true) : IsSolid c := by
  have hrange : 48 ≤ c.toNat ∧ c.toNat ≤ 57 := by
    simpa [Char.isDigit, UInt32.le_iff_toNat_le] using h
  refine ⟨?_, ?_⟩
  · simp only [isBlank, Bool.or_eq_false_iff, Bool.and_eq_false_iff, decide_eq_false_iff_not,
      beq_eq_false_iff_ne]
    omega
  · rintro rfl
    revert hrange
    decide

namespace Json

/-! ## Leaving out blanks -/

/-- Where a character of a JSON text stands. -/
inductive Place where
  /-- Outside string literals. -/
  | outside
  /-- Inside a string literal. -/
  | inside
  /-- Inside a string literal, behind a backslash. -/
  | escaped

/-- Leave out the blanks outside string literals. -/
def withoutBlanks : Place → List Char → List Char
  | _, [] => []
  | .outside, c :: rest =>
    if c = '"' then c :: withoutBlanks .inside rest
    else if isBlank c then withoutBlanks .outside rest
    else c :: withoutBlanks .outside rest
  | .inside, c :: rest =>
    c :: withoutBlanks (if c = '"' then .outside else if c = '\\' then .escaped else .inside) rest
  | .escaped, c :: rest => c :: withoutBlanks .inside rest

/-- A solid character stays. -/
theorem withoutBlanks_cons {c : Char} (h : IsSolid c) (rest : List Char) :
    withoutBlanks .outside (c :: rest) = c :: withoutBlanks .outside rest := by
  rw [withoutBlanks, if_neg h.2, h.1]
  rfl

/-- Solid characters stay. -/
theorem withoutBlanks_append (front : List Char) (h : AllSolid front) (rest : List Char) :
    withoutBlanks .outside (front ++ rest) = front ++ withoutBlanks .outside rest := by
  induction front with
  | nil => rfl
  | cons c front ih =>
    obtain ⟨hc, hfront⟩ := List.forall_mem_cons.mp h
    rw [List.cons_append, withoutBlanks_cons hc, ih hfront, List.cons_append]

/-- A blank is left out. -/
theorem withoutBlanks_blank {c : Char} (h : isBlank c = true) (rest : List Char) :
    withoutBlanks .outside (c :: rest) = withoutBlanks .outside rest := by
  have hquote : c ≠ '"' := by
    rintro rfl
    revert h
    decide
  rw [withoutBlanks, if_neg hquote, if_pos h]

/-- A new line with its indentation is left out. -/
theorem withoutBlanks_newLine (depth : Nat) (rest : List Char) :
    withoutBlanks .outside (newLine depth ++ rest) = withoutBlanks .outside rest := by
  rw [newLine, List.cons_append, withoutBlanks_blank rfl]
  induction 2 * depth with
  | zero => rfl
  | succ n ih => rw [List.replicate_succ, List.cons_append, withoutBlanks_blank rfl, ih]

/-! ## String literals -/

/-- A hexadecimal digit neither ends a literal nor escapes what follows. -/
theorem hexDigit_ne {n : Nat} (h : n < 16) : hexDigit n ≠ '"' ∧ hexDigit n ≠ '\\' := by
  have hall : ∀ n < 16, hexDigit n ≠ '"' ∧ hexDigit n ≠ '\\' := by decide
  exact hall n h

/-- A character of a text stands inside a literal as it is escaped, and does not end it. -/
theorem withoutBlanks_escapeChar (c : Char) (rest : List Char) :
    withoutBlanks .inside (escapeChar c ++ rest) = escapeChar c ++ withoutBlanks .inside rest := by
  rw [escapeChar]
  split_ifs with hquote hslash hplain
  any_goals rfl
  · simp [withoutBlanks, hquote, hslash]
  · -- the code of a control character
    obtain ⟨hhigh, hhigh'⟩ := hexDigit_ne (n := c.toNat / 16) (by omega)
    obtain ⟨hlow, hlow'⟩ := hexDigit_ne (n := c.toNat % 16) (by omega)
    simp [withoutBlanks, hhigh, hhigh', hlow, hlow']

/-- A string literal stays as it is. -/
theorem withoutBlanks_literal (text : String) (rest : List Char) :
    withoutBlanks .outside (literal text ++ rest) =
      literal text ++ withoutBlanks .outside rest := by
  have hinside : ∀ cs : List Char, withoutBlanks .inside (cs.flatMap escapeChar ++ '"' :: rest) =
      cs.flatMap escapeChar ++ '"' :: withoutBlanks .outside rest := by
    intro cs
    induction cs with
    | nil => simp [withoutBlanks]
    | cons c cs ih =>
      rw [List.flatMap_cons, List.append_assoc, withoutBlanks_escapeChar, ih, List.append_assoc]
  simp only [literal, List.cons_append, List.append_assoc, List.nil_append]
  rw [withoutBlanks, if_pos rfl, hinside text.toList]

/-! ## Numbers -/

/-- The digits of a number are solid. -/
theorem allSolid_natText (n : Nat) : AllSolid (Number.natText n) :=
  fun _ hc => isSolid_of_isDigit (Nat.isDigit_of_mem_toDigits (by omega) (by omega) hc)

/-- The text of an integer is solid. -/
theorem allSolid_intText (n : Int) : AllSolid (Number.intText n) := by
  rw [Number.intText]
  split_ifs
  · exact (allSolid_natText _).cons (by decide)
  · exact allSolid_natText _

/-- The text of a decimal is solid. -/
theorem allSolid_decimalText (layout : Number.Layout) (d : Number.Decimal) :
    AllSolid (layout.decimalText d) := by
  have hdigits := allSolid_natText d.digits
  have hzeros : ∀ n, AllSolid (List.replicate n '0') := by
    intro n c hc
    rw [List.eq_of_mem_replicate hc]
    decide
  rw [Number.Layout.decimalText]
  generalize Number.natText d.digits = digits at hdigits
  dsimp only
  by_cases hplace : layout.isPositional (digits.length + d.scale) = true
  · rw [if_pos hplace]
    split_ifs with hwhole hinside
    · exact (hdigits.append (hzeros _)).append (by decide)
    · have hfront : AllSolid (digits.take (digits.length + d.scale).toNat) :=
        fun c hc => hdigits c (List.mem_of_mem_take hc)
      have hback : AllSolid (digits.drop (digits.length + d.scale).toNat) :=
        fun c hc => hdigits c (List.mem_of_mem_drop hc)
      exact hfront.append (hback.cons (by decide))
    · have hfront : AllSolid ['0', '.'] := by decide
      exact (hfront.append (hzeros _)).append hdigits
  · rw [if_neg hplace]
    generalize hexponent : (digits.length + d.scale - 1 : Int) = exponent
    have hmark : AllSolid (if (layout.signedExponent && decide (0 ≤ exponent)) = true then
        ['e', '+'] else ['e']) := by
      split_ifs <;> decide
    cases digits with
    | nil => exact fun _ hc => by cases hc
    | cons digit more =>
      obtain ⟨hdigit, hmore⟩ := List.forall_mem_cons.mp hdigits
      cases more with
      | nil => exact (hmark.cons hdigit).append (allSolid_intText exponent)
      | cons next more =>
        have hfront : AllSolid (digit :: '.' :: next :: more) :=
          (AllSolid.cons hmore (by decide)).cons hdigit
        exact (hfront.append hmark).append (allSolid_intText exponent)

/-- The spelling of a number is solid. -/
theorem allSolid_numberText : ∀ n : Number, AllSolid (numberText n).toList
  | .integer n => by
    rw [numberText, String.toList_ofList]
    exact allSolid_intText n
  | .float .nan => by decide
  | .float (.infinite negative) => by
    cases negative <;> decide
  | .float (.finite negative significand exponent) => by
    have hbody : AllSolid (if significand = 0 then ['0', '.', '0']
        else Number.jsonLayout.decimalText (Number.shortest significand exponent)) := by
      split_ifs
      · decide
      · exact allSolid_decimalText _ _
    rw [numberText, Number.Layout.text, String.toList_ofList]
    cases negative with
    | false => exact hbody
    | true => exact hbody.cons (by decide)

/-! ## Documents -/

mutual

/-- Without blanks, the indented text of a document is its compact one. -/
theorem withoutBlanks_pretty (depth : Nat) (rest : List Char) : (document : Json) →
    withoutBlanks .outside (pretty depth document ++ rest) =
      compact document ++ withoutBlanks .outside rest
  | .null => withoutBlanks_append ['n', 'u', 'l', 'l'] (by decide) rest
  | .bool true => withoutBlanks_append ['t', 'r', 'u', 'e'] (by decide) rest
  | .bool false => withoutBlanks_append ['f', 'a', 'l', 's', 'e'] (by decide) rest
  | .number n => withoutBlanks_append _ (allSolid_numberText n) rest
  | .string text => withoutBlanks_literal text rest
  | .array [] => withoutBlanks_append ['[', ']'] (by decide) rest
  | .array (item :: items) => by
    simp only [pretty, compact, List.cons_append, List.append_assoc,
      withoutBlanks_cons (c := '[') (by decide), withoutBlanks_newLine,
      withoutBlanks_pretty (depth + 1) _ item, withoutBlanks_prettyItems (depth + 1) _ items,
      withoutBlanks_cons (c := ']') (by decide), List.nil_append]
  | .object [] => withoutBlanks_append ['\x7b', '\x7d'] (by decide) rest
  | .object ((name, value) :: members) => by
    simp only [pretty, compact, List.cons_append, List.append_assoc,
      withoutBlanks_cons (c := '\x7b') (by decide), withoutBlanks_newLine, withoutBlanks_literal,
      withoutBlanks_cons (c := ':') (by decide), withoutBlanks_blank (c := ' ') (by decide),
      withoutBlanks_pretty (depth + 1) _ value, withoutBlanks_prettyMembers (depth + 1) _ members,
      withoutBlanks_cons (c := '\x7d') (by decide), List.nil_append]

/-- Without blanks, the indented texts of items are their compact ones. -/
theorem withoutBlanks_prettyItems (depth : Nat) (rest : List Char) : (items : List Json) →
    withoutBlanks .outside (prettyItems depth items ++ rest) =
      compactItems items ++ withoutBlanks .outside rest
  | [] => rfl
  | item :: items => by
    simp only [prettyItems, compactItems, List.cons_append, List.append_assoc,
      withoutBlanks_cons (c := ',') (by decide), withoutBlanks_newLine,
      withoutBlanks_pretty depth _ item, withoutBlanks_prettyItems depth _ items]

/-- Without blanks, the indented texts of members are their compact ones. -/
theorem withoutBlanks_prettyMembers (depth : Nat) (rest : List Char) :
    (members : List (String × Json)) →
    withoutBlanks .outside (prettyMembers depth members ++ rest) =
      compactMembers members ++ withoutBlanks .outside rest
  | [] => rfl
  | (name, value) :: members => by
    simp only [prettyMembers, compactMembers, List.cons_append, List.append_assoc,
      withoutBlanks_cons (c := ',') (by decide), withoutBlanks_newLine, withoutBlanks_literal,
      withoutBlanks_cons (c := ':') (by decide), withoutBlanks_blank (c := ' ') (by decide),
      withoutBlanks_pretty depth _ value, withoutBlanks_prettyMembers depth _ members]

end

end Json

end LayeredConfig
