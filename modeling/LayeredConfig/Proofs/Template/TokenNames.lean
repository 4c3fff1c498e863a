import LayeredConfig.Proofs.Template.SafeNames

/-!
# File names of separate tokens

A name is written by literals and tokens. Where no literal, no name of a variable
and no value can be mistaken for a part of a token, the tokens are replaced one
after the other from the left, however the opening and the closing are alike. The
first token that cannot be replaced decides the failure, unless more tokens stand
in front of it than there are passes.
-/

namespace LayeredConfig.Template.FileName

open Text

/-- A piece takes no part in any token, whatever follows it: it holds neither delimiter, and its
last character occurs in neither. -/
structure IsSeparate (d : Delimiters) (piece : List Char) : Prop where
  /-- It does not hold the opening. -/
  opening : ¬ d.opening <:+: piece
  /-- It does not hold the closing. -/
  closing : ¬ d.closing <:+: piece
  /-- It is empty or ends in a character of neither. -/
  last : ∀ c, piece.getLast? = some c → c ∉ d.opening ∧ c ∉ d.closing

/-- A token of a file name with the literal behind it. -/
structure Token where
  /-- The name of the variable. -/
  name : String
  /-- The literal up to the next token. -/
  behind : List Char

namespace Token

/-- How a token is written, with the literal behind it. -/
def written (d : Delimiters) (t : Token) : List Char :=
  d.opening ++ t.name.toList ++ d.closing ++ t.behind

/-- The value of a token, with the literal behind it. -/
def replaced (vars : Variables) (t : Token) : List Char :=
  ((vars.lookup? t.name).getD "").toList ++ t.behind

/-- Why a token cannot be replaced: its variable has no value, or one with a character that is not
safe in a file name. -/
def fault? (vars : Variables) (t : Token) : Option FileNameFault :=
  match vars.lookup? t.name with
  | none => some (.undefined t.name)
  | some value =>
    if value.toList.all isFileNameChar then none else some (.forbidden value t.name)

/-- Neither the name of a token nor its value nor the literal behind it takes part in another
token. -/
structure IsSeparate (d : Delimiters) (vars : Variables) (t : Token) : Prop where
  /-- The name takes no part. -/
  name : FileName.IsSeparate d t.name.toList
  /-- The value, if there is one, takes no part. -/
  value : ∀ value, vars.lookup? t.name = some value → FileName.IsSeparate d value.toList
  /-- The literal takes no part. -/
  behind : FileName.IsSeparate d t.behind

end Token

/-- That a piece is separate can be computed. -/
theorem isSeparate_iff {d : Delimiters} {piece : List Char} :
    IsSeparate d piece ↔ cut? d.opening piece = none ∧ cut? d.closing piece = none ∧
      piece.getLast?.all (fun c => !d.opening.contains c && !d.closing.contains c) = true := by
  have hlast : piece.getLast?.all (fun c => !d.opening.contains c && !d.closing.contains c) =
      true ↔ ∀ c, piece.getLast? = some c → c ∉ d.opening ∧ c ∉ d.closing := by
    cases piece.getLast? with
    | none => simp
    | some c => simp
  rw [cut?_eq_none_iff, cut?_eq_none_iff, hlast]
  exact ⟨fun h => ⟨h.opening, h.closing, h.last⟩, fun h => ⟨h.1, h.2.1, h.2.2⟩⟩

instance (d : Delimiters) (piece : List Char) : Decidable (IsSeparate d piece) :=
  decidable_of_iff' _ isSeparate_iff

instance (d : Delimiters) (vars : Variables) (t : Token) : Decidable (t.IsSeparate d vars) :=
  decidable_of_iff (IsSeparate d t.name.toList ∧
      (∀ value ∈ vars.lookup? t.name, IsSeparate d value.toList) ∧ IsSeparate d t.behind)
    ⟨fun h => ⟨h.1, h.2.1, h.2.2⟩, fun h => ⟨h.name, h.value, h.behind⟩⟩

variable {d : Delimiters} {vars : Variables} {piece front : List Char} {file : String}

/-- The opening is searched behind a separate piece. -/
theorem IsSeparate.cut?_opening (h : IsSeparate d piece) (text : List Char) :
    cut? d.opening (piece ++ text) =
      (cut? d.opening text).map fun parts => (piece ++ parts.1, parts.2) :=
  cut?_append_of_passed text d.opening_ne_nil (cut?_eq_none_iff.mpr h.opening)
    fun c hc => (h.last c hc).1

/-- The closing is searched behind a separate piece. -/
theorem IsSeparate.cut?_closing (h : IsSeparate d piece) (text : List Char) :
    cut? d.closing (piece ++ text) =
      (cut? d.closing text).map fun parts => (piece ++ parts.1, parts.2) :=
  cut?_append_of_passed text d.closing_ne_nil (cut?_eq_none_iff.mpr h.closing)
    fun c hc => (h.last c hc).2

/-- Two separate pieces one behind the other are a separate piece. -/
theorem IsSeparate.append {more : List Char} (h : IsSeparate d piece) (hmore : IsSeparate d more) :
    IsSeparate d (piece ++ more) where
  opening := by
    rw [← cut?_eq_none_iff, h.cut?_opening, cut?_eq_none_iff.mpr hmore.opening]
    rfl
  closing := by
    rw [← cut?_eq_none_iff, h.cut?_closing, cut?_eq_none_iff.mpr hmore.closing]
    rfl
  last := by
    intro c hc
    rw [List.getLast?_append, Option.or_eq_some_iff] at hc
    rcases hc with hc | ⟨-, hc⟩
    · exact hmore.last c hc
    · exact h.last c hc

/-- Behind a separate piece a token is replaced by its value, or it is the fault of the name. -/
theorem step_token (hfront : IsSeparate d front) {t : Token} (ht : t.IsSeparate d vars)
    (text : List Char) :
    step d vars (front ++ (t.written d ++ text)) =
      match t.fault? vars with
      | some fault => .fault fault
      | none => .next (front ++ t.replaced vars ++ text) := by
  have hopening : cut? d.opening (front ++ (t.written d ++ text)) =
      some (front, t.name.toList ++ (d.closing ++ (t.behind ++ text))) := by
    rw [hfront.cut?_opening, Token.written]
    simp only [List.append_assoc, cut?_self_append d.opening_ne_nil, Option.map_some,
      List.append_nil]
  have hclosing : cut? d.closing (t.name.toList ++ (d.closing ++ (t.behind ++ text))) =
      some (t.name.toList, t.behind ++ text) := by
    rw [ht.name.cut?_closing, cut?_self_append d.closing_ne_nil]
    simp
  rw [step, hopening]
  dsimp only
  rw [hclosing, Token.fault?, Token.replaced]
  dsimp only
  rw [String.ofList_toList]
  cases vars.lookup? t.name with
  | none => rfl
  | some value =>
    dsimp only
    by_cases hsafe : value.toList.all isFileNameChar = true
    · rw [if_pos hsafe, if_pos hsafe]
      simp
    · rw [if_neg hsafe, if_neg hsafe]

/-- A token without a fault leaves a separate piece. -/
theorem Token.IsSeparate.replaced {t : Token} (ht : t.IsSeparate d vars)
    (hfault : t.fault? vars = none) : FileName.IsSeparate d (t.replaced vars) := by
  rw [Token.replaced]
  rw [Token.fault?] at hfault
  cases hvalue : vars.lookup? t.name with
  | none =>
    rw [hvalue] at hfault
    cases hfault
  | some value => exact (ht.value value hvalue).append ht.behind

/-- Replacing the tokens of a name, as many as given: the first fault among them fails, a token too
many does not converge, and else every token gives way to its value. -/
theorem expandWithin_tokens (file : String) (n : Nat) {tokens : List Token}
    (hfront : IsSeparate d front) (htokens : ∀ t ∈ tokens, t.IsSeparate d vars) :
    expandWithin d vars file n (front ++ tokens.flatMap (Token.written d)) =
      match (tokens.take n).findSome? (Token.fault? vars) with
      | some fault => .error (.invalidFileName file fault)
      | none =>
        if tokens.length ≤ n then .ok (front ++ tokens.flatMap (Token.replaced vars))
        else .error (.didNotConverge maxPasses) := by
  induction tokens generalizing n front with
  | nil =>
    have hunopened : cut? d.opening front = none := cut?_eq_none_iff.mpr hfront.opening
    cases n with
    | zero => simp [expandWithin, occurs, hunopened]
    | succ n => simp [expandWithin, step_of_unopened hunopened]
  | cons t rest ih =>
    have ht : t.IsSeparate d vars := htokens t List.mem_cons_self
    rw [List.flatMap_cons]
    cases n with
    | zero =>
      have hopening : (cut? d.opening
          (front ++ (t.written d ++ rest.flatMap (Token.written d)))).isSome := by
        rw [hfront.cut?_opening, Token.written]
        simp [cut?_self_append d.opening_ne_nil]
      simp [expandWithin, occurs, hopening]
    | succ n =>
      rw [expandWithin, step_token hfront ht, List.take_succ_cons, List.findSome?_cons]
      cases hfault : t.fault? vars with
      | some fault => rfl
      | none =>
        dsimp only
        rw [ih n (hfront.append (ht.replaced hfault))
          fun other hmem => htokens other (List.mem_cons_of_mem t hmem)]
        simp

/-- A file name of literals and tokens, of which no piece and no value takes part in another token,
fails with the first of the tokens in reach that cannot be replaced. If all of these can be
replaced, more tokens than passes do not converge, and else the name is expanded to the literals
and values. -/
theorem expand_of_tokens {tokens : List Token} (hfront : IsSeparate d front)
    (htokens : ∀ t ∈ tokens, t.IsSeparate d vars)
    (hfile : file.toList = front ++ tokens.flatMap (Token.written d)) :
    ((∃ t ∈ tokens.take maxPasses, t.fault? vars ≠ none) →
      ∃ before t after fault, tokens.take maxPasses = before ++ t :: after ∧
        (∀ other ∈ before, other.fault? vars = none) ∧ t.fault? vars = some fault ∧
        expand d vars file = .error (.invalidFileName file fault)) ∧
    ((∀ t ∈ tokens.take maxPasses, t.fault? vars = none) →
      (maxPasses < tokens.length →
        expand d vars file = .error (.didNotConverge maxPasses)) ∧
      (tokens.length ≤ maxPasses → expand d vars file =
        .ok (String.ofList (front ++ tokens.flatMap (Token.replaced vars))))) := by
  have hexpand := expandWithin_tokens file maxPasses hfront htokens
  rw [← hfile] at hexpand
  constructor
  · rintro ⟨t, hmem, hfault⟩
    have hsome : ((tokens.take maxPasses).findSome? (Token.fault? vars)).isSome :=
      List.findSome?_isSome_iff.mpr ⟨t, hmem, Option.isSome_iff_ne_none.mpr hfault⟩
    obtain ⟨fault, hfirst⟩ := Option.isSome_iff_exists.mp hsome
    obtain ⟨before, first, after, hsplit, hfault, hbefore⟩ := List.findSome?_eq_some_iff.mp hfirst
    refine ⟨before, first, after, fault, hsplit, hbefore, hfault, ?_⟩
    rw [expand, hexpand, hfirst]
  · intro hnone
    have hfirst : (tokens.take maxPasses).findSome? (Token.fault? vars) = none :=
      List.findSome?_eq_none_iff.mpr hnone
    rw [hfirst] at hexpand
    constructor
    · intro hlong
      rw [expand, hexpand]
      simp [Nat.not_le.mpr hlong]
    · intro hfits
      rw [expand, hexpand]
      simp [hfits]

/-- The standard tokens: three underscores open and close one. -/
def underscores : Delimiters := ⟨['_', '_', '_'], ['_', '_', '_'], by decide, by decide⟩

/-- A service whose name holds two underscores, and a zone. -/
def siteVariables : Variables := .ofList [("service", .string "a__b"), ("zone", .string "eu-1")]

/-- A zone so many times that not all of its tokens are replaced. -/
def zones : List Token := List.replicate 31 ⟨"zone", []⟩

/-- Two tokens side by side are replaced each by its value. A token too many does not converge, and
one without a value fails. -/
theorem sites_are_expanded :
    expand underscores siteVariables "___service______zone___.yaml" = .ok "a__beu-1.yaml" ∧
      expand underscores siteVariables
        (String.ofList (zones.flatMap (Token.written underscores))) =
          .error (.didNotConverge maxPasses) ∧
      ∃ fault, expand underscores siteVariables "___zone___-___gone___" =
        .error (.invalidFileName "___zone___-___gone___" fault) := by
  have hfront : IsSeparate underscores [] := by decide
  have hsite : ∀ t ∈ [(⟨"service", []⟩ : Token), ⟨"zone", ".yaml".toList⟩],
      t.IsSeparate underscores siteVariables := by decide +kernel
  have hgone : ∀ t ∈ [(⟨"zone", ['-']⟩ : Token), ⟨"gone", []⟩],
      t.IsSeparate underscores siteVariables := by decide +kernel
  refine ⟨?_, ?_, ?_⟩
  · exact ((expand_of_tokens hfront hsite (by decide +kernel)).2 (by decide +kernel)).2 (by decide)
  · have hzones : ∀ t ∈ zones, t = ⟨"zone", []⟩ := fun t hmem => List.eq_of_mem_replicate hmem
    have hseparate : ∀ t ∈ zones, t.IsSeparate underscores siteVariables := by
      intro t hmem
      rw [hzones t hmem]
      decide +kernel
    refine ((expand_of_tokens hfront hseparate String.toList_ofList).2 ?_).1 (by decide)
    intro t hmem
    rw [hzones t (List.mem_of_mem_take hmem)]
    decide +kernel
  · have hfile : "___zone___-___gone___".toList =
        [] ++ [⟨"zone", ['-']⟩, ⟨"gone", []⟩].flatMap (Token.written underscores) := by
      decide +kernel
    obtain ⟨-, -, -, fault, -, -, -, hfails⟩ :=
      (expand_of_tokens hfront hgone hfile).1 (by decide +kernel)
    exact ⟨fault, hfails⟩

end LayeredConfig.Template.FileName
