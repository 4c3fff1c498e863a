import LayeredConfig.Configuration.Request
import LayeredConfig.Proofs.Lookup
import LayeredConfig.Proofs.Outcome
import LayeredConfig.Proofs.Text.Lines

/-!
# Reading extra variables back

A token is a name and a value around one equals sign. Tokens are read when each of them has
exactly one, and the first that has none or several decides the failure. Of tokens with one name
the last one stands, so writing pairs as tokens and reading them gives the map of the pairs, and
what was read is read again from its own entries.
-/

namespace LayeredConfig.Request

open Text

variable {tokens : List String} {token name value : String} {pairs : List (String × String)}
  {vars : Variables}

/-- A name and a value, written as a token. -/
def written (pair : String × String) : String := pair.1 ++ "=" ++ pair.2

/-- What a name and a value bind. -/
def binding (pair : String × String) : String × Value := (pair.1, .string pair.2)

/-- Neither the name nor the value has an equals sign. -/
def IsWritable (pair : String × String) : Prop :=
  '=' ∉ pair.1.toList ∧ '=' ∉ pair.2.toList

instance (pair : String × String) : Decidable (IsWritable pair) :=
  inferInstanceAs (Decidable (_ ∧ _))

/-- The characters of a written token. -/
theorem toList_written (pair : String × String) :
    (written pair).toList = joinWithChar '=' [pair.1.toList, pair.2.toList] := by
  simp [written, joinWithChar]

/-- A pair without equals signs is written with one. -/
theorem isWritable_iff {pair : String × String} :
    IsWritable pair ↔ (written pair).toList.count '=' = 1 := by
  rw [IsWritable, ← List.count_eq_zero, ← List.count_eq_zero, written]
  simp only [String.toList_append, List.count_append]
  have hsign : "=".toList.count '=' = 1 := rfl
  omega

/-! ## One token -/

/-- The pair of a token is the one that the token is written from. -/
theorem pair?_eq_some_iff {pair : String × String} :
    pair? token = some pair ↔ token = written pair ∧ IsWritable pair := by
  constructor
  · intro h
    rw [pair?] at h
    split at h
    · rename_i front back hsplit
      cases h
      have hpart : ∀ part ∈ [front, back], '=' ∉ part := fun part hpart hmem =>
        (mem_of_mem_splitAtChar (hsplit ▸ hpart) hmem).2 rfl
      refine ⟨String.toList_injective ?_, ?_⟩
      · rw [← joinWithChar_splitAtChar '=' token.toList, hsplit, toList_written]
        simp
      · simpa [IsWritable] using hpart
    · cases h
  · rintro ⟨rfl, hname, hvalue⟩
    have hsplit : splitAtChar '=' (written pair).toList = [pair.1.toList, pair.2.toList] := by
      rw [toList_written]
      exact splitAtChar_joinWithChar (List.cons_ne_nil _ _) (by simp [hname, hvalue])
    rw [pair?, hsplit]
    simp

/-- A token is written from one pair only. -/
theorem eq_of_written_eq {pair other : String × String} (h : IsWritable pair)
    (hsame : written pair = written other) : pair = other := by
  have hother : IsWritable other := by
    rw [isWritable_iff, ← hsame, ← isWritable_iff]
    exact h
  have hpair := pair?_eq_some_iff.mpr ⟨rfl, h⟩
  rw [hsame, pair?_eq_some_iff.mpr ⟨rfl, hother⟩] at hpair
  exact (Option.some.inj hpair).symm

/-- A token is a pair when it has exactly one equals sign. -/
theorem isSome_pair?_iff : (pair? token).isSome ↔ token.toList.count '=' = 1 := by
  have hlength := length_splitAtChar '=' token.toList
  rw [pair?]
  split
  · rename_i front back hsplit
    rw [hsplit] at hlength
    simpa using hlength.symm
  · rename_i hother
    simp only [Option.isSome_none, Bool.false_eq_true, false_iff]
    intro hcount
    rw [hcount] at hlength
    match hsplit : splitAtChar '=' token.toList with
    | [front, back] => exact hother front back hsplit
    | [] | [_] | _ :: _ :: _ :: _ => simp [hsplit] at hlength

/-- The pair of a token, or the failure that names the token. -/
def readToken (token : String) : Except ConfigError (String × String) :=
  match pair? token with
  | some pair => .ok pair
  | none => .error (.invalidExtraVariable token)

/-- A token is read when it has exactly one equals sign. -/
theorem exists_readToken_iff : (∃ pair, readToken token = .ok pair) ↔
    token.toList.count '=' = 1 := by
  rw [← isSome_pair?_iff, readToken]
  cases pair? token with
  | none => simp
  | some pair => simp

/-- A token that is not read is named by the failure. -/
theorem readToken_eq_error_iff {e : ConfigError} :
    readToken token = .error e ↔
      token.toList.count '=' ≠ 1 ∧ e = .invalidExtraVariable token := by
  rw [ne_eq, ← isSome_pair?_iff, readToken]
  cases pair? token with
  | none => simp [eq_comm]
  | some pair => simp

/-! ## Tokens one after the other -/

/-- Reading tokens over variables is reading each and binding what was read, in order. -/
theorem readTokens_eq_mapM (tokens : List String) (vars : Variables) :
    readTokens tokens vars =
      (tokens.mapM readToken).map fun pairs => vars.insertAll (pairs.map binding) := by
  induction tokens generalizing vars with
  | nil => rfl
  | cons token rest ih =>
    rw [readTokens, List.mapM_cons, readToken]
    cases pair? token with
    | none => rfl
    | some pair =>
      dsimp only
      rw [ih]
      cases rest.mapM readToken with
      | error e => rfl
      | ok pairs => rfl

/-- The pairs that are read are those that the tokens are written from. -/
theorem mapM_readToken_eq_ok_iff :
    tokens.mapM readToken = .ok pairs ↔
      tokens = pairs.map written ∧ ∀ pair ∈ pairs, IsWritable pair := by
  have hstep : ∀ token pair, readToken token = .ok pair ↔
      token = written pair ∧ IsWritable pair := by
    intro token pair
    rw [← pair?_eq_some_iff, readToken]
    cases pair? token with
    | none => simp
    | some other => simp
  constructor
  · intro h
    induction tokens generalizing pairs with
    | nil =>
      cases h
      exact ⟨rfl, by simp⟩
    | cons token rest ih =>
      rw [List.mapM_cons, except_bind_eq_ok_iff] at h
      obtain ⟨pair, hpair, h⟩ := h
      obtain ⟨others, hothers, h⟩ := except_bind_eq_ok_iff.mp h
      cases h
      obtain ⟨rfl, hwritable⟩ := (hstep token pair).mp hpair
      obtain ⟨rfl, hrest⟩ := ih hothers
      exact ⟨rfl, List.forall_mem_cons.mpr ⟨hwritable, hrest⟩⟩
  · rintro ⟨rfl, hwritable⟩
    induction pairs with
    | nil => rfl
    | cons pair rest ih =>
      obtain ⟨hpair, hrest⟩ := List.forall_mem_cons.mp hwritable
      rw [List.map_cons, List.mapM_cons, (hstep _ pair).mpr ⟨rfl, hpair⟩, ih hrest]
      rfl

/-- Tokens are read when they are written from pairs, and give the map of these. -/
theorem readExtra_eq_ok_iff :
    readExtra tokens = .ok vars ↔
      ∃ pairs : List (String × String), tokens = pairs.map written ∧
        (∀ pair ∈ pairs, IsWritable pair) ∧ vars = .ofList (pairs.map binding) := by
  rw [readExtra, readTokens_eq_mapM, except_map_eq_ok_iff]
  simp only [mapM_readToken_eq_ok_iff, and_assoc, SortedMap.ofList, eq_comm (a := vars)]

/-- Tokens are read exactly when each of them has one equals sign. -/
theorem exists_readExtra_iff :
    (∃ vars, readExtra tokens = .ok vars) ↔ ∀ token ∈ tokens, token.toList.count '=' = 1 := by
  simp only [readExtra, readTokens_eq_mapM, except_map_eq_ok_iff, ← exists_readToken_iff,
    ← exists_mapM_eq_ok_iff, exists_comm, exists_and_left, exists_eq', and_true]

/-- Reading fails with the first token that has no equals sign or several. -/
theorem readExtra_eq_error_iff {e : ConfigError} :
    readExtra tokens = .error e ↔
      ∃ before token after, tokens = before ++ token :: after ∧
        (∀ other ∈ before, other.toList.count '=' = 1) ∧ token.toList.count '=' ≠ 1 ∧
        e = .invalidExtraVariable token := by
  rw [readExtra, readTokens_eq_mapM, except_map_eq_error_iff, mapM_eq_error_iff]
  simp only [exists_readToken_iff, readToken_eq_error_iff]

/-- Writable pairs are read back from their tokens. -/
theorem readExtra_map_written (h : ∀ pair ∈ pairs, IsWritable pair) :
    readExtra (pairs.map written) = .ok (.ofList (pairs.map binding)) :=
  readExtra_eq_ok_iff.mpr ⟨pairs, rfl, h, rfl⟩

/-- A name is bound to the text of its last pair. -/
theorem get?_ofList_binding_iff {value : Value} :
    (SortedMap.ofList (pairs.map binding)).get? name = some value ↔
      ∃ text, value = .string text ∧ ∃ before after, pairs = before ++ (name, text) :: after ∧
        ∀ pair ∈ after, pair.1 ≠ name := by
  rw [SortedMap.get?_ofList_eq_some_iff]
  constructor
  · rintro ⟨before, after, hsplit, hafter⟩
    obtain ⟨front, rest, rfl, rfl, hrest⟩ := List.map_eq_append_iff.mp hsplit
    obtain ⟨pair, back, rfl, hpair, rfl⟩ := List.map_eq_cons_iff.mp hrest
    cases hpair
    exact ⟨pair.2, rfl, front, back, rfl, fun other hother =>
      hafter (binding other) (List.mem_map_of_mem hother)⟩
  · rintro ⟨text, rfl, before, after, rfl, hafter⟩
    exact ⟨before.map binding, after.map binding, by simp [binding],
      List.forall_mem_map.mpr hafter⟩

/-- The last pair with a name is the one of the last token with that name. -/
theorem exists_last_written_iff {text : String} (h : ∀ pair ∈ pairs, IsWritable pair) :
    (∃ before after, pairs.map written = before ++ written (name, text) :: after ∧
        ∀ other, written (name, other) ∉ after) ↔
      ∃ before after, pairs = before ++ (name, text) :: after ∧ ∀ pair ∈ after, pair.1 ≠ name := by
  constructor
  · rintro ⟨before, after, hsplit, hafter⟩
    obtain ⟨front, rest, rfl, rfl, hrest⟩ := List.map_eq_append_iff.mp hsplit
    obtain ⟨pair, back, rfl, hpair, rfl⟩ := List.map_eq_cons_iff.mp hrest
    obtain rfl : pair = (name, text) := eq_of_written_eq (h pair (by simp)) hpair
    refine ⟨front, back, rfl, ?_⟩
    rintro ⟨other, value⟩ hmem rfl
    exact hafter value (List.mem_map_of_mem hmem)
  · rintro ⟨before, after, rfl, hafter⟩
    refine ⟨before.map written, after.map written, by simp, fun other hmem => ?_⟩
    obtain ⟨pair, hpair, hsame⟩ := List.mem_map.mp hmem
    obtain rfl := eq_of_written_eq (h pair (by simp [hpair])) hsame
    exact hafter _ hpair rfl

/-- The entries of a map of pairs are what some of the pairs bind. -/
theorem exists_entries_eq_map_binding (pairs : List (String × String)) :
    ∃ entries : List (String × String),
      (SortedMap.ofList (pairs.map binding)).entries = entries.map binding ∧
        ∀ entry ∈ entries, entry ∈ pairs := by
  have hbound : ∀ entry ∈ (SortedMap.ofList (pairs.map binding)).entries,
      ∃ pair ∈ pairs, binding pair = entry := by
    rintro ⟨name, value⟩ hentry
    obtain ⟨before, after, hsplit, -⟩ :=
      SortedMap.get?_ofList_eq_some_iff.mp (SortedMap.mem_entries_iff.mp hentry)
    exact List.mem_map.mp (by rw [hsplit]; simp)
  generalize (SortedMap.ofList (pairs.map binding)).entries = bound at hbound
  induction bound with
  | nil => exact ⟨[], rfl, by simp⟩
  | cons entry rest ih =>
    obtain ⟨⟨pair, hpair, rfl⟩, hrest⟩ := List.forall_mem_cons.mp hbound
    obtain ⟨entries, rfl, hentries⟩ := ih hrest
    exact ⟨pair :: entries, rfl, List.forall_mem_cons.mpr ⟨hpair, hentries⟩⟩

/-- Tokens are read exactly when each of them has one equals sign, and otherwise the first that has
none or several is named by the failure. What is read binds every name to the text behind the
equals sign of the last token with that name, and nothing else; it is read again from tokens of its
own entries. Pairs without equals signs are read back from their tokens, of two with one name the
last. -/
theorem readExtra_of_tokens (tokens : List String) :
    ((∃ vars, readExtra tokens = .ok vars) ↔ ∀ token ∈ tokens, token.toList.count '=' = 1) ∧
    (∀ e, readExtra tokens = .error e ↔
      ∃ before token after, tokens = before ++ token :: after ∧
        (∀ other ∈ before, other.toList.count '=' = 1) ∧ token.toList.count '=' ≠ 1 ∧
        e = .invalidExtraVariable token) ∧
    (∀ vars, readExtra tokens = .ok vars →
      (∀ name value, vars.get? name = some value ↔
        ∃ text, value = .string text ∧ ∃ before after,
          tokens = before ++ written (name, text) :: after ∧
          ∀ other, written (name, other) ∉ after) ∧
      ∃ entries : List (String × String), vars.entries = entries.map binding ∧
        readExtra (entries.map written) = .ok vars) ∧
    ∀ pairs : List (String × String), (∀ pair ∈ pairs, '=' ∉ pair.1.toList ∧ '=' ∉ pair.2.toList) →
      ∃ vars, readExtra (pairs.map written) = .ok vars ∧
        ∀ name value, vars.get? name = some value ↔
          ∃ text, value = .string text ∧ ∃ before after,
            pairs = before ++ (name, text) :: after ∧ ∀ pair ∈ after, pair.1 ≠ name := by
  refine ⟨exists_readExtra_iff, fun e => readExtra_eq_error_iff, ?_, fun pairs h =>
    ⟨_, readExtra_map_written h, fun name value => get?_ofList_binding_iff⟩⟩
  intro vars hread
  obtain ⟨pairs, rfl, hwritable, rfl⟩ := readExtra_eq_ok_iff.mp hread
  constructor
  · intro name value
    rw [get?_ofList_binding_iff]
    exact exists_congr fun text => and_congr_right fun _ => (exists_last_written_iff hwritable).symm
  · obtain ⟨entries, hentries, hmem⟩ := exists_entries_eq_map_binding pairs
    refine ⟨entries, hentries, ?_⟩
    rw [readExtra_map_written fun entry hentry => hwritable entry (hmem entry hentry), ← hentries,
      SortedMap.ofList_entries]

/-- A name that is given twice has the later text, beside an empty name with an empty text, and all
is read again from the entries. A token without an equals sign is named before one with two. -/
theorem readExtra_repeated :
    (∀ pair ∈ [("a", "1"), ("", ""), ("a", "2")], '=' ∉ pair.1.toList ∧ '=' ∉ pair.2.toList) ∧
    (∃ vars, readExtra ["a=1", "=", "a=2"] = .ok vars ∧
      vars.get? "a" = some (.string "2") ∧ vars.get? "" = some (.string "") ∧
      ∃ entries : List (String × String), vars.entries = entries.map binding ∧
        readExtra (entries.map written) = .ok vars) ∧
    readExtra ["a=1", "b", "c=d=e"] = .error (.invalidExtraVariable "b") := by
  have hpairs : ∀ pair ∈ [("a", "1"), ("", ""), ("a", "2")],
      '=' ∉ pair.1.toList ∧ '=' ∉ pair.2.toList := by decide
  refine ⟨hpairs, ?_, ?_⟩
  · obtain ⟨-, -, hresult, hback⟩ := readExtra_of_tokens ["a=1", "=", "a=2"]
    obtain ⟨vars, hread, hlookup⟩ := hback _ hpairs
    exact ⟨vars, hread,
      (hlookup "a" _).mpr ⟨"2", rfl, [("a", "1"), ("", "")], [], rfl, by simp⟩,
      (hlookup "" _).mpr ⟨"", rfl, [("a", "1")], [("a", "2")], rfl, by decide⟩,
      (hresult vars hread).2⟩
  · obtain ⟨-, hfails, -, -⟩ := readExtra_of_tokens ["a=1", "b", "c=d=e"]
    exact (hfails _).mpr ⟨["a=1"], "b", ["c=d=e"], rfl, by decide, by decide, rfl⟩

end LayeredConfig.Request
