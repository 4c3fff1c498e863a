import LayeredConfig.Files.Path
import LayeredConfig.Proofs.Text.Lines

/-!
# Paths that are continued by a name

A name without a slash continues a path by exactly one step: it is the last
part, the name of the new path, and what stands in front of it depends on the
path alone. So different names give different paths.
-/

namespace LayeredConfig

open Text

/-- An entry of a directory can have this name: a text without a slash that is
no step to where one is or upwards. -/
def IsEntryName (name : String) : Prop :=
  name ≠ "" ∧ name ≠ "." ∧ name ≠ ".." ∧ '/' ∉ name.toList

instance (name : String) : Decidable (IsEntryName name) := inferInstanceAs (Decidable (_ ∧ _))

namespace Path

/-- What stands in front of a name that continues a path. -/
def front (p : Path) : List Char :=
  match p.text.toList.getLast? with
  | none => []
  | some '/' => p.text.toList
  | some _ => p.text.toList ++ ['/']

/-- The parts of a path that are not empty. -/
def namedParts (p : Path) : List String := p.parts.filter (· != "")

/-- A text without a slash is not absolute. -/
theorem isAbsolute_eq_false {name : String} (h : '/' ∉ name.toList) :
    (Path.mk name).isAbsolute = false := by
  rw [isAbsolute]
  cases hn : name.toList with
  | nil => rfl
  | cons c rest =>
    rw [hn] at h
    have hc : c ≠ '/' := fun he => h (he ▸ List.mem_cons_self)
    simp [hc]

/-- A name is put behind the front of the path. -/
theorem toList_join (p : Path) {name : String} (h : '/' ∉ name.toList) :
    (p.join name).text.toList = p.front ++ name.toList := by
  rw [join, isAbsolute_eq_false h, front]
  cases hl : p.text.toList.getLast? with
  | none => simp
  | some c =>
    by_cases hc : c = '/'
    · simp [hc]
    · simp

/-- The front of a path is empty or ends in a slash. The parts that have a name are those of the
path itself. -/
theorem front_cases (p : Path) :
    (p.front = [] ∧ p.namedParts = []) ∨
      ∃ rest, p.front = rest ++ ['/'] ∧
        ((splitAtChar '/' rest).map String.ofList).filter (· != "") = p.namedParts := by
  cases hl : p.text.toList.getLast? with
  | none =>
    have hnil : p.text.toList = [] := List.getLast?_eq_none_iff.mp hl
    left
    constructor
    · rw [front, hl]
    · rw [namedParts, parts, hnil]
      rfl
  | some c =>
    right
    obtain ⟨rest, hrest⟩ := List.getLast?_eq_some_iff.mp hl
    by_cases hc : c = '/'
    · subst hc
      refine ⟨rest, ?_, ?_⟩
      · rw [front, hl]
        exact hrest
      · rw [namedParts, parts, hrest, splitAtChar_append]
        simp [splitAtChar]
    · refine ⟨p.text.toList, ?_, rfl⟩
      rw [front, hl]
      split
      · rename_i he
        cases he
      · rename_i he
        cases he
        exact absurd rfl hc
      · rfl

/-- Different names give different paths. -/
theorem join_injective (p : Path) {name other : String} (hn : '/' ∉ name.toList)
    (ho : '/' ∉ other.toList) (h : p.join name = p.join other) : name = other := by
  have hl : (p.join name).text.toList = (p.join other).text.toList := by rw [h]
  rw [toList_join p hn, toList_join p ho] at hl
  exact String.toList_inj.mp (List.append_cancel_left hl)

/-- A name adds itself as the last part. -/
theorem parts_join (p : Path) {name : String} (h : '/' ∉ name.toList) :
    ∃ before, (p.join name).parts = before ++ [name] ∧
      before.filter (· != "") = p.namedParts := by
  rw [parts, toList_join p h]
  rcases front_cases p with ⟨hfront, hparts⟩ | ⟨rest, hfront, hparts⟩
  · refine ⟨[], ?_, hparts.symm⟩
    rw [hfront, List.nil_append, splitAtChar_of_not_mem h]
    simp
  · refine ⟨(splitAtChar '/' rest).map String.ofList, ?_, hparts⟩
    rw [hfront, List.append_assoc, List.singleton_append, splitAtChar_append,
      splitAtChar_of_not_mem h, List.map_append]
    simp

/-- A path continued by the name of an entry has that name. -/
theorem fileName?_join (p : Path) {name : String} (h : IsEntryName name) :
    (p.join name).fileName? = some name := by
  obtain ⟨hne, hdot, hup, hslash⟩ := h
  obtain ⟨before, hparts, -⟩ := parts_join p hslash
  rw [fileName?, significant, hparts, List.reverse_append]
  simp [hne, hdot, hup]

/-- The base name of a path continued by the name of an entry. -/
theorem baseName_join (p : Path) {name : String} (h : IsEntryName name) :
    (p.join name).baseName = name := by
  rw [baseName, fileName?_join p h]
  rfl

/-- A name that is not empty is one more part. -/
theorem namedParts_join (p : Path) {name : String} (h : '/' ∉ name.toList) :
    (p.join name).namedParts = p.namedParts ++ [name].filter (· != "") := by
  obtain ⟨before, hparts, hbefore⟩ := parts_join p h
  rw [namedParts, hparts, List.filter_append, hbefore]

/-- A path continued by a name takes the steps of the path and one more. -/
theorem steps_join (p : Path) {name : String} (hne : name ≠ "") (h : '/' ∉ name.toList) :
    (p.join name).steps = p.namedParts ++ [name] := by
  have hnames : (p.join name).parts.filter (· != "") = p.namedParts ++ [name] := by
    have hjoined := namedParts_join p h
    rw [namedParts] at hjoined
    rw [hjoined]
    simp [hne]
  have hlast : (p.join name).text.toList.getLast? ≠ some '/' := by
    rw [toList_join p h]
    intro hl
    have hn : name.toList ≠ [] := by simpa using hne
    rw [List.getLast?_append, List.getLast?_eq_some_getLast hn, Option.some_or] at hl
    exact h (List.mem_of_getLast? ((List.getLast?_eq_some_getLast hn).trans hl))
  rw [steps, hnames]
  simp [hlast]

/-- A path takes its named parts as steps, and possibly one that leads nowhere. -/
theorem steps_eq (p : Path) : p.steps = p.namedParts ∨ p.steps = p.namedParts ++ ["."] := by
  rw [steps, namedParts]
  split
  · exact .inr rfl
  · exact .inl rfl

/-- A path continued by a name starts where the path starts. -/
theorem isAbsolute_join (p : Path) {name : String} (h : '/' ∉ name.toList) (hp : p.text ≠ "") :
    (p.join name).isAbsolute = p.isAbsolute := by
  have hne : p.text.toList ≠ [] := by simpa using hp
  obtain ⟨c, rest, hc⟩ := List.exists_cons_of_ne_nil hne
  rw [isAbsolute, isAbsolute, toList_join p h, front, hc]
  split
  · rename_i he
    simp at he
  · rfl
  · rfl

/-- A path stays not empty when it is continued by a name. -/
theorem text_join_ne_empty (p : Path) {name : String} (h : '/' ∉ name.toList) (hp : p.text ≠ "") :
    (p.join name).text ≠ "" := by
  intro he
  have hl := toList_join p h
  rw [he] at hl
  have hfront : p.front = [] := (List.append_eq_nil_iff.mp hl.symm).1
  have hne : p.text.toList ≠ [] := by simpa using hp
  rw [front] at hfront
  split at hfront
  · rename_i hlast
    exact hne (List.getLast?_eq_none_iff.mp hlast)
  · exact hne hfront
  · simp at hfront

/-- The parts of a path have no slash. -/
theorem slash_not_mem_of_mem_parts {p : Path} {part : String} (h : part ∈ p.parts) :
    '/' ∉ part.toList := by
  obtain ⟨chars, hchars, rfl⟩ := List.mem_map.mp h
  rw [String.toList_ofList]
  intro hslash
  exact (mem_of_mem_splitAtChar hchars hslash).2 rfl

/-- The base name of a path has no slash. -/
theorem slash_not_mem_baseName (p : Path) : '/' ∉ p.baseName.toList := by
  rw [baseName, fileName?]
  cases hs : p.significant with
  | nil => simp
  | cons name rest =>
    have hmem : name ∈ p.parts := by
      have hm : name ∈ p.significant := hs ▸ List.mem_cons_self
      exact List.mem_reverse.mp ((List.dropWhile_suffix _).subset hm)
    by_cases hup : name = ".."
    · simp [hup]
    · simpa [hup] using slash_not_mem_of_mem_parts hmem

end Path

end LayeredConfig
