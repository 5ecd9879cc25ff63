import SchemaCompiler.Proofs.Name.Characters

/-!
# Words read back from identifiers

The identifier of a member says less than the name it was made of: capitals and everything that is
no letter or digit are gone. What is left are the words of the name in lower case
(`SchemaCompiler.Name.loweredWords`), and nothing more is lost: they are read back from the
identifier, so two names have the same identifier exactly when they have the same lowered words
(`SchemaCompiler.Name.memberIdent_eq_iff`).

Reading back takes two steps. The marks of keywords and digits are taken away
(`SchemaCompiler.Name.unmarked`), which is possible because a snake-cased name neither starts nor
ends with an underscore and has no mark of keywords; and what is left is cut at its underscores
(`SchemaCompiler.Name.cutWords`), which no word has.
-/

namespace SchemaCompiler

namespace Text

/-! ### Forms are never empty -/

theorem mapCase_ne_nil {shifts : List Shift} {expansions : List (Nat × List Nat)}
    (h : expansions.all (fun e => !e.2.isEmpty) = true) (c : Char) :
    mapCase shifts expansions c ≠ [] := by
  rw [mapCase]
  split
  · exact List.cons_ne_nil _ _
  · split
    · rename_i e he
      have hform := List.all_eq_true.mp h e (List.mem_of_find?_eq_some he)
      intro hnil
      rw [List.map_eq_nil_iff.mp hnil] at hform
      exact absurd hform (by decide)
    · exact List.cons_ne_nil _ _

theorem lowerForm_ne_nil (c : Char) : lowerForm c ≠ [] := by
  rw [lowerForm]
  split
  · exact List.cons_ne_nil _ _
  · exact mapCase_ne_nil (by decide) c

theorem lowerFrom_ne_nil {cs : List Char} (h : cs ≠ []) (passed : List Char) :
    lowerFrom passed cs ≠ [] := by
  obtain ⟨c, rest, rfl⟩ := List.exists_cons_of_ne_nil h
  rw [lowerFrom]
  refine List.append_ne_nil_of_left_ne_nil ?_ _
  split
  · split <;> exact List.cons_ne_nil _ _
  · exact lowerForm_ne_nil c

end Text

namespace Name

open Text

/-! ### Words in lower case -/

/-- The words of a name in lower case. -/
def loweredWords (name : String) : List String :=
  (words name).map (fun w => toLowercase (String.ofList w))

theorem ne_nil_of_mem_wordIfAny {reversed w : List Char} (hw : w ∈ wordIfAny reversed) :
    w ≠ [] := by
  rw [wordIfAny] at hw
  split at hw
  · exact absurd hw List.not_mem_nil
  · rename_i hne
    rw [List.mem_singleton.mp hw]
    exact fun hnil => hne (List.isEmpty_iff.mpr (List.reverse_eq_nil_iff.mp hnil))

theorem ne_nil_of_mem_wordsFrom {cs w : List Char} :
    ∀ {current : List Char} {splits : Bool}, w ∈ wordsFrom current splits cs → w ≠ [] := by
  induction cs with
  | nil => exact fun hw => ne_nil_of_mem_wordIfAny hw
  | cons c cs ih =>
    intro current splits hw
    rw [wordsFrom] at hw
    split at hw
    · rcases List.mem_append.mp hw with hdone | hrest
      · exact ne_nil_of_mem_wordIfAny hdone
      · exact ih hrest
    · split at hw
      · rcases List.mem_append.mp hw with hdone | hrest
        · exact ne_nil_of_mem_wordIfAny hdone
        · exact ih hrest
      · exact ih hw

/-- **Lowered words are made of letters and digits, and of at least one.** -/
theorem toList_of_mem_loweredWords {name s : String} (hs : s ∈ loweredWords name) :
    s.toList ≠ [] ∧ ∀ c ∈ s.toList, isWordChar c = true := by
  obtain ⟨w, hw, rfl⟩ := List.mem_map.mp hs
  rw [toLowercase, String.toList_ofList, String.toList_ofList]
  exact ⟨lowerFrom_ne_nil (ne_nil_of_mem_wordsFrom hw) [],
    isWordChar_of_mem_lowerFrom (isWordChar_of_mem_words hw) []⟩

theorem toList_snakeCase (name : String) :
    (snakeCase name).toList = ['_'].intercalate ((loweredWords name).map String.toList) := by
  rw [snakeCase, String.toList_intercalate]
  rfl

/-! ### Cutting at underscores -/

/-- The words of a snake-cased name. -/
def cutWords (snake : String) : List String :=
  if snake.isEmpty then [] else (snake.toList.splitOn '_').map String.ofList

theorem head?_intercalate (sep : List Char) {first : List Char} (h : first ≠ [])
    (others : List (List Char)) :
    (sep.intercalate (first :: others)).head? = first.head? := by
  cases others with
  | nil => rw [List.intercalate_singleton]
  | cons second others =>
    obtain ⟨c, rest, rfl⟩ := List.exists_cons_of_ne_nil h
    rw [List.intercalate_cons_cons]
    rfl

theorem getLast?_intercalate {sep : List Char} {parts : List (List Char)}
    (h : ∀ part ∈ parts, part ≠ []) :
    (sep.intercalate parts).getLast? = parts.getLast?.bind List.getLast? := by
  induction parts with
  | nil => rfl
  | cons part parts ih =>
    cases parts with
    | nil =>
      rw [List.intercalate_singleton]
      rfl
    | cons next parts =>
      have hrest := ih fun p hp => h p (List.mem_cons_of_mem _ hp)
      have hsome : (next :: parts).getLast?.bind List.getLast? ≠ none := by
        have hne := List.cons_ne_nil next parts
        rw [List.getLast?_eq_some_getLast hne, Option.bind_some]
        exact mt List.getLast?_eq_none_iff.mp
          (h _ (List.mem_cons_of_mem _ (List.getLast_mem hne)))
      rw [List.intercalate_cons_cons, List.getLast?_append, hrest, List.getLast?_cons_cons,
        Option.or_of_isSome (Option.isSome_iff_ne_none.mpr hsome)]

/-- **The words of a name are read back from its snake-cased form.** -/
theorem cutWords_snakeCase (name : String) : cutWords (snakeCase name) = loweredWords name := by
  have hword : ∀ part ∈ (loweredWords name).map String.toList, part ≠ [] ∧ '_' ∉ part := by
    intro part hpart
    obtain ⟨s, hs, rfl⟩ := List.mem_map.mp hpart
    obtain ⟨hne, hchars⟩ := toList_of_mem_loweredWords hs
    exact ⟨hne, fun hmem => absurd (hchars '_' hmem) (by decide)⟩
  cases hwords : loweredWords name with
  | nil =>
    have hempty : snakeCase name = "" := by
      rw [← String.toList_inj, toList_snakeCase, hwords]
      rfl
    rw [hempty]
    rfl
  | cons s rest =>
    rw [hwords, List.map_cons] at hword
    have hne : (snakeCase name).isEmpty = false := by
      rw [Bool.eq_false_iff, Ne, String.isEmpty_iff, ← String.toList_inj, toList_snakeCase, hwords,
        List.map_cons]
      intro hnil
      have hhead := head?_intercalate ['_'] (hword s.toList List.mem_cons_self).1
        (rest.map String.toList)
      rw [hnil] at hhead
      exact (hword s.toList List.mem_cons_self).1 (List.head?_eq_none_iff.mp hhead.symm)
    rw [cutWords, hne, if_neg Bool.false_ne_true, toList_snakeCase, hwords, List.map_cons,
      List.splitOn_intercalate '_' (fun part hpart => (hword part hpart).2)
        (List.cons_ne_nil _ _), List.map_cons, List.map_map]
    simp [Function.comp_def]

theorem snakeCase_eq_iff {a b : String} :
    snakeCase a = snakeCase b ↔ loweredWords a = loweredWords b := by
  constructor
  · intro h
    rw [← cutWords_snakeCase, h, cutWords_snakeCase]
  · intro h
    rw [← String.toList_inj, toList_snakeCase, toList_snakeCase, h]

/-! ### Taking marks away -/

/-- An identifier without the marks of keywords and of digits. -/
def unmarked : List Char → List Char
  | 'r' :: '#' :: rest => rest
  | '_' :: rest => rest
  | cs => if cs.getLast? = some '_' then cs.dropLast else cs

/-- A snake-cased name starts with a letter or a digit. -/
theorem isWordChar_of_head?_snakeCase {name : String} {c : Char}
    (h : (snakeCase name).toList.head? = some c) : isWordChar c = true := by
  rw [toList_snakeCase] at h
  cases hwords : loweredWords name with
  | nil =>
    rw [hwords] at h
    cases h
  | cons s rest =>
    obtain ⟨hne, hchars⟩ := toList_of_mem_loweredWords (hwords ▸ List.mem_cons_self : s ∈ _)
    rw [hwords, List.map_cons, head?_intercalate _ hne] at h
    exact hchars c (List.mem_of_mem_head? h)

/-- A snake-cased name ends with a letter or a digit. -/
theorem isWordChar_of_getLast?_snakeCase {name : String} {c : Char}
    (h : (snakeCase name).toList.getLast? = some c) : isWordChar c = true := by
  have hparts : ∀ part ∈ (loweredWords name).map String.toList, part ≠ [] := by
    intro part hpart
    obtain ⟨s, hs, rfl⟩ := List.mem_map.mp hpart
    exact (toList_of_mem_loweredWords hs).1
  rw [toList_snakeCase, getLast?_intercalate hparts] at h
  obtain ⟨part, hpart, hc⟩ := Option.bind_eq_some_iff.mp h
  obtain ⟨s, hs, rfl⟩ := List.mem_map.mp (List.mem_of_getLast? hpart)
  exact (toList_of_mem_loweredWords hs).2 c (List.mem_of_getLast? hc)

theorem hash_not_mem_snakeCase (name : String) : '#' ∉ (snakeCase name).toList := by
  intro hmem
  rw [toList_snakeCase] at hmem
  rcases mem_intercalate hmem with hsep | ⟨part, hpart, hc⟩
  · exact absurd (List.mem_singleton.mp hsep) (by decide)
  · obtain ⟨s, hs, rfl⟩ := List.mem_map.mp hpart
    exact absurd ((toList_of_mem_loweredWords hs).2 '#' hc) (by decide)

/-- Nothing is taken away from a snake-cased name. -/
theorem unmarked_snakeCase (name : String) :
    unmarked (snakeCase name).toList = (snakeCase name).toList := by
  have hlast : (snakeCase name).toList.getLast? ≠ some '_' :=
    fun h => absurd (isWordChar_of_getLast?_snakeCase h) (by decide)
  have hhash := hash_not_mem_snakeCase name
  have hhead : (snakeCase name).toList.head? ≠ some '_' :=
    fun h => absurd (isWordChar_of_head?_snakeCase h) (by decide)
  generalize (snakeCase name).toList = cs at hlast hhash hhead
  rw [unmarked.eq_def]
  split
  · exact absurd (List.mem_cons_of_mem _ List.mem_cons_self) hhash
  · exact absurd rfl hhead
  · rw [if_neg hlast]

/-- No keyword starts with an underscore, so none is marked for its digit. -/
theorem ne_underscore_append_of_mem_keywords {ident : String}
    (h : ident ∈ keywords ∨ ident ∈ pathKeywords) (s : String) : ident ≠ "_" ++ s := by
  have hall : (keywords ++ pathKeywords).all (fun k => k.toList.head? != some '_') = true := by
    decide
  rintro rfl
  have hfree := List.all_eq_true.mp hall _ (List.mem_append.mpr h)
  rw [String.toList_append] at hfree
  exact absurd hfree (by simp)

/-- **The snake-cased name is read back from the identifier of a member.** -/
theorem unmarked_memberIdent (name : String) :
    unmarked (memberIdent name).toList = (snakeCase name).toList := by
  have hpath : ∀ k ∈ pathKeywords, unmarked (k ++ "_").toList = k.toList := by decide
  have hkeyword : ∀ s : String, unmarked ("r#" ++ s).toList = s.toList := by
    intro s
    rw [String.toList_append]
    rfl
  rw [memberIdent]
  by_cases hdigit : startsWithDigit (snakeCase name) = true
  · rw [if_pos hdigit, escapeKeyword, if_neg, if_neg, String.toList_append]
    · rfl
    · intro h
      exact ne_underscore_append_of_mem_keywords (Or.inl (List.contains_iff_mem.mp h)) _ rfl
    · intro h
      exact ne_underscore_append_of_mem_keywords (Or.inr (List.contains_iff_mem.mp h)) _ rfl
  · rw [if_neg hdigit, escapeKeyword]
    split
    · rename_i h
      exact hpath _ (List.contains_iff_mem.mp h)
    · split
      · exact hkeyword _
      · exact unmarked_snakeCase name

/-- **Marks merge no names**: members are the same exactly when snake-cased names are. -/
theorem memberIdent_eq_iff_snakeCase {a b : String} :
    memberIdent a = memberIdent b ↔ snakeCase a = snakeCase b := by
  constructor
  · intro h
    rw [← String.toList_inj, ← unmarked_memberIdent, h, unmarked_memberIdent]
  · intro h
    rw [memberIdent, memberIdent, h]

/-- **Two names have the same member exactly when they have the same words**, up to case. -/
theorem memberIdent_eq_iff {a b : String} :
    memberIdent a = memberIdent b ↔ loweredWords a = loweredWords b :=
  memberIdent_eq_iff_snakeCase.trans snakeCase_eq_iff

end Name

end SchemaCompiler
