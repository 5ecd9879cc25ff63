import SchemaCompiler.Name

/-!
# The characters of identifiers

Schema names are arbitrary texts, and the identifiers that are made of them stand between the marks
of generated code: colons in paths, brackets and blanks in types, points in file names. They can be
told from those marks, because below code point 128 an identifier has letters, digits, underscores
and the mark of keywords only (`SchemaCompiler.Name.isIdentChar_of_mem_memberIdent`,
`SchemaCompiler.Name.isIdentChar_of_mem_typeIdent`).

Words have letters and digits only (`SchemaCompiler.Text.isWordChar`). Raising and lowering keeps
that: what is below code point 128 is looked at one by one, and above it the tables of case mapping
list every form, none of which is a mark.
-/

namespace SchemaCompiler

namespace Text

/-- Whether a character can stand in a word: below code point 128, letters and digits can. -/
def isWordChar (c : Char) : Bool :=
  128 ≤ c.toNat || c.isAlphanum

theorem isWordChar_of_le {c : Char} (h : 128 ≤ c.toNat) : isWordChar c = true := by
  rw [isWordChar, decide_eq_true h, Bool.true_or]

/-- A property of all characters below code point 128 is checked on their numbers. -/
theorem of_lt_128 {P : Char → Prop} (h : ∀ n < 128, P (Char.ofNat n)) {c : Char}
    (hc : c.toNat < 128) : P c := by
  have hchar := h c.toNat hc
  rwa [Char.ofNat_toNat] at hchar

/-- What holds of the characters of two texts holds of those of both together. -/
theorem forall_mem_append {P : Char → Prop} {s s' : String} (h : ∀ c ∈ s.toList, P c)
    (h' : ∀ c ∈ s'.toList, P c) : ∀ c ∈ (s ++ s').toList, P c := by
  intro c hc
  rw [String.toList_append] at hc
  rcases List.mem_append.mp hc with hc | hc
  · exact h c hc
  · exact h' c hc

/-! ### Case mapping -/

/-- Whether all forms of a shift are characters that can stand in a word: the first form is one, and
if it is a Latin letter it is the only one, and no form falls between the planes. -/
def Shift.keepsWords (s : Shift) : Bool :=
  (128 ≤ s.target || s.run.first == s.run.last && (Char.ofNat s.target).isAlphanum) &&
    (s.target + (s.run.last - s.run.first) < 0xd800 ||
      0xe000 ≤ s.target && s.target + (s.run.last - s.run.first) < 0x110000)

/-- Whether all forms of an expansion are characters that can stand in a word. -/
def expansionKeepsWords (e : Nat × List Nat) : Bool :=
  e.2.all (fun n => isWordChar (Char.ofNat n))

theorem isWordChar_of_keepsWords {s : Shift} (h : s.keepsWords = true) {n : Nat}
    (hn : s.run.contains n = true) :
    isWordChar (Char.ofNat (s.target + (n - s.run.first))) = true := by
  simp only [Shift.keepsWords, Bool.and_eq_true, Bool.or_eq_true, decide_eq_true_eq,
    beq_iff_eq] at h
  simp only [Run.contains, Bool.and_eq_true, decide_eq_true_eq, beq_iff_eq] at hn
  obtain ⟨hfirst, hplanes⟩ := h
  obtain ⟨⟨hlow, hhigh⟩, -⟩ := hn
  rcases hfirst with hbig | ⟨hsingle, halnum⟩
  · have hvalid : (s.target + (n - s.run.first)).isValidChar := by
      rw [Nat.isValidChar]
      omega
    refine isWordChar_of_le ?_
    rw [Char.ofNat, dif_pos hvalid]
    change 128 ≤ s.target + (n - s.run.first)
    omega
  · have hzero : n - s.run.first = 0 := by omega
    rw [hzero, Nat.add_zero, isWordChar, halnum, Bool.or_true]

theorem isWordChar_of_mem_mapCase {shifts : List Shift} {expansions : List (Nat × List Nat)}
    (hshifts : shifts.all Shift.keepsWords = true)
    (hexpansions : expansions.all expansionKeepsWords = true) {c d : Char}
    (hc : 128 ≤ c.toNat) (hd : d ∈ mapCase shifts expansions c) : isWordChar d = true := by
  rw [mapCase] at hd
  cases hs : shifts.find? (fun s => s.run.contains c.toNat) with
  | some s =>
    simp only [hs, List.mem_singleton] at hd
    have hrun : s.run.contains c.toNat = true :=
      List.find?_some (p := fun s : Shift => s.run.contains c.toNat) hs
    rw [hd]
    exact isWordChar_of_keepsWords
      (List.all_eq_true.mp hshifts s (List.mem_of_find?_eq_some hs)) hrun
  | none =>
    cases he : expansions.find? (fun e => e.1 == c.toNat) with
    | some e =>
      simp only [hs, he] at hd
      obtain ⟨n, hn, rfl⟩ := List.mem_map.mp hd
      exact List.all_eq_true.mp
        (List.all_eq_true.mp hexpansions e (List.mem_of_find?_eq_some he)) n hn
    | none =>
      simp only [hs, he, List.mem_singleton] at hd
      rw [hd]
      exact isWordChar_of_le hc

/-- **Raising keeps a character in words.** -/
theorem isWordChar_of_mem_upperForm {c d : Char} (hc : isWordChar c = true)
    (hd : d ∈ upperForm c) : isWordChar d = true := by
  rw [upperForm] at hd
  split at hd
  · rename_i hlow
    rw [List.mem_singleton.mp hd]
    exact of_lt_128 (P := fun c => isWordChar c = true → isWordChar c.toUpper = true)
      (by decide +kernel) hlow hc
  · rename_i hhigh
    exact isWordChar_of_mem_mapCase (by decide +kernel) (by decide +kernel)
      (Nat.le_of_not_lt hhigh) hd

/-- **Lowering keeps a character in words.** -/
theorem isWordChar_of_mem_lowerForm {c d : Char} (hc : isWordChar c = true)
    (hd : d ∈ lowerForm c) : isWordChar d = true := by
  rw [lowerForm] at hd
  split at hd
  · rename_i hlow
    rw [List.mem_singleton.mp hd]
    exact of_lt_128 (P := fun c => isWordChar c = true → isWordChar c.toLower = true)
      (by decide +kernel) hlow hc
  · rename_i hhigh
    exact isWordChar_of_mem_mapCase (by decide +kernel) (by decide +kernel)
      (Nat.le_of_not_lt hhigh) hd

theorem isWordChar_of_mem_lowerFrom {cs : List Char} (hcs : ∀ c ∈ cs, isWordChar c = true) :
    ∀ passed, ∀ d ∈ lowerFrom passed cs, isWordChar d = true := by
  induction cs with
  | nil =>
    intro passed d hd
    exact absurd hd List.not_mem_nil
  | cons c cs ih =>
    intro passed d hd
    rw [lowerFrom] at hd
    rcases List.mem_append.mp hd with hform | hrest
    · split at hform
      · -- the two small sigmas are above code point 128
        split at hform
        · rw [List.mem_singleton.mp hform]
          rfl
        · rw [List.mem_singleton.mp hform]
          rfl
      · exact isWordChar_of_mem_lowerForm (hcs c List.mem_cons_self) hform
    · exact ih (fun e he => hcs e (List.mem_cons_of_mem _ he)) _ d hrest

end Text

namespace Name

open Text

/-! ### Words -/

theorem isWordChar_of_isAlphanumeric {c : Char} (h : isAlphanumeric c = true) :
    isWordChar c = true := by
  rcases Nat.lt_or_ge c.toNat 128 with hlow | hhigh
  · exact of_lt_128 (P := fun c => isAlphanumeric c = true → isWordChar c = true)
      (by decide +kernel) hlow h
  · exact isWordChar_of_le hhigh

theorem of_mem_wordIfAny {P : Char → Prop} {reversed w : List Char}
    (h : ∀ c ∈ reversed, P c) (hw : w ∈ wordIfAny reversed) : ∀ c ∈ w, P c := by
  rw [wordIfAny] at hw
  split at hw
  · exact absurd hw List.not_mem_nil
  · rw [List.mem_singleton.mp hw]
    exact fun c hc => h c (List.mem_reverse.mp hc)

/-- **Words have no characters of their own**: what holds of the letters and digits that are read
holds of all characters of the words. -/
theorem of_mem_wordsFrom {P : Char → Prop} {cs w : List Char}
    (hcs : ∀ c ∈ cs, isAlphanumeric c = true → P c) :
    ∀ {current : List Char} {splits : Bool}, (∀ c ∈ current, P c) →
      w ∈ wordsFrom current splits cs → ∀ c ∈ w, P c := by
  induction cs with
  | nil =>
    intro current splits hcurrent hw
    exact of_mem_wordIfAny hcurrent hw
  | cons c cs ih =>
    have ih := @ih fun d hd => hcs d (List.mem_cons_of_mem _ hd)
    intro current splits hcurrent hw
    rw [wordsFrom] at hw
    split at hw
    · rcases List.mem_append.mp hw with hdone | hrest
      · exact of_mem_wordIfAny hcurrent hdone
      · exact ih (fun _ hd => absurd hd List.not_mem_nil) hrest
    · rename_i halnum
      rw [Bool.not_eq_true', Bool.not_eq_false] at halnum
      have hc := hcs c List.mem_cons_self halnum
      split at hw
      · rcases List.mem_append.mp hw with hdone | hrest
        · exact of_mem_wordIfAny hcurrent hdone
        · exact ih (fun _ hd => List.mem_singleton.mp hd ▸ hc) hrest
      · refine ih (fun d hd => ?_) hw
        rcases List.mem_cons.mp hd with rfl | hd
        · exact hc
        · exact hcurrent d hd

/-- **Words are made of letters and digits.** -/
theorem isWordChar_of_mem_words {name : String} {w : List Char} (hw : w ∈ words name) :
    ∀ c ∈ w, isWordChar c = true :=
  of_mem_wordsFrom (fun _ _ halnum => isWordChar_of_isAlphanumeric halnum)
    (fun _ hd => absurd hd List.not_mem_nil) hw

/-! ### Identifiers -/

/-- Whether a character can stand in an identifier: below code point 128, letters, digits,
underscores and the mark of keywords can. -/
def isIdentChar (c : Char) : Bool :=
  isWordChar c || c == '_' || c == '#'

theorem isIdentChar_of_isWordChar {c : Char} (h : isWordChar c = true) : isIdentChar c = true := by
  rw [isIdentChar, h, Bool.true_or, Bool.true_or]

theorem isIdentChar_of_mem_pascalCase (name : String) :
    ∀ c ∈ (pascalCase name).toList, isIdentChar c = true := by
  intro c hc
  rw [pascalCase, String.toList_ofList] at hc
  obtain ⟨w, hw, hc⟩ := List.mem_flatMap.mp hc
  have hchars := isWordChar_of_mem_words hw
  cases w with
  | nil => exact absurd hc List.not_mem_nil
  | cons d w =>
    rw [capitalize] at hc
    rcases List.mem_append.mp hc with hc | hc
    · exact isIdentChar_of_isWordChar
        (isWordChar_of_mem_upperForm (hchars d List.mem_cons_self) hc)
    · obtain ⟨e, he, hc⟩ := List.mem_flatMap.mp hc
      exact isIdentChar_of_isWordChar
        (isWordChar_of_mem_lowerForm (hchars e (List.mem_cons_of_mem _ he)) hc)

theorem mem_intercalate {α : Type} {sep : List α} {parts : List (List α)} {x : α}
    (h : x ∈ sep.intercalate parts) : x ∈ sep ∨ ∃ part ∈ parts, x ∈ part := by
  induction parts with
  | nil => exact absurd h List.not_mem_nil
  | cons part parts ih =>
    cases parts with
    | nil =>
      rw [List.intercalate_singleton] at h
      exact Or.inr ⟨part, List.mem_singleton.mpr rfl, h⟩
    | cons next parts =>
      rw [List.intercalate_cons_cons] at h
      rcases List.mem_append.mp h with h | h
      · rcases List.mem_append.mp h with h | h
        · exact Or.inr ⟨part, List.mem_cons_self, h⟩
        · exact Or.inl h
      · rcases ih h with h | ⟨q, hq, h⟩
        · exact Or.inl h
        · exact Or.inr ⟨q, List.mem_cons_of_mem _ hq, h⟩

theorem isIdentChar_of_mem_snakeCase (name : String) :
    ∀ c ∈ (snakeCase name).toList, isIdentChar c = true := by
  intro c hc
  rw [snakeCase, String.toList_intercalate, List.map_map] at hc
  rcases mem_intercalate hc with hc | ⟨part, hpart, hc⟩
  · rw [List.mem_singleton.mp hc]
    rfl
  · obtain ⟨w, hw, rfl⟩ := List.mem_map.mp hpart
    rw [Function.comp_apply, toLowercase, String.toList_ofList, String.toList_ofList] at hc
    exact isIdentChar_of_isWordChar
      (isWordChar_of_mem_lowerFrom (isWordChar_of_mem_words hw) [] c hc)

theorem isIdentChar_of_mem_escapeKeyword {ident : String}
    (h : ∀ c ∈ ident.toList, isIdentChar c = true) :
    ∀ c ∈ (escapeKeyword ident).toList, isIdentChar c = true := by
  rw [escapeKeyword]
  split
  · exact forall_mem_append h (List.all_eq_true.mp (by decide))
  · split
    · exact forall_mem_append (List.all_eq_true.mp (by decide)) h
    · exact h

/-- **The characters of a member or a module** can be told from the marks around it. -/
theorem isIdentChar_of_mem_memberIdent (name : String) :
    ∀ c ∈ (memberIdent name).toList, isIdentChar c = true := by
  rw [memberIdent]
  refine isIdentChar_of_mem_escapeKeyword ?_
  split
  · exact forall_mem_append (List.all_eq_true.mp (by decide))
      (isIdentChar_of_mem_snakeCase name)
  · exact isIdentChar_of_mem_snakeCase name

/-- **The characters of a type name** can be told from the marks around it. -/
theorem isIdentChar_of_mem_typeIdent (name : String) :
    ∀ c ∈ (typeIdent name).toList, isIdentChar c = true := by
  rw [typeIdent]
  split
  · exact forall_mem_append (List.all_eq_true.mp (by decide))
      (isIdentChar_of_mem_pascalCase name)
  · split
    · exact forall_mem_append (isIdentChar_of_mem_pascalCase name)
        (List.all_eq_true.mp (by decide))
    · exact isIdentChar_of_mem_pascalCase name

end Name

end SchemaCompiler
