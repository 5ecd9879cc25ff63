import SchemaCompiler.Proofs.Name.Capitals

/-!
# Legal identifiers

A schema name may be any text, and an identifier of the generated language may not. Members and
modules are written with small letters, types with a capital in front, no keyword stands where it
would be read as one, and no type takes the name of one that the generated code uses itself. This
file shows that the identifiers of Latin names keep to all that, provided that there is a letter or
a digit in the name to make an identifier of (`SchemaCompiler.Name.Usable`).

Every step that mends a name could spoil it: the mark of a digit or of a keyword could make a new
keyword, or make two names one. It does neither. The marks stand where no word can have them, so
they can be taken away again, and what is left is the snake-cased name
(`SchemaCompiler.Name.memberIdent_eq_iff_snakeCase`).
-/

namespace SchemaCompiler.Name

open Text

/-! ### Forms -/

/-- **A name that an identifier can be made of**: Latin characters, with a letter or a digit among
them. -/
structure Usable (name : String) : Prop where
  /-- The characters are Latin. -/
  latin : ∀ c ∈ name.toList, c.toNat < 128
  /-- There is a letter or a digit. -/
  word : ∃ c ∈ name.toList, c.isAlphanum = true

/-- Whether a character can stand in a member behind the first: a small letter, a digit or an
underscore. -/
def isMemberChar (c : Char) : Bool :=
  c.isLower || c.isDigit || c == '_'

/-- **The form of a member**: a small letter or an underscore, and then any number of small letters,
digits and underscores. -/
def MemberForm (ident : String) : Prop :=
  ∃ c rest, ident.toList = c :: rest ∧ (c.isLower = true ∨ c = '_') ∧
    ∀ d ∈ rest, isMemberChar d = true

/-- **The form of a type**: a capital, then any number of letters and digits, and possibly an
underscore at the end. -/
def TypeForm (ident : String) : Prop :=
  ∃ c rest mark, ident.toList = c :: (rest ++ mark) ∧ c.isUpper = true ∧
    (∀ d ∈ rest, d.isAlphanum = true) ∧ (mark = [] ∨ mark = ['_'])

/-- The words that the generated language uses. -/
def strictKeywords : List String :=
  ["as", "break", "const", "continue", "crate", "else", "enum", "extern", "false", "fn", "for",
   "if", "impl", "in", "let", "loop", "match", "mod", "move", "mut", "pub", "ref", "return", "self",
   "Self", "static", "struct", "super", "trait", "true", "type", "unsafe", "use", "where", "while",
   "async", "await", "dyn"]

/-- The words that the generated language keeps for later use. -/
def futureKeywords : List String :=
  ["abstract", "become", "box", "do", "final", "macro", "override", "priv", "typeof", "unsized",
   "virtual", "yield", "try"]

/-- A keyword of the generated language. -/
def IsKeyword (ident : String) : Prop :=
  ident ∈ strictKeywords ∨ ident ∈ futureKeywords

/-- **A legal member**: a plain one is no keyword, and a raw one is a keyword that can be raw. -/
inductive LegalMember : String → Prop
  /-- A member as it is. -/
  | plain {ident : String} (form : MemberForm ident) (hkeyword : ¬IsKeyword ident) :
      LegalMember ident
  /-- A keyword behind the mark of raw identifiers. -/
  | raw {ident : String} (form : MemberForm ident) (hkeyword : IsKeyword ident)
      (hpath : ident ∉ ["crate", "self", "Self", "super"]) : LegalMember ("r#" ++ ident)

/-- **A legal type**: it hides none that the generated code uses. -/
structure LegalType (ident : String) : Prop where
  /-- It has the form of a type. -/
  form : TypeForm ident
  /-- It is not reserved. -/
  free : ident ∉ reservedTypes

/-! ### Latin words -/

theorem wordsFrom_ne_nil {cs : List Char} :
    ∀ {current : List Char} {splits : Bool},
      current ≠ [] ∨ (∃ c ∈ cs, isAlphanumeric c = true) → wordsFrom current splits cs ≠ [] := by
  have hdone : ∀ {current : List Char}, current ≠ [] → wordIfAny current ≠ [] := by
    intro current hne
    rw [wordIfAny, if_neg (by simpa using hne)]
    exact List.cons_ne_nil _ _
  induction cs with
  | nil =>
    rintro current splits (hne | ⟨c, hc, -⟩)
    · exact hdone hne
    · exact absurd hc List.not_mem_nil
  | cons c cs ih =>
    intro current splits h
    rw [wordsFrom]
    split
    · rename_i hmark
      rcases h with hne | ⟨d, hd, halnum⟩
      · exact List.append_ne_nil_of_left_ne_nil (hdone hne) _
      · -- the letter or digit is behind the mark
        rcases List.mem_cons.mp hd with rfl | hd
        · rw [halnum] at hmark
          cases hmark
        · exact List.append_ne_nil_of_right_ne_nil _ (ih (Or.inr ⟨d, hd, halnum⟩))
    · split
      · exact List.append_ne_nil_of_right_ne_nil _ (ih (Or.inl (List.cons_ne_nil _ _)))
      · exact ih (Or.inl (List.cons_ne_nil _ _))

/-- A Latin letter or digit. -/
structure IsLatin (c : Char) : Prop where
  /-- It is below code point 128. -/
  lt : c.toNat < 128
  /-- It is a letter or a digit. -/
  alphanum : c.isAlphanum = true

/-- A property of all Latin letters and digits is checked on their numbers. -/
theorem IsLatin.of_forall {P : Char → Prop}
    (h : ∀ n < 128, (Char.ofNat n).isAlphanum = true → P (Char.ofNat n)) {c : Char}
    (hc : IsLatin c) : P c :=
  of_lt_128 (P := fun c => c.isAlphanum = true → P c) h hc.lt hc.alphanum

/-- The words of a Latin name are made of Latin letters and digits. -/
theorem isLatin_of_mem_words {name : String} (h : ∀ c ∈ name.toList, c.toNat < 128)
    {w : List Char} (hw : w ∈ words name) : ∀ c ∈ w, IsLatin c := by
  have halnum : ∀ c : Char, c.toNat < 128 → isAlphanumeric c = true → c.isAlphanum = true :=
    fun c => of_lt_128 (P := fun c => isAlphanumeric c = true → c.isAlphanum = true)
      (by decide +kernel)
  exact of_mem_wordsFrom (fun c hc hword => ⟨h c hc, halnum c (h c hc) hword⟩)
    (fun c hc => absurd hc List.not_mem_nil) hw

theorem Usable.words_ne_nil {name : String} (h : Usable name) : words name ≠ [] := by
  obtain ⟨c, hc, halnum⟩ := h.word
  have hword : isAlphanumeric c = true :=
    IsLatin.of_forall (P := fun c => isAlphanumeric c = true) (by decide +kernel)
      ⟨h.latin c hc, halnum⟩
  exact wordsFrom_ne_nil (Or.inr ⟨c, hc, hword⟩)

/-! ### Snake-cased names -/

/-- What lowering makes of a Latin letter or digit: a small letter or a digit, which stays as it is
when it is lowered again. -/
structure IsSmall (c : Char) : Prop where
  /-- It is a Latin letter or digit. -/
  latin : IsLatin c
  /-- It is no capital. -/
  small : c.isLower = true ∨ c.isDigit = true

theorem IsLatin.isSmall_toLower {c : Char} (h : IsLatin c) : IsSmall c.toLower := by
  have hlower := h.of_forall (P := fun c => (c.toLower.toNat < 128 ∧ c.toLower.isAlphanum = true) ∧
    (c.toLower.isLower = true ∨ c.toLower.isDigit = true)) (by decide +kernel)
  exact ⟨⟨hlower.1.1, hlower.1.2⟩, hlower.2⟩

theorem IsSmall.toLower_eq {c : Char} (h : IsSmall c) : c.toLower = c := by
  have hall : c.isLower = true ∨ c.isDigit = true → c.toLower = c :=
    of_lt_128 (P := fun c => c.isLower = true ∨ c.isDigit = true → c.toLower = c)
      (by decide +kernel) h.latin.lt
  exact hall h.small

theorem IsSmall.inWord {c : Char} (h : IsSmall c) :
    isAlphanumeric c = true ∧ isUppercase c = false := by
  have hall : c.isLower = true ∨ c.isDigit = true →
      isAlphanumeric c = true ∧ isUppercase c = false :=
    of_lt_128 (P := fun c => c.isLower = true ∨ c.isDigit = true →
      isAlphanumeric c = true ∧ isUppercase c = false) (by decide +kernel) h.latin.lt
  exact hall h.small

/-- A Latin word in lower case. -/
theorem toList_toLowercase {w : List Char} (h : ∀ c ∈ w, c.toNat < 128) :
    (toLowercase (String.ofList w)).toList = w.map Char.toLower := by
  rw [toLowercase, String.toList_ofList, String.toList_ofList, lowerFrom_of_latin h]

/-- The words of a Latin name in lower case are made of small letters and digits. -/
theorem isSmall_of_mem_loweredWords {name : String} (h : ∀ c ∈ name.toList, c.toNat < 128)
    {s : String} (hs : s ∈ loweredWords name) : ∀ c ∈ s.toList, IsSmall c := by
  obtain ⟨w, hw, rfl⟩ := List.mem_map.mp hs
  have hlatin := isLatin_of_mem_words h hw
  rw [toList_toLowercase fun c hc => (hlatin c hc).lt]
  intro d hd
  obtain ⟨c, hc, rfl⟩ := List.mem_map.mp hd
  exact (hlatin c hc).isSmall_toLower

/-- Small words are read back from what is written with underscores between them. -/
theorem wordsFrom_intercalate {vs : List (List Char)}
    (h : ∀ v ∈ vs, v ≠ [] ∧ ∀ c ∈ v, isAlphanumeric c = true ∧ isUppercase c = false) :
    wordsFrom [] false (['_'].intercalate vs) = vs := by
  have hmark : isAlphanumeric '_' = false := by decide
  induction vs with
  | nil => rfl
  | cons v vs ih =>
    obtain ⟨hne, hv⟩ := h v List.mem_cons_self
    cases vs with
    | nil =>
      have hend := wordsFrom_append hv [] [] false
      rw [List.append_nil, List.append_nil] at hend
      rw [List.intercalate_singleton, hend]
      exact wordIfAny_reverse hne
    | cons next vs =>
      have hrest := ih fun u hu => h u (List.mem_cons_of_mem _ hu)
      rw [List.intercalate_cons_cons, List.append_assoc, wordsFrom_append hv, List.append_nil,
        List.singleton_append, wordsFrom, hmark, Bool.not_false, if_pos rfl, hrest,
        wordIfAny_reverse hne, List.singleton_append]

theorem toLowercase_of_isSmall {s : String} (h : ∀ c ∈ s.toList, IsSmall c) :
    toLowercase (String.ofList s.toList) = s := by
  rw [← String.toList_inj, toList_toLowercase fun c hc => (h c hc).latin.lt]
  calc s.toList.map Char.toLower
      = s.toList.map id := List.map_congr_left fun c hc => (h c hc).toLower_eq
    _ = s.toList := List.map_id _

/-- **A snake-cased Latin name stays as it is** when it is snake-cased again. -/
theorem snakeCase_snakeCase {name : String} (h : ∀ c ∈ name.toList, c.toNat < 128) :
    snakeCase (snakeCase name) = snakeCase name := by
  have hwords : words (snakeCase name) = (loweredWords name).map String.toList := by
    rw [words, toList_snakeCase]
    refine wordsFrom_intercalate fun v hv => ?_
    obtain ⟨s, hs, rfl⟩ := List.mem_map.mp hv
    exact ⟨(toList_of_mem_loweredWords hs).1,
      fun c hc => (isSmall_of_mem_loweredWords h hs c hc).inWord⟩
  rw [snakeCase_eq_iff]
  calc loweredWords (snakeCase name)
      = (loweredWords name).map fun s => toLowercase (String.ofList s.toList) := by
        rw [loweredWords, hwords, List.map_map]
        rfl
    _ = (loweredWords name).map id :=
        List.map_congr_left fun s hs => toLowercase_of_isSmall (isSmall_of_mem_loweredWords h hs)
    _ = loweredWords name := List.map_id _

/-! ### Members -/

theorem isMemberChar_of_isSmall {c : Char} (h : IsSmall c) : isMemberChar c = true := by
  rcases h.small with hlower | hdigit
  · rw [isMemberChar, hlower, Bool.true_or, Bool.true_or]
  · rw [isMemberChar, hdigit, Bool.or_true, Bool.true_or]

/-- A snake-cased name starts with a small letter or a digit, and has only characters of members. -/
theorem Usable.snakeCase_eq_cons {name : String} (h : Usable name) :
    ∃ c rest, (snakeCase name).toList = c :: rest ∧ IsSmall c ∧
      ∀ d ∈ c :: rest, isMemberChar d = true := by
  have hchars : ∀ d ∈ (snakeCase name).toList, isMemberChar d = true := by
    intro d hd
    rw [toList_snakeCase] at hd
    rcases mem_intercalate hd with hmark | ⟨part, hpart, hd⟩
    · rw [List.mem_singleton.mp hmark]
      rfl
    · obtain ⟨s, hs, rfl⟩ := List.mem_map.mp hpart
      exact isMemberChar_of_isSmall (isSmall_of_mem_loweredWords h.latin hs d hd)
  obtain ⟨s, others, hwords⟩ : ∃ s others, loweredWords name = s :: others :=
    List.exists_cons_of_ne_nil (mt List.map_eq_nil_iff.mp h.words_ne_nil)
  have hs : s ∈ loweredWords name := hwords ▸ List.mem_cons_self
  obtain ⟨c, w, hcons⟩ := List.exists_cons_of_ne_nil (toList_of_mem_loweredWords hs).1
  have hhead : (snakeCase name).toList.head? = some c := by
    rw [toList_snakeCase, hwords, List.map_cons, hcons, head?_intercalate _ (List.cons_ne_nil _ _)]
    rfl
  obtain ⟨rest, hrest⟩ := List.head?_eq_some_iff.mp hhead
  refine ⟨c, rest, hrest, ?_, hrest ▸ hchars⟩
  exact isSmall_of_mem_loweredWords h.latin hs c (hcons ▸ List.mem_cons_self)

/-- **The words that are marked are the keywords**, all of them and no others. -/
theorem mem_keywords_iff {ident : String} : ident ∈ keywords ↔ IsKeyword ident := by
  have hall : ∀ k ∈ keywords, k ∈ strictKeywords ++ futureKeywords := by decide +kernel
  have hmarked : ∀ k ∈ strictKeywords ++ futureKeywords, k ∈ keywords := by decide +kernel
  rw [IsKeyword, ← List.mem_append]
  exact ⟨hall ident, hmarked ident⟩

/-- **Marking a keyword makes it legal**, and changes nothing else. -/
theorem legalMember_escapeKeyword {ident : String} (form : MemberForm ident) :
    LegalMember (escapeKeyword ident) := by
  have hmarked : ∀ k ∈ pathKeywords, k ++ "_" ∉ keywords := by decide
  rw [escapeKeyword]
  split
  · rename_i hpath
    obtain ⟨c, rest, hcons, hc, hrest⟩ := form
    have hfree : ¬IsKeyword (ident ++ "_") :=
      mt mem_keywords_iff.mpr (hmarked _ (List.contains_iff_mem.mp hpath))
    refine .plain ⟨c, rest ++ ['_'], ?_, hc, ?_⟩ hfree
    · rw [String.toList_append, hcons]
      rfl
    · exact List.forall_mem_append.mpr ⟨hrest, List.forall_mem_singleton.mpr rfl⟩
  · rename_i hpath
    split
    · rename_i hkeyword
      exact .raw form (mem_keywords_iff.mp (List.contains_iff_mem.mp hkeyword)) fun h =>
        hpath (List.contains_iff_mem.mpr h)
    · rename_i hkeyword
      exact .plain form fun h => hkeyword (List.contains_iff_mem.mpr (mem_keywords_iff.mpr h))

/-- **The member of a usable name is legal.** -/
theorem legalMember_memberIdent {name : String} (h : Usable name) :
    LegalMember (memberIdent name) := by
  obtain ⟨c, rest, hcons, hsmall, hchars⟩ := h.snakeCase_eq_cons
  have hdigit : startsWithDigit (snakeCase name) = c.isDigit := by
    rw [startsWithDigit, hcons]
  rw [memberIdent]
  refine legalMember_escapeKeyword ?_
  rw [hdigit]
  cases hc : c.isDigit with
  | true =>
    refine ⟨'_', c :: rest, ?_, Or.inr rfl, hchars⟩
    rw [if_pos rfl, String.toList_append, hcons]
    rfl
  | false =>
    refine ⟨c, rest, ?_, Or.inl ?_, fun d hd => hchars d (List.mem_cons_of_mem _ hd)⟩
    · rw [if_neg Bool.false_ne_true, hcons]
    · exact hsmall.small.resolve_right (by rw [hc]; exact Bool.false_ne_true)

/-! ### Types -/

theorem IsLatin.toUpper {c : Char} (h : IsLatin c) :
    c.toUpper.isAlphanum = true ∧ (c.toUpper.isUpper = true ∨ c.toUpper.isDigit = true) :=
  h.of_forall (P := fun c => c.toUpper.isAlphanum = true ∧
    (c.toUpper.isUpper = true ∨ c.toUpper.isDigit = true)) (by decide +kernel)

/-- A capitalized Latin word has only letters and digits. -/
theorem isAlphanum_of_mem_capitalize {w : List Char} (h : ∀ c ∈ w, IsLatin c) :
    ∀ d ∈ capitalize w, d.isAlphanum = true := by
  cases w with
  | nil => exact fun d hd => absurd hd List.not_mem_nil
  | cons c w =>
    rw [capitalize_of_latin fun d hd => (h d hd).lt]
    intro d hd
    rcases List.mem_cons.mp hd with rfl | hd
    · exact (h c List.mem_cons_self).toUpper.1
    · obtain ⟨e, he, rfl⟩ := List.mem_map.mp hd
      exact (h e (List.mem_cons_of_mem _ he)).isSmall_toLower.latin.alphanum

/-- A capitalized name starts with a capital or a digit, and has only letters and digits. -/
theorem Usable.pascalCase_eq_cons {name : String} (h : Usable name) :
    ∃ c rest, (pascalCase name).toList = c :: rest ∧ (c.isUpper = true ∨ c.isDigit = true) ∧
      ∀ d ∈ c :: rest, d.isAlphanum = true := by
  have hlatin := fun w hw => isLatin_of_mem_words (w := w) h.latin hw
  have hchars : ∀ d ∈ (pascalCase name).toList, d.isAlphanum = true := by
    intro d hd
    rw [pascalCase, String.toList_ofList] at hd
    obtain ⟨w, hw, hd⟩ := List.mem_flatMap.mp hd
    exact isAlphanum_of_mem_capitalize (hlatin w hw) d hd
  obtain ⟨w, ws, hwords⟩ := List.exists_cons_of_ne_nil h.words_ne_nil
  have hw : w ∈ words name := hwords ▸ List.mem_cons_self
  obtain ⟨c, cs, rfl⟩ := List.exists_cons_of_ne_nil (ne_nil_of_mem_wordsFrom hw)
  have hcons : (pascalCase name).toList =
      c.toUpper :: (cs.map Char.toLower ++ ws.flatMap capitalize) := by
    rw [pascalCase, String.toList_ofList, hwords, List.flatMap_cons,
      capitalize_of_latin fun d hd => (hlatin _ hw d hd).lt]
    rfl
  exact ⟨_, _, hcons, (hlatin _ hw c List.mem_cons_self).toUpper.2, hcons ▸ hchars⟩

/-- **The type of a usable name is legal.** -/
theorem legalType_typeIdent {name : String} (h : Usable name) : LegalType (typeIdent name) := by
  have hmarked : ∀ k ∈ reservedTypes, k ++ "_" ∉ reservedTypes := by decide
  have hfirst : ∀ k ∈ reservedTypes, k.toList.head? ≠ some 'T' := by decide
  obtain ⟨c, rest, hcons, hc, hchars⟩ := h.pascalCase_eq_cons
  have hrest : ∀ d ∈ rest, d.isAlphanum = true := fun d hd => hchars d (List.mem_cons_of_mem _ hd)
  have hdigit : startsWithDigit (pascalCase name) = c.isDigit := by
    rw [startsWithDigit, hcons]
  rw [typeIdent, hdigit]
  split
  · -- no reserved name starts as the mark of a digit does
    have hmark : ("T" ++ pascalCase name).toList = 'T' :: (c :: rest ++ []) := by
      rw [String.toList_append, hcons, List.append_nil]
      rfl
    refine ⟨⟨'T', c :: rest, [], hmark, rfl, hchars, Or.inl rfl⟩, fun hreserved => ?_⟩
    refine hfirst _ hreserved ?_
    rw [hmark]
    rfl
  · rename_i hletter
    have hupper : c.isUpper = true := hc.resolve_right hletter
    split
    · rename_i hreserved
      refine ⟨⟨c, rest, ['_'], ?_, hupper, hrest, Or.inr rfl⟩,
        hmarked _ (List.contains_iff_mem.mp hreserved)⟩
      rw [String.toList_append, hcons]
      rfl
    · rename_i hfree
      refine ⟨⟨c, rest, [], ?_, hupper, hrest, Or.inl rfl⟩, fun hreserved =>
        hfree (List.contains_iff_mem.mpr hreserved)⟩
      rw [hcons, List.append_nil]

/-! ### All identifiers -/

/-- **Identifiers are legal, and marks merge no names.** The member of a usable name has the form of
a member and is a keyword only where it is raw and can be; its type has the form of a type and is
not reserved; snake-casing twice is snake-casing once; and two names have the same member exactly
if they are the same when snake-cased. -/
theorem legal_identifiers {name : String} (h : Usable name) :
    LegalMember (memberIdent name) ∧ LegalType (typeIdent name) ∧
      snakeCase (snakeCase name) = snakeCase name ∧
      ∀ other, memberIdent name = memberIdent other ↔ snakeCase name = snakeCase other :=
  ⟨legalMember_memberIdent h, legalType_typeIdent h, snakeCase_snakeCase h.latin,
    fun _ => memberIdent_eq_iff_snakeCase⟩

/-- A name that no mark of raw identifiers could save, and that is reserved for types: it is marked
in both, and shares its member with what is the same name in snake case. -/
theorem legal_identifiers_self :
    Usable "Self" ∧ LegalMember "self_" ∧ LegalType "Self_" ∧ snakeCase "self" = "self" ∧
      memberIdent "Self" = memberIdent "-SELF-" := by
  have hlatin : "Self".toList.all (·.toNat < 128) = true := by decide
  have husable : Usable "Self" :=
    ⟨fun c hc => of_decide_eq_true (List.all_eq_true.mp hlatin c hc), 'S', by decide, by decide⟩
  have hsnake : snakeCase "Self" = "self" := by decide
  obtain ⟨hmember, htype, htwice, hsame⟩ := legal_identifiers husable
  rw [show memberIdent "Self" = "self_" by decide] at hmember
  rw [show typeIdent "Self" = "Self_" by decide] at htype
  rw [hsnake] at htwice
  exact ⟨husable, hmember, htype, htwice, (hsame _).mpr (by decide)⟩

end SchemaCompiler.Name
