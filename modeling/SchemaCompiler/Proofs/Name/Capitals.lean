import Mathlib.Data.List.Chain
import SchemaCompiler.Proofs.Name.Words

/-!
# Words read back from type names

In a type name the words are capitalized and joined, with nothing between them. Cutting a type name
into words again is how the module of a type gets its name, and it need not give the same words: a
capital starts a new word only behind a small letter or a digit, so a word of one letter runs into
the next one, and a word that starts with a digit has no capital at all.

Where neither happens the words are read back. `SchemaCompiler.Name.words_flatten` says it of any
words with their capitals in the right places, and `SchemaCompiler.Name.Tidy` says of a name that
its words have them. The module of a tidy name is its member
(`SchemaCompiler.Name.memberIdent_typeIdent`).
-/

namespace SchemaCompiler

namespace Text

/-- Small and capital forms of Latin letters are single characters, also within a text: the only
letter whose form depends on its neighbours is no Latin one. -/
theorem lowerFrom_of_latin {cs : List Char} (h : ∀ c ∈ cs, c.toNat < 128) :
    ∀ passed, lowerFrom passed cs = cs.map Char.toLower := by
  induction cs with
  | nil => exact fun _ => rfl
  | cons c cs ih =>
    intro passed
    have hc := h c List.mem_cons_self
    have hsigma : (c == 'Σ') = false := by
      rw [beq_eq_false_iff_ne]
      rintro rfl
      exact absurd hc (by decide)
    rw [lowerFrom, hsigma, if_neg Bool.false_ne_true, lowerForm, if_pos hc,
      ih fun d hd => h d (List.mem_cons_of_mem _ hd)]
    rfl

end Text

namespace Name

open Text

/-! ### Joined words -/

/-- A word as it stands in a type name: letters and digits, of which only the first may be a
capital. -/
structure Capitalized (v : List Char) : Prop where
  /-- There is a first character. -/
  ne_nil : v ≠ []
  /-- All characters belong to a word. -/
  alphanumeric : ∀ c ∈ v, isAlphanumeric c = true
  /-- The other characters are no capitals. -/
  small : ∀ c ∈ v.tail, isUppercase c = false

/-- The word behind another one is told from it: it has a capital, behind a small letter or a
digit. -/
def Parted (v next : List Char) : Prop :=
  v.getLast?.any endsWord = true ∧ next.head?.any isUppercase = true

/-- Whether a capital behind a word ends it depends on the last character of the word. -/
theorem any_getLast?_cons (c : Char) (cs : List Char) :
    (c :: cs).getLast?.any endsWord = cs.getLast?.elim (endsWord c) endsWord := by
  rw [List.getLast?_cons]
  cases cs.getLast? <;> rfl

/-- Characters that are no capitals stay in the word that is being read. -/
theorem wordsFrom_append {cs : List Char}
    (h : ∀ c ∈ cs, isAlphanumeric c = true ∧ isUppercase c = false) (rest : List Char) :
    ∀ current splits, wordsFrom current splits (cs ++ rest) =
      wordsFrom (cs.reverse ++ current) (cs.getLast?.elim splits endsWord) rest := by
  induction cs with
  | nil => exact fun _ _ => rfl
  | cons c cs ih =>
    intro current splits
    obtain ⟨halnum, hsmall⟩ := h c List.mem_cons_self
    rw [List.cons_append, wordsFrom, halnum, hsmall, Bool.not_true, Bool.false_and,
      if_neg Bool.false_ne_true, if_neg Bool.false_ne_true,
      ih fun d hd => h d (List.mem_cons_of_mem _ hd), List.reverse_cons, List.append_assoc,
      List.singleton_append, List.getLast?_cons]
    cases cs.getLast? <;> rfl

/-- A word whose first character has been taken is read to its end. -/
theorem wordsFrom_capitalized {c : Char} {cs : List Char} (h : Capitalized (c :: cs))
    (rest : List Char) : wordsFrom [c] (endsWord c) (cs ++ rest) =
      wordsFrom (c :: cs).reverse ((c :: cs).getLast?.any endsWord) rest := by
  have hcs : ∀ d ∈ cs, isAlphanumeric d = true ∧ isUppercase d = false :=
    fun d hd => ⟨h.alphanumeric d (List.mem_cons_of_mem _ hd), h.small d hd⟩
  rw [wordsFrom_append hcs, any_getLast?_cons, List.reverse_cons]

theorem wordIfAny_reverse {v : List Char} (hne : v ≠ []) : wordIfAny v.reverse = [v] := by
  rw [wordIfAny, if_neg (by simpa using hne), List.reverse_reverse]

/-- **Joined words are read back behind a word.** The induction goes along the words; what has been
read is the whole word before them. -/
theorem wordsFrom_flatten {vs : List (List Char)} (h : ∀ v ∈ vs, Capitalized v) :
    ∀ {v : List Char}, v ≠ [] → (v :: vs).IsChain Parted →
      wordsFrom v.reverse (v.getLast?.any endsWord) vs.flatten = v :: vs := by
  induction vs with
  | nil =>
    intro v hne _
    exact wordIfAny_reverse hne
  | cons next vs ih =>
    intro v hne hchain
    obtain ⟨⟨hends, hcapital⟩, hrest⟩ := List.isChain_cons_cons.mp hchain
    have hnext := h next List.mem_cons_self
    obtain ⟨c, cs, rfl⟩ := List.exists_cons_of_ne_nil hnext.ne_nil
    have halnum := hnext.alphanumeric c List.mem_cons_self
    have hupper : isUppercase c = true := hcapital
    rw [List.flatten_cons, List.cons_append, wordsFrom, halnum, hupper, hends, Bool.not_true,
      Bool.true_and, if_neg Bool.false_ne_true, if_pos rfl, wordsFrom_capitalized hnext,
      ih (fun w hw => h w (List.mem_cons_of_mem _ hw)) hnext.ne_nil hrest,
      wordIfAny_reverse hne]
    rfl

/-- **Joined words are read back** if each but the first has its capital. -/
theorem words_flatten {vs : List (List Char)} (h : ∀ v ∈ vs, Capitalized v)
    (hchain : vs.IsChain Parted) : wordsFrom [] false vs.flatten = vs := by
  cases vs with
  | nil => rfl
  | cons v vs =>
    have hv := h v List.mem_cons_self
    obtain ⟨c, cs, rfl⟩ := List.exists_cons_of_ne_nil hv.ne_nil
    rw [List.flatten_cons, List.cons_append, wordsFrom, hv.alphanumeric c List.mem_cons_self,
      Bool.not_true, Bool.and_false, if_neg Bool.false_ne_true, if_neg Bool.false_ne_true,
      wordsFrom_capitalized hv]
    exact wordsFrom_flatten (fun w hw => h w (List.mem_cons_of_mem _ hw)) hv.ne_nil hchain

/-! ### Latin words -/

section Latin

variable {c : Char} {w : List Char}

theorem capitalize_of_latin {cs : List Char} (h : ∀ d ∈ c :: cs, d.toNat < 128) :
    capitalize (c :: cs) = c.toUpper :: cs.map Char.toLower := by
  have hforms : cs.flatMap lowerForm = cs.map Char.toLower := by
    rw [List.map_eq_flatMap]
    refine List.flatMap_congr fun d hd => ?_
    rw [lowerForm, if_pos (h d (List.mem_cons_of_mem _ hd))]
  rw [capitalize, upperForm, if_pos (h c List.mem_cons_self), hforms]
  rfl

/-- **A capitalized Latin word** has no capital behind its first character. -/
theorem capitalized_capitalize (hne : w ≠ []) (hlatin : ∀ d ∈ w, d.toNat < 128)
    (hword : ∀ d ∈ w, isWordChar d = true) : Capitalized (capitalize w) := by
  have hupper : ∀ d : Char, d.toNat < 128 → isWordChar d = true → isAlphanumeric d.toUpper = true :=
    fun d => of_lt_128 (P := fun d => isWordChar d = true → isAlphanumeric d.toUpper = true)
      (by decide +kernel)
  have hlower : ∀ d : Char, d.toNat < 128 → isWordChar d = true →
      isAlphanumeric d.toLower = true ∧ isUppercase d.toLower = false :=
    fun d => of_lt_128 (P := fun d => isWordChar d = true →
      isAlphanumeric d.toLower = true ∧ isUppercase d.toLower = false) (by decide +kernel)
  obtain ⟨c, cs, rfl⟩ := List.exists_cons_of_ne_nil hne
  rw [capitalize_of_latin hlatin]
  have hcs : ∀ e ∈ cs.map Char.toLower, isAlphanumeric e = true ∧ isUppercase e = false := by
    intro e he
    obtain ⟨d, hd, rfl⟩ := List.mem_map.mp he
    have hmem := List.mem_cons_of_mem c hd
    exact hlower d (hlatin d hmem) (hword d hmem)
  refine ⟨List.cons_ne_nil _ _, fun e he => ?_, fun e he => (hcs e he).2⟩
  rcases List.mem_cons.mp he with rfl | he
  · exact hupper c (hlatin c List.mem_cons_self) (hword c List.mem_cons_self)
  · exact (hcs e he).1

/-- Capitalizing a Latin word does not change it in lower case. -/
theorem toLowercase_capitalize (hlatin : ∀ d ∈ w, d.toNat < 128) :
    toLowercase (String.ofList (capitalize w)) = toLowercase (String.ofList w) := by
  have hforms : ∀ d : Char, d.toNat < 128 → (d.toUpper.toNat < 128 ∧ d.toLower.toNat < 128) ∧
      d.toUpper.toLower = d.toLower ∧ d.toLower.toLower = d.toLower :=
    fun d hd => of_lt_128 (P := fun d => (d.toUpper.toNat < 128 ∧ d.toLower.toNat < 128) ∧
      d.toUpper.toLower = d.toLower ∧ d.toLower.toLower = d.toLower) (by decide +kernel) hd
  cases w with
  | nil => rfl
  | cons c cs =>
    obtain ⟨⟨hup, -⟩, hupLow, -⟩ := hforms c (hlatin c List.mem_cons_self)
    have hcs : ∀ d ∈ cs, d.toNat < 128 := fun d hd => hlatin d (List.mem_cons_of_mem _ hd)
    have hcapital : ∀ d ∈ c.toUpper :: cs.map Char.toLower, d.toNat < 128 := by
      intro d hd
      rcases List.mem_cons.mp hd with rfl | hd
      · exact hup
      · obtain ⟨e, he, rfl⟩ := List.mem_map.mp hd
        exact (hforms e (hcs e he)).1.2
    have htail : (cs.map Char.toLower).map Char.toLower = cs.map Char.toLower := by
      rw [List.map_map]
      exact List.map_congr_left fun d hd => (hforms d (hcs d hd)).2.2
    rw [capitalize_of_latin hlatin, toLowercase, toLowercase, String.toList_ofList,
      String.toList_ofList, lowerFrom_of_latin hcapital, lowerFrom_of_latin hlatin, List.map_cons,
      List.map_cons, hupLow, htail]

end Latin

/-! ### Tidy names -/

/-- Two words that stay apart when they are capitalized and joined: the second starts with a letter,
and the first does not end with its capital. -/
def StayApart (w next : List Char) : Prop :=
  (2 ≤ w.length ∨ w.all Char.isDigit = true) ∧ next.head?.any Char.isAlpha = true

instance (w next : List Char) : Decidable (StayApart w next) :=
  inferInstanceAs (Decidable (_ ∧ _))

/-- **A tidy name** has words of Latin letters and digits that start with a letter and stay
apart. -/
structure Tidy (name : String) : Prop where
  /-- The words are made of Latin letters and digits. -/
  latin : ∀ w ∈ words name, w.all (·.toNat < 128) = true
  /-- The first word starts with a letter. -/
  start : (words name).head?.all (·.head?.any Char.isAlpha) = true
  /-- Neighbouring words stay apart. -/
  apart : (words name).IsChain StayApart

instance (name : String) : Decidable (Tidy name) :=
  decidable_of_iff (_ ∧ _ ∧ _)
    ⟨fun ⟨latin, start, apart⟩ => ⟨latin, start, apart⟩, fun h => ⟨h.latin, h.start, h.apart⟩⟩

theorem Tidy.toNat_lt {name : String} (h : Tidy name) {w : List Char} (hw : w ∈ words name) :
    ∀ c ∈ w, c.toNat < 128 := by
  intro c hc
  exact of_decide_eq_true (List.all_eq_true.mp (h.latin w hw) c hc)

theorem parted_capitalize {w next : List Char} (h : StayApart w next) (hne : w ≠ [])
    (hw : ∀ c ∈ w, c.toNat < 128 ∧ isWordChar c = true) (hnext : ∀ c ∈ next, c.toNat < 128) :
    Parted (capitalize w) (capitalize next) := by
  have hdigit : ∀ d : Char, d.toNat < 128 → d.isDigit = true → endsWord d.toUpper = true :=
    fun d => of_lt_128 (P := fun d => d.isDigit = true → endsWord d.toUpper = true)
      (by decide +kernel)
  have hsmall : ∀ d : Char, d.toNat < 128 → isWordChar d = true → endsWord d.toLower = true :=
    fun d => of_lt_128 (P := fun d => isWordChar d = true → endsWord d.toLower = true)
      (by decide +kernel)
  have hcapital : ∀ d : Char, d.toNat < 128 → d.isAlpha = true → isUppercase d.toUpper = true :=
    fun d => of_lt_128 (P := fun d => d.isAlpha = true → isUppercase d.toUpper = true)
      (by decide +kernel)
  obtain ⟨hlong, hletter⟩ := h
  constructor
  · cases w with
    | nil => exact absurd rfl hne
    | cons c cs =>
      rw [capitalize_of_latin fun d hd => (hw d hd).1, any_getLast?_cons, List.getLast?_map]
      cases hlast : cs.getLast? with
      | some d =>
        have hd := hw d (List.mem_cons_of_mem _ (List.mem_of_getLast? hlast))
        exact hsmall d hd.1 hd.2
      | none =>
        -- a word of one character is a digit here, and a digit has no capital
        have hnil := List.getLast?_eq_none_iff.mp hlast
        subst hnil
        have hc : c.isDigit = true := by simpa using hlong
        exact hdigit c (hw c List.mem_cons_self).1 hc
  · cases next with
    | nil => cases hletter
    | cons c cs =>
      rw [capitalize_of_latin hnext]
      exact hcapital c (hnext c List.mem_cons_self) hletter

/-- **The words of a tidy name are read back from its type name**, capitalized. -/
theorem words_pascalCase {name : String} (h : Tidy name) :
    words (pascalCase name) = (words name).map capitalize := by
  have hcapitalized : ∀ v ∈ (words name).map capitalize, Capitalized v := by
    intro v hv
    obtain ⟨w, hw, rfl⟩ := List.mem_map.mp hv
    exact capitalized_capitalize (ne_nil_of_mem_wordsFrom hw) (h.toNat_lt hw)
      (isWordChar_of_mem_words hw)
  have hchain : ((words name).map capitalize).IsChain Parted := by
    rw [List.isChain_map]
    refine List.IsChain.imp_of_mem_imp (fun w next hw hnext hapart => ?_) h.apart
    exact parted_capitalize hapart (ne_nil_of_mem_wordsFrom hw)
      (fun c hc => ⟨h.toNat_lt hw c hc, isWordChar_of_mem_words hw c hc⟩) (h.toNat_lt hnext)
  rw [words, pascalCase, String.toList_ofList, List.flatMap_def]
  exact words_flatten hcapitalized hchain

/-- A mark behind a name ends its last word and starts no other. -/
theorem wordsFrom_append_mark (cs : List Char) :
    ∀ current splits, wordsFrom current splits (cs ++ ['_']) = wordsFrom current splits cs := by
  have hmark : isAlphanumeric '_' = false := by decide
  induction cs with
  | nil =>
    intro current splits
    simp [wordsFrom, hmark, wordIfAny]
  | cons c cs ih =>
    intro current splits
    rw [List.cons_append, wordsFrom, wordsFrom, ih, ih, ih]

theorem startsWithDigit_pascalCase {name : String} (h : Tidy name) :
    startsWithDigit (pascalCase name) = false := by
  have hletter : ∀ d : Char, d.toNat < 128 → d.isAlpha = true → d.toUpper.isDigit = false :=
    fun d => of_lt_128 (P := fun d => d.isAlpha = true → d.toUpper.isDigit = false)
      (by decide +kernel)
  have hstart := h.start
  have hlatin := fun w hw => h.toNat_lt (w := w) hw
  rw [startsWithDigit, pascalCase, String.toList_ofList]
  cases hwords : words name with
  | nil => rfl
  | cons w ws =>
    rw [hwords] at hstart hlatin
    cases w with
    | nil => cases hstart
    | cons c cs =>
      have hcs := hlatin (c :: cs) List.mem_cons_self
      rw [List.flatMap_cons, capitalize_of_latin hcs]
      exact hletter c (hcs c List.mem_cons_self) hstart

/-- **The type of a tidy name has the same words as the name**, up to case. -/
theorem loweredWords_typeIdent {name : String} (h : Tidy name) :
    loweredWords (typeIdent name) = loweredWords name := by
  have hpascal : loweredWords (pascalCase name) = loweredWords name := by
    rw [loweredWords, words_pascalCase h, List.map_map, loweredWords]
    exact List.map_congr_left fun w hw => toLowercase_capitalize (h.toNat_lt hw)
  rw [typeIdent, startsWithDigit_pascalCase h, if_neg Bool.false_ne_true]
  split
  · -- the mark of a reserved name belongs to no word
    rw [← hpascal, loweredWords, loweredWords, words, String.toList_append]
    exact congrArg _ (wordsFrom_append_mark _ _ _)
  · exact hpascal

/-- **The module of a tidy name is its member.** -/
theorem memberIdent_typeIdent {name : String} (h : Tidy name) :
    memberIdent (typeIdent name) = memberIdent name :=
  memberIdent_eq_iff.mpr (loweredWords_typeIdent h)

end Name

end SchemaCompiler
