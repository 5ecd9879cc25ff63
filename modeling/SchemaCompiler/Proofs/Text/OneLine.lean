import SchemaCompiler.Profile
import SchemaCompiler.Proofs.Decimal.Integer
import SchemaCompiler.Proofs.Name.Path
import SchemaCompiler.Proofs.Text.Trim
import SchemaCompiler.Proofs.TypeName
import SchemaCompiler.Text.CaseMap
import SchemaCompiler.Text.Quoted

/-!
# Texts of one line

A text that is put into a line of generated code leaves it one line if it has no line feed. Some
texts never have one, whatever they are made from: identifiers, numbers, quoted texts. Others have
one only where they take it from: capitals from the text itself
(`SchemaCompiler.Text.feed_mem_toUppercase_iff`), a module path from its template, joined texts from
their parts. The words that artifacts use for a type have none (`SchemaCompiler.Primitive.OneLine`),
and those of a profile have to be asked for (`SchemaCompiler.Profile.OneLine`).
-/

namespace SchemaCompiler

namespace Text

/-! ### Capitals -/

theorem ofNat_ne_feed {n : Nat} (h : n ≠ 10) : Char.ofNat n ≠ '\n' := by
  intro heq
  by_cases hvalid : n.isValidChar
  · rw [Char.ofNat, dif_pos hvalid] at heq
    exact h (congrArg Char.toNat heq)
  · rw [Char.ofNat, dif_neg hvalid] at heq
    cases heq

/-- No character but the line feed has a line feed in its capital form. -/
theorem feed_notMem_upperForm {c : Char} (h : c ≠ '\n') : '\n' ∉ upperForm c := by
  have hshifts : ∀ s ∈ upperShifts, 10 < s.target := by decide +kernel
  have hexpansions : ∀ e ∈ upperExpansions, ∀ n ∈ e.2, n ≠ 10 := by decide +kernel
  rw [upperForm]
  split
  · rename_i hlatin
    have hupper : c.toUpper ≠ '\n' :=
      of_lt_128 (P := fun c => c ≠ '\n' → c.toUpper ≠ '\n') (by decide +kernel) hlatin h
    exact fun hmem => hupper (List.mem_singleton.mp hmem).symm
  · rw [mapCase]
    split
    · rename_i s hs
      have htarget := hshifts s (List.mem_of_find?_eq_some hs)
      exact fun hmem => ofNat_ne_feed (by omega) (List.mem_singleton.mp hmem).symm
    · split
      · rename_i e he
        intro hmem
        obtain ⟨n, hn, heq⟩ := List.mem_map.mp hmem
        exact ofNat_ne_feed (hexpansions e (List.mem_of_find?_eq_some he) n hn) heq
      · exact fun hmem => h (List.mem_singleton.mp hmem).symm

/-- **Capitals have a line feed exactly where the text has one.** -/
@[simp] theorem feed_mem_toUppercase_iff {s : String} :
    '\n' ∈ (toUppercase s).toList ↔ '\n' ∈ s.toList := by
  rw [toUppercase, String.toList_ofList, List.mem_flatMap]
  constructor
  · rintro ⟨c, hc, hmem⟩
    by_cases hfeed : c = '\n'
    · exact hfeed ▸ hc
    · exact absurd hmem (feed_notMem_upperForm hfeed)
  · exact fun h => ⟨'\n', h, by decide⟩

/-! ### Quoted texts -/

theorem digitChar_ne_feed (d : Nat) : Nat.digitChar d ≠ '\n' := by
  by_cases h : d < 16
  · exact (by decide : ∀ d < 16, Nat.digitChar d ≠ '\n') d h
  · have hstar : Nat.digitChar d = '*' := by
      rw [Nat.digitChar]
      repeat rw [if_neg (by omega)]
    rw [hstar]
    decide

theorem feed_notMem_toDigitsCore {base fuel : Nat} :
    ∀ {n : Nat} {ds : List Char}, '\n' ∉ ds → '\n' ∉ Nat.toDigitsCore base fuel n ds := by
  induction fuel with
  | zero => exact fun h => h
  | succ fuel ih =>
    intro n ds h
    have hcons : '\n' ∉ (n % base).digitChar :: ds :=
      fun hmem => (List.mem_cons.mp hmem).elim (digitChar_ne_feed _).symm h
    rw [Nat.toDigitsCore]
    split
    · exact hcons
    · exact ih hcons

@[simp] theorem feed_notMem_toDigits (base n : Nat) : '\n' ∉ Nat.toDigits base n :=
  feed_notMem_toDigitsCore List.not_mem_nil

theorem feed_notMem_escapeChar (c : Char) : '\n' ∉ escapeChar c := by
  unfold escapeChar
  split <;> try decide
  rename_i hfeed _ _
  split
  · simp [escapeByNumber]
  · exact fun hmem => hfeed (List.mem_singleton.mp hmem).symm

/-- **A quoted text has no line feed.** -/
@[simp] theorem feed_notMem_quote (s : String) : '\n' ∉ (quote s).toList := by
  simp [quote, feed_notMem_escapeChar]

/-! ### Joined and replaced texts -/

/-- Joined texts have no line feed if neither the parts nor what joins them have one. -/
theorem feed_notMem_intercalate {joint : String} {parts : List String}
    (hjoint : '\n' ∉ joint.toList) (h : ∀ s ∈ parts, '\n' ∉ s.toList) :
    '\n' ∉ (joint.intercalate parts).toList := by
  rw [String.toList_intercalate]
  induction parts with
  | nil => exact List.not_mem_nil
  | cons first parts ih =>
    obtain ⟨hfirst, hparts⟩ := List.forall_mem_cons.mp h
    cases parts with
    | nil => simpa using hfirst
    | cons second parts =>
      rw [List.map_cons, List.map_cons, List.intercalate_cons_cons, ← List.map_cons]
      simp only [List.mem_append, not_or]
      exact ⟨⟨hfirst, hjoint⟩, ih hparts⟩

theorem feed_notMem_replaceFrom {pattern replacement : List Char} (h : '\n' ∉ replacement)
    {skip : Nat} {cs : List Char} (hcs : '\n' ∉ cs) :
    '\n' ∉ replaceFrom pattern replacement skip cs := by
  induction cs generalizing skip with
  | nil =>
    cases skip <;> exact List.not_mem_nil
  | cons c cs ih =>
    obtain ⟨hc, hrest⟩ := not_or.mp (mt List.mem_cons.mpr hcs)
    cases skip with
    | succ skip => exact ih hrest
    | zero =>
      rw [replaceFrom]
      split
      · exact fun hmem => (List.mem_append.mp hmem).elim h (ih hrest)
      · exact fun hmem => (List.mem_cons.mp hmem).elim hc (ih hrest)

end Text

/-! ### Names -/

namespace Name

theorem IsIdent.feed_notMem {s : String} (h : IsIdent s) : '\n' ∉ s.toList :=
  h.not_mem rfl

@[simp] theorem feed_notMem_memberIdent (name : String) : '\n' ∉ (memberIdent name).toList :=
  (isIdent_memberIdent name).feed_notMem

end Name

/-! ### Types -/

/-- The words for a type have no line feeds. -/
structure Primitive.OneLine (p : Primitive) : Prop where
  /-- The type of a member. -/
  repr : '\n' ∉ p.repr.toList
  /-- The type of a message field. -/
  wire : '\n' ∉ p.wire.toList
  /-- The definition of a column. -/
  storage : '\n' ∉ p.storage.toList
  /-- The literal that a fresh member starts from. -/
  initial : '\n' ∉ p.initial.toList

/-- **The words for a type have no line feeds**, whatever name it was found under. -/
theorem Primitive.oneLine_of_resolve? {typeName : String} {p : Primitive}
    (h : resolve? typeName = some p) : p.OneLine := by
  have hregistry : ∀ p ∈ registry, ('\n' ∉ p.repr.toList ∧ '\n' ∉ p.wire.toList) ∧
      '\n' ∉ p.storage.toList ∧ '\n' ∉ p.initial.toList := by decide +kernel
  rw [resolve?, lookup?] at h
  split at h
  · rename_i q hq
    cases h
    obtain ⟨⟨hrepr, hwire⟩, hstorage, hinitial⟩ := hregistry p (List.mem_of_find?_eq_some hq)
    exact ⟨hrepr, hwire, hstorage, hinitial⟩
  · obtain ⟨n, -, rfl⟩ := Option.map_eq_some_iff.mp h
    constructor <;> simp [bounded]

/-! ### Profiles -/

namespace Profile

/-- The texts of a profile have no line feeds. -/
structure OneLine (p : Profile) : Prop where
  /-- The module of the storage runtime. -/
  storageRuntime : '\n' ∉ p.storageRuntime.toList
  /-- The module of the document runtime. -/
  documentRuntime : '\n' ∉ p.documentRuntime.toList
  /-- The module of record types. -/
  recordModule : '\n' ∉ p.recordModule.toList
  /-- The module of messages. -/
  protoModule : '\n' ∉ p.protoModule.toList
  /-- The package of messages. -/
  protoPackage : '\n' ∉ p.protoPackage.toList
  /-- The traits that are derived. -/
  derives : ∀ name ∈ p.derives, '\n' ∉ name.toList
  /-- What stands behind a table. -/
  tableOptions : '\n' ∉ p.tableOptions.toList

theorem oneLine_default : OneLine {} := by
  constructor <;> decide

theorem feed_notMem_expand {template : String} (h : '\n' ∉ template.toList) (unit : String) :
    '\n' ∉ (expand template unit).toList := by
  rw [expand, Text.replaceAll, if_neg (by decide), String.toList_ofList]
  exact Text.feed_notMem_replaceFrom (Name.isIdent_snakeCase unit).feed_notMem h

section

variable {p : Profile}

theorem OneLine.recordModuleFor (h : p.OneLine) (unit : String) :
    '\n' ∉ (p.recordModuleFor unit).toList :=
  feed_notMem_expand h.recordModule unit

theorem OneLine.deriveAttribute? (h : p.OneLine) {text : String}
    (htext : p.deriveAttribute? = some text) : '\n' ∉ text.toList := by
  rw [Profile.deriveAttribute?] at htext
  split at htext
  · cases htext
  · cases htext
    have hjoined := @Text.feed_notMem_intercalate ", " p.derives (by decide) h.derives
    simp only [String.toList_append, List.mem_append, hjoined, or_false, not_or]
    decide

end

end Profile

end SchemaCompiler
