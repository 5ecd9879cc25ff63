import Mathlib.Data.List.Forall2
import SchemaCompiler.Proofs.Value.Display
import SchemaCompiler.Value.Record

/-!
# Records in queries

A record stands in a query as literals: the list of its values has a comma and a blank between each
two, the assignments of its key have a word. A text may hold commas, blanks and words of its own, so
literals have to be read from the left (`SchemaCompiler.Query.readLiteral`): one that opens with a
quote ends at the first quote that is not doubled, and any other runs up to the next separator or to
the end. Read this way, a literal says the text that its value displays, and reading stops right
behind it, whatever quotes and separators the value holds
(`SchemaCompiler.Query.readLiteral_literal`). A list of values is then read value by value
(`SchemaCompiler.Record.listLiterals_valueList`).

Whether a literal is quoted can be read off its first character (`isQuotedItem_literal`), and
depends only on the type of the field (`isQuoted_of_fits`): every record that can be reached holds
for each field a value that fits its type (`Reachable.fitting`).
-/

namespace SchemaCompiler

/-! ### Numerals -/

/-- The characters of numbers and truth values. -/
def Decimal.isNumeral (c : Char) : Bool :=
  c.isDigit || ['-', '.', 'N', 'a', 'i', 'n', 'f'].contains c

namespace Decimal

theorem isNumeral_of_isDigit {c : Char} (h : c.isDigit = true) : isNumeral c = true := by
  rw [isNumeral, h, Bool.true_or]

theorem isNumeral_of_mem_toDigits {n : Nat} {c : Char} (h : c ∈ Nat.toDigits 10 n) :
    isNumeral c = true :=
  isNumeral_of_isDigit (isDigit_of_mem_toDigits h)

theorem isNumeral_of_mem_ofInt {n : Int} {c : Char} (h : c ∈ (ofInt n).toList) :
    isNumeral c = true := by
  rw [toList_ofInt, List.mem_append] at h
  rcases h with hsign | hdigit
  · split at hsign
    · rw [List.mem_singleton.mp hsign]
      decide
    · exact absurd hsign List.not_mem_nil
  · exact isNumeral_of_mem_toDigits hdigit

theorem isNumeral_of_mem_positional {d : Digits} {c : Char} (h : c ∈ d.positional false) :
    isNumeral c = true := by
  have hzero : ∀ n : Nat, c ∈ List.replicate n '0' → isNumeral c = true := fun n hc => by
    rw [List.eq_of_mem_replicate hc]
    decide
  have hpoint : c = '.' → isNumeral c = true := fun hc => by
    rw [hc]
    decide
  simp only [Digits.positional, Bool.false_eq_true, if_false, List.append_nil] at h
  split_ifs at h
  · rw [List.mem_append] at h
    rcases h with hdigit | hpad
    · exact isNumeral_of_mem_toDigits hdigit
    · exact hzero _ hpad
  · simp only [List.mem_append, List.mem_singleton] at h
    rcases h with (hdigit | hdot) | hdigit
    · exact isNumeral_of_mem_toDigits (List.mem_of_mem_take hdigit)
    · exact hpoint hdot
    · exact isNumeral_of_mem_toDigits (List.mem_of_mem_drop hdigit)
  · simp only [List.mem_append, List.mem_cons, List.not_mem_nil, or_false] at h
    rcases h with ((hlead | hdot) | hpad) | hdigit
    · rw [hlead]
      decide
    · exact hpoint hdot
    · exact hzero _ hpad
    · exact isNumeral_of_mem_toDigits hdigit

theorem isNumeral_of_mem_signed {x : Binary64} {text : List Char}
    (htext : text.all isNumeral = true) {c : Char} (h : c ∈ (x.signed text).toList) :
    isNumeral c = true := by
  rw [List.all_eq_true] at htext
  rw [Binary64.signed, String.toList_ofList] at h
  split at h
  · rcases List.mem_cons.mp h with rfl | hrest
    · decide
    · exact htext c hrest
  · exact htext c h

theorem isNumeral_of_mem_plain {x : Binary64} {c : Char} (h : c ∈ x.plain.toList) :
    isNumeral c = true := by
  rw [Binary64.plain] at h
  split_ifs at h
  · have hall : "NaN".toList.all isNumeral = true := by decide
    exact List.all_eq_true.mp hall c h
  · exact isNumeral_of_mem_signed (by decide) h
  · exact isNumeral_of_mem_signed (by decide) h
  · refine isNumeral_of_mem_signed (List.all_eq_true.mpr fun c hc => ?_) h
    exact isNumeral_of_mem_positional hc

theorem signed_ne_nil {x : Binary64} {text : List Char} (h : text ≠ []) :
    (x.signed text).toList ≠ [] := by
  rw [Binary64.signed, String.toList_ofList]
  split
  · exact List.cons_ne_nil _ _
  · exact h

theorem plain_ne_nil (x : Binary64) : x.plain.toList ≠ [] := by
  rw [Binary64.plain]
  split_ifs
  · decide
  · exact signed_ne_nil (by decide)
  · exact signed_ne_nil (by decide)
  · refine signed_ne_nil ?_
    simp only [Digits.positional, Bool.false_eq_true, if_false, List.append_nil]
    split_ifs <;> simp [Nat.toDigits_ne_nil]

end Decimal

namespace FieldValue

/-- Whether a value is quoted in a query. -/
def isQuoted : FieldValue → Bool
  | .text _ | .bytes _ => true
  | _ => false

/-- **Values that are not quoted are made of numerals.** -/
theorem isNumeral_of_mem_display {v : FieldValue} (hv : v.isQuoted = false) {c : Char}
    (h : c ∈ v.display.toList) : Decimal.isNumeral c = true := by
  cases v with
  | int n => exact Decimal.isNumeral_of_mem_ofInt h
  | uint n =>
    rw [display, Decimal.toList_ofNat] at h
    exact Decimal.isNumeral_of_mem_toDigits h
  | float x => exact Decimal.isNumeral_of_mem_plain h
  | bool b =>
    have hall : (display (.bool b)).toList.all Decimal.isNumeral = true := by
      cases b <;> decide
    exact List.all_eq_true.mp hall c h
  | text s => cases hv
  | bytes bs => cases hv

theorem display_ne_nil {v : FieldValue} (hv : v.isQuoted = false) : v.display.toList ≠ [] := by
  cases v with
  | int n =>
    rw [display, Decimal.toList_ofInt]
    exact List.append_ne_nil_of_right_ne_nil _ Nat.toDigits_ne_nil
  | uint n =>
    rw [display, Decimal.toList_ofNat]
    exact Nat.toDigits_ne_nil
  | float x => exact Decimal.plain_ne_nil x
  | bool b => cases b <;> decide
  | text s => cases hv
  | bytes bs => cases hv

theorem toList_quoted (s : String) :
    (quoted s).toList = '\x27' :: (doubleQuotes s.toList ++ ['\x27']) := by
  rw [quoted, String.toList_ofList]
  rfl

end FieldValue

/-! ### Reading literals -/

namespace Query

/-- The text up to the quote that closes it, and what follows that quote. A quote that is followed
by another one closes nothing, and the two stand for one. -/
def readQuoted : List Char → Option (List Char × List Char)
  | [] => none
  | [c] => if c == '\x27' then some ([], []) else none
  | c :: d :: rest =>
    if c == '\x27' then
      if d == '\x27' then (readQuoted rest).map (Prod.map (c :: ·) id) else some ([], d :: rest)
    else (readQuoted (d :: rest)).map (Prod.map (c :: ·) id)

/-- The text up to the next separator or to the end, and what follows the text. -/
def readBare (separator : List Char) : List Char → List Char × List Char
  | [] => ([], [])
  | c :: rest =>
    if separator.isPrefixOf (c :: rest) then ([], c :: rest)
    else (c :: (readBare separator rest).1, (readBare separator rest).2)

/-- The text of the literal that opens a query, and what follows the literal. -/
def readLiteral (separator : List Char) : List Char → Option (List Char × List Char)
  | [] => none
  | c :: rest => if c == '\x27' then readQuoted rest else some (readBare separator (c :: rest))

theorem length_readQuoted {cs text rest : List Char} (h : readQuoted cs = some (text, rest)) :
    rest.length ≤ cs.length := by
  induction cs using readQuoted.induct generalizing text with
  | case1 => cases h
  | case2 c hc =>
    rw [readQuoted, if_pos hc] at h
    cases h
    exact Nat.zero_le _
  | case3 c hc =>
    rw [readQuoted, if_neg hc] at h
    cases h
  | case4 c d tail hc hd ih =>
    rw [readQuoted, if_pos hc, if_pos hd, Option.map_eq_some_iff] at h
    obtain ⟨⟨inner, after⟩, hread, heq⟩ := h
    cases heq
    exact (ih hread).trans (by simp only [List.length_cons]; omega)
  | case5 c d tail hc hd =>
    rw [readQuoted, if_pos hc, if_neg hd] at h
    cases h
    exact Nat.le_succ _
  | case6 c d tail hc ih =>
    rw [readQuoted, if_neg hc, Option.map_eq_some_iff] at h
    obtain ⟨⟨inner, after⟩, hread, heq⟩ := h
    cases heq
    exact (ih hread).trans (Nat.le_succ _)

theorem length_readBare (separator cs : List Char) :
    (readBare separator cs).2.length ≤ cs.length := by
  induction cs with
  | nil => exact le_rfl
  | cons c cs ih =>
    rw [readBare]
    split
    · exact le_rfl
    · exact ih.trans (Nat.le_succ _)

/-- What follows a literal is no longer than what was there. -/
theorem length_readLiteral {separator cs text rest : List Char}
    (h : readLiteral separator cs = some (text, rest)) : rest.length ≤ cs.length := by
  cases cs with
  | nil => cases h
  | cons c cs =>
    rw [readLiteral] at h
    split at h
    · exact (length_readQuoted h).trans (Nat.le_succ _)
    · have hbare := length_readBare separator (c :: cs)
      rwa [Option.some.inj h] at hbare

/-- A literal of a list. -/
structure Literal where
  /-- The literal as it stands there. -/
  written : String
  /-- The text that it says. -/
  text : String
deriving DecidableEq

/-- **The literals of a list.** There are none if anything is left that is neither a literal nor a
separator with a literal behind it. -/
def readList (cs : List Char) : Option (List Literal) :=
  match _h : readLiteral [',', ' '] cs with
  | some (text, []) => some [⟨String.ofList cs, String.ofList text⟩]
  | some (text, ',' :: ' ' :: rest) =>
    let written := cs.take (cs.length - (rest.length + 2))
    (readList rest).map (⟨String.ofList written, String.ofList text⟩ :: ·)
  | _ => none
termination_by cs.length
decreasing_by
  have hlength := length_readLiteral _h
  simp only [List.length_cons] at hlength
  omega

/-- The literals of a list, which may be empty. -/
def listLiterals (s : String) : Option (List Literal) :=
  if s.toList.isEmpty then some [] else readList s.toList

/-- The items of a list: its literals, as they stand there. -/
def listItems (s : String) : List String :=
  ((listLiterals s).getD []).map Literal.written

/-- Whether an item of a list is quoted. -/
def isQuotedItem (item : String) : Bool :=
  item.toList.head? == some '\x27'

theorem readList_of_readLiteral_nil {cs text : List Char}
    (h : readLiteral [',', ' '] cs = some (text, [])) :
    readList cs = some [⟨String.ofList cs, String.ofList text⟩] := by
  rw [readList]
  split <;> simp_all

theorem readList_of_readLiteral_cons {written text rest : List Char}
    (h : readLiteral [',', ' '] (written ++ ',' :: ' ' :: rest) = some (text, ',' :: ' ' :: rest)) :
    readList (written ++ ',' :: ' ' :: rest) =
      (readList rest).map (⟨String.ofList written, String.ofList text⟩ :: ·) := by
  have hwritten : (written ++ ',' :: ' ' :: rest).take
      ((written ++ ',' :: ' ' :: rest).length - (rest.length + 2)) = written :=
    List.take_left' (by simp only [List.length_append, List.length_cons]; omega)
  rw [readList]
  split <;> simp_all

/-- **A text with doubled quotes is read up to its end**, if no quote follows. -/
theorem readQuoted_doubleQuotes (cs : List Char) {rest : List Char} (h : '\x27' ∉ rest.head?) :
    readQuoted (FieldValue.doubleQuotes cs ++ '\x27' :: rest) = some (cs, rest) := by
  induction cs with
  | nil =>
    -- no quote follows the last one, so it closes the text
    cases rest with
    | nil => rfl
    | cons c rest =>
      have hc : c ≠ '\x27' := fun heq => h (heq ▸ rfl)
      simp [FieldValue.doubleQuotes, readQuoted, hc]
  | cons c cs ih =>
    rw [FieldValue.doubleQuotes, List.flatMap_cons, ← FieldValue.doubleQuotes, List.append_assoc]
    by_cases hquote : c = '\x27'
    · subst hquote
      simp [readQuoted, ih]
    · -- some character follows, be it only the quote at the end
      obtain ⟨d, tail, hcons⟩ := List.exists_cons_of_ne_nil
        (List.append_ne_nil_of_right_ne_nil (FieldValue.doubleQuotes cs)
          (List.cons_ne_nil '\x27' rest))
      rw [hcons] at ih
      simp [hquote, hcons, readQuoted, ih]

/-- What may follow a literal: nothing, or a separator. -/
def EndsLiteral (separator rest : List Char) : Prop :=
  rest = [] ∨ ∃ further, rest = separator ++ further

/-- What does not hold the first character of a separator is read up to the separator behind it. -/
theorem readBare_append {first : Char} {separator cs rest : List Char} (hcs : ∀ c ∈ cs, c ≠ first)
    (h : EndsLiteral (first :: separator) rest) :
    readBare (first :: separator) (cs ++ rest) = (cs, rest) := by
  induction cs with
  | nil =>
    rcases h with rfl | ⟨further, rfl⟩
    · rfl
    · rw [List.nil_append, List.cons_append, readBare, if_pos]
      exact List.isPrefixOf_iff_prefix.mpr (List.prefix_append (first :: separator) further)
  | cons c cs ih =>
    have hc : c ≠ first := hcs c List.mem_cons_self
    rw [List.cons_append, readBare, if_neg, ih fun d hd => hcs d (List.mem_cons_of_mem _ hd)]
    rw [List.isPrefixOf_iff_prefix, List.cons_prefix_cons]
    exact fun hprefix => hc hprefix.1.symm

end Query

/-! ### Literals -/

namespace FieldValue

open Query

/-- A number or truth value holds no character that is no numeral. -/
theorem ne_of_mem_display {v : FieldValue} (hv : v.isQuoted = false) {c d : Char}
    (hc : c ∈ v.display.toList) (hd : Decimal.isNumeral d = false) : c ≠ d := by
  rintro rfl
  rw [isNumeral_of_mem_display hv hc] at hd
  cases hd

theorem literal_of_not_quoted {v : FieldValue} (hv : v.isQuoted = false) :
    v.literal = v.display := by
  cases v with
  | text s => cases hv
  | bytes bs => cases hv
  | int n => rfl
  | uint n => rfl
  | float x => rfl
  | bool b => rfl

theorem literal_eq_quoted {v : FieldValue} (hv : v.isQuoted = true) :
    v.literal = quoted v.display := by
  cases v with
  | text s => rfl
  | bytes bs => rfl
  | int n => cases hv
  | uint n => cases hv
  | float x => cases hv
  | bool b => cases hv

/-- **The first character of a literal** tells whether the value is quoted. -/
theorem isQuotedItem_literal (v : FieldValue) : isQuotedItem v.literal = v.isQuoted := by
  cases hv : v.isQuoted with
  | true =>
    rw [isQuotedItem, literal_eq_quoted hv, toList_quoted]
    rfl
  | false =>
    obtain ⟨c, rest, hcons⟩ := List.exists_cons_of_ne_nil (display_ne_nil hv)
    have hquote : c ≠ '\x27' := ne_of_mem_display hv (hcons ▸ List.mem_cons_self) (by decide)
    rw [isQuotedItem, literal_of_not_quoted hv, hcons]
    simpa using hquote

/-- **Whether a value is quoted depends on its type only.** -/
theorem isQuoted_of_fits {v : FieldValue} {type : Primitive} (h : v.fits type.kind = true) :
    v.isQuoted = type.isQuoted := by
  rw [Primitive.isQuoted]
  generalize type.kind = kind at h
  cases v <;> cases kind <;> first | rfl | cases h

end FieldValue

namespace Query

/-- **A literal is read as what it displays**, and reading stops right behind it. -/
theorem readLiteral_literal (v : FieldValue) {first : Char} {separator rest : List Char}
    (hnumeral : Decimal.isNumeral first = false) (hquote : first ≠ '\x27')
    (h : EndsLiteral (first :: separator) rest) :
    readLiteral (first :: separator) (v.literal.toList ++ rest) =
      some (v.display.toList, rest) := by
  cases hv : v.isQuoted with
  | true =>
    have hnext : '\x27' ∉ rest.head? := by
      rcases h with rfl | ⟨further, rfl⟩ <;> simp [hquote]
    rw [FieldValue.literal_eq_quoted hv, FieldValue.toList_quoted, List.cons_append,
      List.append_assoc, readLiteral, if_pos (beq_self_eq_true _)]
    exact readQuoted_doubleQuotes _ hnext
  | false =>
    have hbare := readBare_append (fun c hc => FieldValue.ne_of_mem_display hv hc hnumeral) h
    obtain ⟨c, cs, hcons⟩ := List.exists_cons_of_ne_nil (FieldValue.display_ne_nil hv)
    have hopen : c ≠ '\x27' :=
      FieldValue.ne_of_mem_display hv (hcons ▸ List.mem_cons_self) (by decide)
    rw [hcons, List.cons_append] at hbare
    rw [FieldValue.literal_of_not_quoted hv, hcons, List.cons_append, readLiteral,
      if_neg (by simpa using hopen), hbare]

/-- **A list of literals is read value by value.** -/
theorem readList_intercalate (v : FieldValue) (vs : List FieldValue) :
    readList ([',', ' '].intercalate ((v :: vs).map fun w => w.literal.toList)) =
      some ((v :: vs).map fun w => ⟨w.literal, w.display⟩) := by
  have hread : ∀ v : FieldValue, ∀ rest, EndsLiteral [',', ' '] rest →
      readLiteral [',', ' '] (v.literal.toList ++ rest) = some (v.display.toList, rest) :=
    fun v _ => readLiteral_literal v (by decide) (by decide)
  induction vs generalizing v with
  | nil =>
    have hlast := hread v [] (Or.inl rfl)
    rw [List.append_nil] at hlast
    rw [List.map_singleton, List.intercalate_singleton, readList_of_readLiteral_nil hlast,
      List.map_singleton, String.ofList_toList, String.ofList_toList]
  | cons w vs ih =>
    have hrest := ih w
    rw [List.map_cons] at hrest
    have hfirst := hread v (',' :: ' ' :: [',', ' '].intercalate
      (w.literal.toList :: vs.map fun w => w.literal.toList)) (Or.inr ⟨_, rfl⟩)
    rw [List.map_cons, List.map_cons, List.intercalate_cons_cons, List.append_assoc,
      List.cons_append, List.cons_append, List.nil_append, readList_of_readLiteral_cons hfirst,
      hrest, Option.map_some, String.ofList_toList, String.ofList_toList]
    rfl

end Query

/-! ### Records -/

namespace Record

/-- **The records of a schema that can be reached**: fresh ones, those of rows, and those that arise
by assigning to a field. -/
inductive Reachable (m : FlatSchema) : Record → Prop
  /-- A fresh record. -/
  | new : Reachable m (Record.new m)
  /-- A record with a field assigned. -/
  | set {r r' : Record} (h : Reachable m r) {name : String} {value : FieldValue}
      (hset : r.set name value = .ok r') : Reachable m r'
  /-- The record of a row. -/
  | ofRow {row : List String} {r : Record} (hrow : Record.ofRow m row = .ok r) : Reachable m r

/-- A record that holds for each field of a schema a value that fits it. -/
structure Fitting (m : FlatSchema) (r : Record) : Prop where
  /-- The record is one of the schema. -/
  schema : r.schema = m
  /-- The values fit the fields. -/
  values : List.Forall₂ (fun f v => FieldValue.fits v f.type.kind = true) m.fields r.values

theorem fits_stored {f : Field} {value : FieldValue} (h : value.fits f.type.kind = true) :
    (stored f value).fits f.type.kind = true := by
  rw [stored.eq_def]
  split
  · next s capacity hcapacity =>
    generalize f.type.kind = kind at h
    cases kind <;> first | rfl | cases h
  · exact h

/-- Whatever holds of each field and its value still holds when a value is stored in a field that
takes it. -/
theorem forall₂_replace {R : Field → FieldValue → Prop} {name : String} {value : FieldValue}
    {fields : List Field} {values : List FieldValue} (h : List.Forall₂ R fields values)
    (hvalue : ∀ f, fields.find? (fun f => f.name == name) = some f → R f (stored f value)) :
    List.Forall₂ R fields (replace name value fields values) := by
  induction h with
  | nil => exact .nil
  | @cons f v fs vs hfv hrest ih =>
    rw [replace]
    cases hname : f.name == name with
    | true =>
      rw [if_pos rfl]
      exact .cons (hvalue f (by rw [List.find?_cons, hname])) hrest
    | false =>
      rw [if_neg Bool.false_ne_true]
      refine .cons hfv (ih fun g hg => hvalue g ?_)
      rw [List.find?_cons, hname, hg]

/-- An assignment that is taken gives the record afterwards. -/
theorem set_eq_ok_iff {r r' : Record} {name : String} {value : FieldValue} :
    r.set name value = .ok r' ↔ r.assign name value = (r', none) := by
  rw [set]
  rcases r.assign name value with ⟨after, _ | e⟩ <;> simp

/-- What an assignment does that succeeds: the field is there, takes the value, and stores it. -/
theorem set_eq_ok {r r' : Record} {name : String} {value : FieldValue}
    (h : r.set name value = .ok r') :
    ∃ f, r.schema.field? name = some f ∧ value.fits f.type.kind = true ∧
      r' = { r with values := replace name value r.schema.fields r.values } := by
  rw [set_eq_ok_iff, assign] at h
  cases hf : r.schema.field? name with
  | none =>
    rw [hf] at h
    cases h
  | some f =>
    rw [hf] at h
    dsimp only at h
    split_ifs at h with hfits
    · cases h
      exact ⟨f, rfl, hfits, rfl⟩
    · cases h

/-- Whatever holds of each field and the values read for it holds of the values of a row. -/
theorem forall₂_readValues {R : Field → FieldValue → Prop} {fields : List Field}
    {row : List String} {values : List FieldValue} (hlen : row.length = fields.length)
    (h : readValues fields row = .ok values)
    (hread : ∀ f ∈ fields, ∀ raw v, FieldValue.read? f.type.kind raw = some v → R f v) :
    List.Forall₂ R fields values := by
  induction fields generalizing row values with
  | nil =>
    rw [readValues.eq_def] at h
    cases h
    exact .nil
  | cons f fields ih =>
    cases row with
    | nil => exact absurd hlen (by simp)
    | cons raw row =>
      rw [readValues] at h
      cases hv : FieldValue.read? f.type.kind raw with
      | none =>
        rw [hv] at h
        cases h
      | some v =>
        rw [hv] at h
        dsimp only at h
        cases hrest : readValues fields row with
        | error e =>
          rw [hrest] at h
          cases h
        | ok vs =>
          rw [hrest] at h
          cases h
          exact .cons (hread f List.mem_cons_self raw v hv)
            (ih (Nat.succ.inj hlen) hrest fun g hg => hread g (List.mem_cons_of_mem _ hg))

/-- What is read from a row: it has a value for each field, and each of them is read. -/
theorem ofRow_eq_ok {m : FlatSchema} {row : List String} {r : Record}
    (h : Record.ofRow m row = .ok r) :
    row.length = m.fields.length ∧ r.schema = m ∧ readValues m.fields row = .ok r.values := by
  rw [Record.ofRow] at h
  split_ifs at h with hlen
  cases hread : readValues m.fields row with
  | error e =>
    rw [hread] at h
    cases h
  | ok values =>
    rw [hread] at h
    cases h
    exact ⟨by simpa using hlen, rfl, rfl⟩

/-- **What every record that can be reached holds.** A relation between fields and values holds of
all of them if it holds of initial values, of values that are stored and of values that are
read. -/
theorem Reachable.forall₂ {R : Field → FieldValue → Prop} {m : FlatSchema} {r : Record}
    (h : Reachable m r) (hnew : ∀ f ∈ m.fields, R f (.initial f.type.kind))
    (hset : ∀ f ∈ m.fields, ∀ v, FieldValue.fits v f.type.kind = true → R f (stored f v))
    (hrow : ∀ f ∈ m.fields, ∀ raw v, FieldValue.read? f.type.kind raw = some v → R f v) :
    r.schema = m ∧ List.Forall₂ R m.fields r.values := by
  induction h with
  | new =>
    refine ⟨rfl, ?_⟩
    rw [Record.new, List.forall₂_map_right_iff, List.forall₂_same]
    exact hnew
  | @set r r' _ name value hassigned ih =>
    obtain ⟨rfl, hvalues⟩ := ih
    obtain ⟨f, hf, hfits, rfl⟩ := set_eq_ok hassigned
    refine ⟨rfl, forall₂_replace hvalues fun g hg => ?_⟩
    -- the field that is found is the one whose type was looked at
    obtain rfl : f = g := Option.some.inj (hf.symm.trans hg)
    exact hset f (List.mem_of_find?_eq_some hg) value hfits
  | @ofRow row r hread =>
    obtain ⟨hlen, hschema, hvalues⟩ := ofRow_eq_ok hread
    exact ⟨hschema, forall₂_readValues hlen hvalues hrow⟩

/-- **Every record that can be reached holds fitting values.** -/
theorem Reachable.fitting {m : FlatSchema} {r : Record} (h : Reachable m r) : Fitting m r := by
  obtain ⟨hschema, hvalues⟩ := h.forall₂ (R := fun f v => v.fits f.type.kind = true)
    (fun f _ => FieldValue.fits_initial f.type.kind) (fun f _ v hv => fits_stored hv)
    (fun f _ raw v hv => (FieldValue.read?_eq_some.mp hv).2)
  exact ⟨hschema, hvalues⟩

/-! ### Values and assignments -/

open Query

/-- **The literals of the list of values**, one for each pair. -/
theorem listLiterals_valueList (r : Record) :
    listLiterals r.valueList = some (r.pairs.map fun p => ⟨p.2.literal, p.2.display⟩) := by
  have htext : r.valueList.toList =
      [',', ' '].intercalate ((r.pairs.map Prod.snd).map fun v => v.literal.toList) := by
    rw [valueList, String.toList_intercalate, List.map_map, List.map_map]
    rfl
  have hpairs : r.pairs.map (fun p => (⟨p.2.literal, p.2.display⟩ : Literal)) =
      (r.pairs.map Prod.snd).map fun v => ⟨v.literal, v.display⟩ := by
    rw [List.map_map]
    rfl
  rw [listLiterals, htext, hpairs]
  cases r.pairs.map Prod.snd with
  | nil => rfl
  | cons v vs =>
    have hread := readList_intercalate v vs
    have hne : [',', ' '].intercalate ((v :: vs).map fun w => w.literal.toList) ≠ [] := by
      intro hnil
      rw [hnil, readList] at hread
      cases hread
    rw [if_neg (by simpa using hne), hread]

theorem listItems_valueList (r : Record) :
    listItems r.valueList = r.pairs.map (fun p => p.2.literal) := by
  rw [listItems, listLiterals_valueList, Option.getD_some, List.map_map]
  rfl

/-- The pairs of a record go through the fields of its schema. -/
theorem Fitting.map_fst_pairs {m : FlatSchema} {r : Record} (h : Fitting m r) :
    r.pairs.map Prod.fst = m.fields := by
  rw [pairs, h.schema]
  exact List.map_fst_zip h.values.length_eq.le

theorem Fitting.fits_of_mem_pairs {m : FlatSchema} {r : Record} (h : Fitting m r)
    {p : Field × FieldValue} (hp : p ∈ r.pairs) : p.2.fits p.1.type.kind = true := by
  rw [pairs, h.schema] at hp
  exact (List.forall₂_iff_zip.mp h.values).2 hp

/-- **Each assignment is a column with the item of the list of values** in the same place. -/
theorem Fitting.assignmentList_eq {m : FlatSchema} {r : Record} (h : Fitting m r) :
    r.assignmentList = ", ".intercalate
      (List.zipWith (fun f item => f.column ++ " = " ++ item) m.fields
        (listItems r.valueList)) := by
  rw [assignmentList, listItems_valueList, ← h.map_fst_pairs, List.zipWith_map, List.zipWith_self]
  rfl

/-- The field of a name is the field of the pair of that name. -/
theorem Fitting.map_fst_pair? {m : FlatSchema} {r : Record} (h : Fitting m r) (name : String) :
    (r.pair? name).map Prod.fst = m.field? name := by
  rw [FlatSchema.field?, ← h.map_fst_pairs, List.find?_map]
  rfl

/-- **The assignments of the key** go through the key fields. -/
theorem Fitting.keyAssignments_eq {m : FlatSchema} {r : Record} (h : Fitting m r) :
    ∃ items, r.keyAssignments = " AND ".intercalate items ∧
      List.Forall₂ (fun (f : Field) item => ∃ v, r.get? f.name = some v ∧
        item = f.column ++ " = " ++ v.literal) m.keyFields items := by
  have hkeys : (r.schema.keys.filterMap r.pair?).map Prod.fst = m.keyFields := by
    rw [h.schema, FlatSchema.keyFields, FlatSchema.fieldsNamed, List.map_filterMap]
    exact List.filterMap_congr fun name _ => h.map_fst_pair? name
  refine ⟨_, rfl, ?_⟩
  rw [← hkeys, List.forall₂_map_left_iff, List.forall₂_map_right_iff, List.forall₂_same]
  intro p hp
  obtain ⟨name, -, hpair⟩ := List.mem_filterMap.mp hp
  -- a pair is found again under the name of its own field
  have hfound : (p.1.name == name) = true :=
    List.find?_some (p := fun p : Field × FieldValue => p.1.name == name) hpair
  have hname : p.1.name = name := beq_iff_eq.mp hfound
  exact ⟨p.2, by rw [get?, hname, hpair, Option.map_some], rfl⟩

end Record

end SchemaCompiler
