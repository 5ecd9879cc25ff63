import SchemaCompiler.Proofs.Name.FirstOccurrences
import SchemaCompiler.Proofs.Schema.Fields
import SchemaCompiler.Proofs.Value.Row

/-!
# Rows and assignments

A record can be read from a row at once, or start fresh and be given its values one by one. The two
ways convert and cut texts in their own order: a row reads each text and then looks whether the
value fits, an assignment looks whether the value fits and then cuts it. This file shows that they
agree (`SchemaCompiler.Record.ofRow_agrees_with_set`).

A row is refused for its length, or else for the first of its texts that is none of its field's
values (`SchemaCompiler.Record.FirstUnread`, `readValues_eq_error_iff`). Where it is not refused,
assigning what each text reads as gives the record of the row, *in whatever order* the fields come
(`foldlM_setRead`). The invariant of that run is that the record so far differs from the record of
the row only in fields that are still to come; an assignment takes its own field from them
(`get?_set_self`) and touches no other (`get?_set_of_ne`), and records that differ nowhere are the
same (`eq_of_get?`).
-/

namespace SchemaCompiler

theorem FlatSchema.field?_name {m : FlatSchema} (hnames : (m.fields.map Field.name).Nodup)
    {f : Field} (hf : f ∈ m.fields) : m.field? f.name = some f :=
  find?_name_eq_some hnames hf

namespace Record

/-! ### One assignment -/

theorem find?_zip_replace_self {name : String} {value : FieldValue} {fields : List Field}
    {values : List FieldValue} (hlen : values.length = fields.length) {f : Field}
    (hf : fields.find? (fun f => f.name == name) = some f) :
    (fields.zip (replace name value fields values)).find? (fun p => p.1.name == name) =
      some (f, stored f value) := by
  induction fields generalizing values with
  | nil => cases hf
  | cons g fields ih =>
    cases values with
    | nil => cases hlen
    | cons v values =>
      rw [replace]
      cases hname : g.name == name with
      | true =>
        rw [List.find?_cons, hname] at hf
        cases hf
        rw [if_pos rfl, List.zip_cons_cons, List.find?_cons, hname]
      | false =>
        rw [List.find?_cons, hname] at hf
        rw [if_neg Bool.false_ne_true, List.zip_cons_cons, List.find?_cons, hname]
        exact ih (Nat.succ.inj hlen) hf

theorem find?_zip_replace_of_ne {name other : String} (hne : other ≠ name) (value : FieldValue)
    (fields : List Field) (values : List FieldValue) :
    (fields.zip (replace name value fields values)).find? (fun p => p.1.name == other) =
      (fields.zip values).find? (fun p => p.1.name == other) := by
  induction fields generalizing values with
  | nil => rfl
  | cons g fields ih =>
    cases values with
    | nil => rfl
    | cons v values =>
      rw [replace]
      cases hname : g.name == name with
      | true =>
        -- the field that is replaced is passed over
        have hother : (g.name == other) = false := by
          rw [beq_iff_eq.mp hname]
          exact beq_eq_false_iff_ne.mpr hne.symm
        simp only [if_true, List.zip_cons_cons, List.find?_cons, hother]
      | false =>
        simp only [Bool.false_eq_true, if_false, List.zip_cons_cons, List.find?_cons, ih]

/-- **The field that is assigned to holds the value**, as it stores it. -/
theorem get?_set_self {m : FlatSchema} {r r' : Record} (hr : Fitting m r) {name : String}
    {value : FieldValue} (h : r.set name value = .ok r') :
    ∃ f, m.field? name = some f ∧ value.fits f.type.kind = true ∧
      r'.get? name = some (stored f value) := by
  obtain ⟨f, hf, hfits, rfl⟩ := set_eq_ok h
  obtain rfl := hr.schema
  refine ⟨f, hf, hfits, ?_⟩
  rw [get?, pair?, pairs, find?_zip_replace_self hr.values.length_eq.symm hf, Option.map_some]

/-- **Every other field holds what it held.** -/
theorem get?_set_of_ne {r r' : Record} {name other : String} (hne : other ≠ name)
    {value : FieldValue} (h : r.set name value = .ok r') : r'.get? other = r.get? other := by
  obtain ⟨f, -, -, rfl⟩ := set_eq_ok h
  rw [get?, get?, pair?, pair?, pairs, pairs, find?_zip_replace_of_ne hne]

/-- **An assignment is taken exactly if there is such a field and the value fits it.** -/
theorem exists_set_eq_ok_iff {m : FlatSchema} (hnames : (m.fields.map Field.name).Nodup)
    {r : Record} (hr : r.schema = m) {name : String} {value : FieldValue} :
    (∃ r', r.set name value = .ok r') ↔
      ∃ f ∈ m.fields, f.name = name ∧ value.fits f.type.kind = true := by
  constructor
  · rintro ⟨r', h⟩
    obtain ⟨f, hf, hfits, -⟩ := set_eq_ok h
    rw [hr] at hf
    obtain ⟨hmem, hname⟩ := FlatSchema.of_field?_eq_some hf
    exact ⟨f, hmem, hname, hfits⟩
  · rintro ⟨f, hf, rfl, hfits⟩
    refine ⟨{ r with values := replace f.name value r.schema.fields r.values },
      set_eq_ok_iff.mpr ?_⟩
    rw [assign, hr, FlatSchema.field?_name hnames hf]
    exact if_pos hfits

/-! ### Records that differ nowhere -/

/-- A field holds the value in its own place. -/
theorem Fitting.get?_getElem {m : FlatSchema} (hnames : (m.fields.map Field.name).Nodup)
    {r : Record} (hr : Fitting m r) {i : Nat} (hf : i < m.fields.length)
    (hv : i < r.values.length) : r.get? m.fields[i].name = some r.values[i] := by
  have hpairs : (r.pairs.map (fun p => p.1.name)).Nodup := by
    rw [← hr.map_fst_pairs, List.map_map] at hnames
    exact hnames
  have hmem : (m.fields[i], r.values[i]) ∈ r.pairs := by
    rw [pairs, hr.schema]
    refine List.mem_iff_getElem.mpr ⟨i, ?_, List.getElem_zip⟩
    rw [List.length_zip]
    exact lt_min hf hv
  rw [get?, pair?, find?_name_eq_some hpairs hmem, Option.map_some]

/-- **Records of a schema are the same if they hold the same in every field.** -/
theorem eq_of_get? {m : FlatSchema} (hnames : (m.fields.map Field.name).Nodup) {r s : Record}
    (hr : Fitting m r) (hs : Fitting m s) (h : ∀ f ∈ m.fields, r.get? f.name = s.get? f.name) :
    r = s := by
  have hvalues : r.values = s.values := by
    refine List.ext_getElem (hr.values.length_eq.symm.trans hs.values.length_eq)
      fun i hir his => ?_
    have hi : i < m.fields.length := hr.values.length_eq ▸ hir
    have hget := h m.fields[i] (List.getElem_mem hi)
    rw [hr.get?_getElem hnames hi hir, hs.get?_getElem hnames hi his] at hget
    exact Option.some.inj hget
  have hschema : r.schema = s.schema := hr.schema.trans hs.schema.symm
  cases r
  cases s
  rw [mk.injEq]
  exact ⟨hschema, hvalues⟩

/-! ### One row -/

/-- Whether the text of a field is one of its values. -/
def Reads (p : Field × String) : Prop :=
  ∃ v, FieldValue.read? p.1.type.kind p.2 = some v

/-- **The first text that is none of its field's values**: those before it all are. -/
def FirstUnread (texts : List (Field × String)) (p : Field × String) : Prop :=
  ∃ before after, texts = before ++ p :: after ∧ (∀ q ∈ before, Reads q) ∧ ¬Reads p

theorem not_reads_iff {p : Field × String} :
    ¬Reads p ↔ FieldValue.read? p.1.type.kind p.2 = none := by
  rw [Reads, ← Option.isSome_iff_exists, Option.not_isSome_iff_eq_none]

theorem firstUnread_cons_iff {q p : Field × String} {texts : List (Field × String)} :
    FirstUnread (q :: texts) p ↔ (p = q ∧ ¬Reads q) ∨ (Reads q ∧ FirstUnread texts p) := by
  constructor
  · rintro ⟨before, after, hsplit, hbefore, hp⟩
    cases before with
    | nil =>
      obtain ⟨rfl, -⟩ := List.cons.inj hsplit
      exact Or.inl ⟨rfl, hp⟩
    | cons first before =>
      obtain ⟨rfl, rfl⟩ := List.cons.inj hsplit
      obtain ⟨hfirst, hrest⟩ := List.forall_mem_cons.mp hbefore
      exact Or.inr ⟨hfirst, before, after, rfl, hrest, hp⟩
  · rintro (⟨rfl, hp⟩ | ⟨hq, before, after, rfl, hbefore, hp⟩)
    · exact ⟨[], texts, rfl, fun _ h => absurd h List.not_mem_nil, hp⟩
    · exact ⟨q :: before, after, rfl, List.forall_mem_cons.mpr ⟨hq, hbefore⟩, hp⟩

/-- **Reading fails at the first text that is none of its field's values**, and tells the field and
the text. -/
theorem readValues_eq_error_iff {fields : List Field} {row : List String} {e : DecodeError} :
    readValues fields row = .error e ↔
      ∃ p, FirstUnread (fields.zip row) p ∧ e = .invalidValue p.1.name p.2 := by
  have hnil : ¬∃ p, FirstUnread [] p ∧ e = .invalidValue p.1.name p.2 := by
    rintro ⟨p, ⟨before, after, hsplit, -⟩, -⟩
    exact List.append_ne_nil_of_right_ne_nil before (List.cons_ne_nil p after) hsplit.symm
  induction fields generalizing row with
  | nil => exact iff_of_false (by simp [readValues]) hnil
  | cons f fields ih =>
    cases row with
    | nil => exact iff_of_false (by simp [readValues]) hnil
    | cons raw row =>
      simp only [readValues, List.zip_cons_cons, firstUnread_cons_iff]
      cases hread : FieldValue.read? f.type.kind raw with
      | none =>
        have hunread : ¬Reads (f, raw) := not_reads_iff.mpr hread
        simp only [hunread, not_false_eq_true, and_true, false_and, or_false, exists_eq_left,
          Except.error.injEq, eq_comm]
      | some v =>
        have hreads : Reads (f, raw) := ⟨v, hread⟩
        simp only [hreads, not_true_eq_false, and_false, false_or, true_and, ← ih]
        cases readValues fields row <;> simp

/-- Where every text is one of its field's values, these values are read. -/
theorem readValues_eq_ok {fields : List Field} {row : List String}
    (h : ∀ p ∈ fields.zip row, Reads p) :
    ∃ values, readValues fields row = .ok values ∧
      List.Forall₂ (fun p v => FieldValue.read? p.1.type.kind p.2 = some v) (fields.zip row)
        values := by
  induction fields generalizing row with
  | nil => exact ⟨[], by simp [readValues], .nil⟩
  | cons f fields ih =>
    cases row with
    | nil => exact ⟨[], by simp [readValues], .nil⟩
    | cons raw row =>
      rw [List.zip_cons_cons] at h ⊢
      obtain ⟨⟨v, hv⟩, hrest⟩ := List.forall_mem_cons.mp h
      obtain ⟨values, hvalues, hread⟩ := ih hrest
      exact ⟨v :: values, by rw [readValues, hv, hvalues], .cons hv hread⟩

/-- **The record of a row holds in each field what its text reads as.** -/
theorem exists_ofRow_eq_ok {m : FlatSchema} (hnames : (m.fields.map Field.name).Nodup)
    {row : List String} (hlen : row.length = m.fields.length)
    (h : ∀ p ∈ m.fields.zip row, Reads p) :
    ∃ r, ofRow m row = .ok r ∧ Fitting m r ∧ ∀ p ∈ m.fields.zip row,
      ∃ v, FieldValue.read? p.1.type.kind p.2 = some v ∧ r.get? p.1.name = some v := by
  obtain ⟨values, hvalues, hread⟩ := readValues_eq_ok h
  have hrow : ofRow m row = .ok ⟨m, values⟩ := by
    rw [ofRow, if_neg (by simpa using hlen), hvalues]
  have hfitting : Fitting m ⟨m, values⟩ := (Reachable.ofRow hrow).fitting
  refine ⟨⟨m, values⟩, hrow, hfitting, fun p hp => ?_⟩
  obtain ⟨i, hi, rfl⟩ := List.mem_iff_getElem.mp hp
  have hvalue : i < values.length := hread.length_eq ▸ hi
  have hfield : i < m.fields.length := hfitting.values.length_eq ▸ hvalue
  refine ⟨values[i], hread.get hi hvalue, ?_⟩
  rw [List.getElem_zip]
  exact hfitting.get?_getElem hnames hfield hvalue

/-! ### Row and assignments -/

/-- Assigns to a field what a text reads as. -/
def setRead (r : Record) (p : Field × String) : Except DecodeError Record :=
  match FieldValue.read? p.1.type.kind p.2 with
  | some v => r.set p.1.name v
  | none => .error (.invalidValue p.1.name p.2)

/-- What a field reads from a text it takes, and holds unchanged. -/
theorem exists_setRead_eq_ok {m : FlatSchema} (hnames : (m.fields.map Field.name).Nodup)
    {r : Record} (hr : Reachable m r) {p : Field × String} (hp : p.1 ∈ m.fields) {v : FieldValue}
    (hv : FieldValue.read? p.1.type.kind p.2 = some v) :
    ∃ r', setRead r p = .ok r' ∧ Reachable m r' ∧ r'.get? p.1.name = some v ∧
      ∀ other, other ≠ p.1.name → r'.get? other = r.get? other := by
  have hfits : v.fits p.1.type.kind = true := (FieldValue.read?_eq_some.mp hv).2
  obtain ⟨r', hset⟩ :=
    (exists_set_eq_ok_iff hnames hr.fitting.schema).mpr ⟨p.1, hp, rfl, hfits⟩
  obtain ⟨f, hf, -, hself⟩ := get?_set_self hr.fitting hset
  -- the field that is found is the one that the text was read for
  obtain rfl : p.1 = f := Option.some.inj ((FlatSchema.field?_name hnames hp).symm.trans hf)
  rw [stored_of_read? hv] at hself
  exact ⟨r', by rw [setRead, hv]; exact hset, hr.set hset, hself,
    fun other hne => get?_set_of_ne hne hset⟩

/-- **The run of assignments.** If a record differs from `target` only in fields that are still to
come, and `target` holds in each of them what its text reads as, then the assignments all succeed
and lead to `target`. -/
theorem foldlM_setRead {m : FlatSchema} (hnames : (m.fields.map Field.name).Nodup)
    {target : Record} (htarget : Fitting m target) {order : List (Field × String)}
    (horder : ∀ p ∈ order, p.1 ∈ m.fields ∧
      ∃ v, FieldValue.read? p.1.type.kind p.2 = some v ∧ target.get? p.1.name = some v)
    {r : Record} (hr : Reachable m r)
    (hrest : ∀ f ∈ m.fields, f.name ∉ order.map (fun p => p.1.name) →
      r.get? f.name = target.get? f.name) :
    order.foldlM setRead r = .ok target := by
  induction order generalizing r with
  | nil =>
    have hsame := eq_of_get? hnames hr.fitting htarget fun f hf => hrest f hf List.not_mem_nil
    rw [List.foldlM_nil, hsame]
    rfl
  | cons p order ih =>
    obtain ⟨⟨hp, v, hv, hheld⟩, hothers⟩ := List.forall_mem_cons.mp horder
    obtain ⟨r', hset, hr', hself, hne⟩ := exists_setRead_eq_ok hnames hr hp hv
    rw [List.foldlM_cons, hset]
    refine ih hothers hr' fun f hf hnot => ?_
    by_cases hname : f.name = p.1.name
    · rw [hname, hself, hheld]
    · rw [hne f.name hname]
      refine hrest f hf fun hmem => ?_
      rcases List.mem_cons.mp hmem with heq | hlater
      · exact hname heq
      · exact hnot hlater

/-- **What becomes of a row.** -/
structure Decodes (m : FlatSchema) (row : List String) : Prop where
  /-- It is refused for its length exactly if that is not the number of fields. -/
  count : ∀ expected actual, ofRow m row = .error (.fieldCount expected actual) ↔
    row.length ≠ m.fields.length ∧ expected = m.fields.length ∧ actual = row.length
  /-- Otherwise it is refused for its first text that is none of its field's values. -/
  invalid : ∀ name raw, ofRow m row = .error (.invalidValue name raw) ↔
    row.length = m.fields.length ∧
      ∃ f, FirstUnread (m.fields.zip row) (f, raw) ∧ f.name = name
  /-- Otherwise it is a record, and assigning to each field of a fresh record what its text reads
  as succeeds and gives the same record, in any order. -/
  record : row.length = m.fields.length → (∀ p ∈ m.fields.zip row, Reads p) →
    ∃ r, ofRow m row = .ok r ∧ ∀ order : List (Field × String), order.Perm (m.fields.zip row) →
      order.foldlM setRead (Record.new m) = .ok r

/-- **What a field holds once a value is assigned to it.** -/
structure Holds (f : Field) (value held : FieldValue) : Prop where
  /-- The value fits the type of the field. -/
  fits : held.fits f.type.kind = true
  /-- It is the value itself, where the type does not bound the length of texts. -/
  whole : f.type.capacity? = none → held = value
  /-- Otherwise it is the value cut to the capacity, and takes no more bytes than that. -/
  cut : ∀ capacity, f.type.kind = .fixedText capacity →
    ∃ s, value = .text s ∧ held = .text (Text.truncate capacity s) ∧
      (Text.encode (Text.truncate capacity s)).length ≤ capacity

/-- **What an assignment does.** -/
structure Assigns (m : FlatSchema) (r : Record) (name : String) (value : FieldValue) : Prop where
  /-- It is taken exactly if there is such a field and the value fits it. -/
  taken : (r.assign name value).2 = none ↔
    ∃ f ∈ m.fields, f.name = name ∧ value.fits f.type.kind = true
  /-- If it is refused, the record is the same as before. -/
  refused : ∀ e, (r.assign name value).2 = some e → (r.assign name value).1 = r
  /-- If it is taken, the field of that name holds the value. -/
  own : (r.assign name value).2 = none →
    ∃ f ∈ m.fields, f.name = name ∧
      ∃ held, (r.assign name value).1.get? name = some held ∧ Holds f value held
  /-- Every other field holds what it held. -/
  other : ∀ f ∈ m.fields, f.name ≠ name →
    (r.assign name value).1.get? f.name = r.get? f.name
  /-- The record stays one of the schema. -/
  fitting : Fitting m (r.assign name value).1

/-- **An assignment that is refused leaves the record as it was.** -/
theorem assign_fst_of_refused {r : Record} {name : String} {value : FieldValue} {e : DecodeError}
    (h : (r.assign name value).2 = some e) : (r.assign name value).1 = r := by
  rw [assign] at h ⊢
  cases hf : r.schema.field? name with
  | none => rfl
  | some f =>
    rw [hf] at h
    dsimp only at h ⊢
    by_cases hfits : value.fits f.type.kind = true
    · rw [if_pos hfits] at h
      cases h
    · rw [if_neg hfits]

theorem holds_stored {f : Field} {value : FieldValue} (h : value.fits f.type.kind = true) :
    Holds f value (stored f value) where
  fits := fits_stored h
  whole := fun hcapacity => stored_of_capacity?_eq_none hcapacity value
  cut := by
    intro capacity hkind
    rw [hkind] at h
    cases value with
    | text s => exact ⟨s, rfl, stored_text hkind s, Text.length_encode_truncate capacity s⟩
    | _ => cases h

/-- **Every assignment to a record that can be reached.** -/
theorem assigns {m : FlatSchema} (hnames : (m.fields.map Field.name).Nodup) {r : Record}
    (hr : Reachable m r) (name : String) (value : FieldValue) : Assigns m r name value := by
  have htaken : (∃ r', r.set name value = .ok r') ↔
      ∃ f ∈ m.fields, f.name = name ∧ value.fits f.type.kind = true :=
    exists_set_eq_ok_iff hnames hr.fitting.schema
  rcases hassign : r.assign name value with ⟨after, _ | e⟩
  · have hset := set_eq_ok_iff.mpr hassign
    obtain ⟨f, hf, hfits, hself⟩ := get?_set_self hr.fitting hset
    obtain ⟨hmem, hname⟩ := FlatSchema.of_field?_eq_some hf
    constructor
    · rw [hassign, ← htaken]
      exact iff_of_true rfl ⟨after, hset⟩
    · exact fun e => assign_fst_of_refused
    · intro _
      rw [hassign]
      exact ⟨f, hmem, hname, stored f value, hself, holds_stored hfits⟩
    · intro g _ hne
      rw [hassign]
      exact get?_set_of_ne hne hset
    · rw [hassign]
      exact (hr.set hset).fitting
  · have hsame : (r.assign name value).1 = r := assign_fst_of_refused (by rw [hassign])
    constructor
    · rw [← htaken]
      simp only [set_eq_ok_iff, hassign]
      simp
    · exact fun e => assign_fst_of_refused
    · intro hnone
      rw [hassign] at hnone
      cases hnone
    · exact fun _ _ _ => by rw [hsame]
    · rw [hsame]
      exact hr.fitting

/-- **Every row.** -/
theorem decodes {m : FlatSchema} (hnames : (m.fields.map Field.name).Nodup) (row : List String) :
    Decodes m row := by
  by_cases hlen : row.length = m.fields.length
  · have hrow : ∀ e, ofRow m row = .error e ↔ readValues m.fields row = .error e := by
      intro e
      rw [ofRow, if_neg (by simpa using hlen)]
      cases readValues m.fields row <;> simp
    constructor
    · intro expected actual
      rw [hrow, readValues_eq_error_iff]
      simp [hlen]
    · intro name raw
      rw [hrow, readValues_eq_error_iff]
      constructor
      · rintro ⟨⟨f, text⟩, hfirst, heq⟩
        cases heq
        exact ⟨hlen, f, hfirst, rfl⟩
      · rintro ⟨-, f, hfirst, rfl⟩
        exact ⟨(f, raw), hfirst, rfl⟩
    · intro _ hreads
      obtain ⟨r, hr, hfitting, hheld⟩ := exists_ofRow_eq_ok hnames hlen hreads
      refine ⟨r, hr, fun order horder => foldlM_setRead hnames hfitting ?_ .new ?_⟩
      · intro p hp
        have hmem := horder.mem_iff.mp hp
        exact ⟨(List.of_mem_zip hmem).1, hheld p hmem⟩
      · -- every field comes, so there is none in which the fresh record may stay
        intro f hf hnot
        have hfields : (m.fields.zip row).map Prod.fst = m.fields := List.map_fst_zip hlen.ge
        rw [← hfields] at hf
        obtain ⟨p, hp, rfl⟩ := List.mem_map.mp hf
        exact absurd (List.mem_map.mpr ⟨p, horder.mem_iff.mpr hp, rfl⟩) hnot
  · have hrow : ofRow m row = .error (.fieldCount m.fields.length row.length) := by
      rw [ofRow, if_pos (by simpa using hlen)]
    constructor
    · intro expected actual
      rw [hrow]
      simp [hlen, eq_comm]
    · intro name raw
      rw [hrow]
      simp [hlen]
    · exact fun h => absurd h hlen

/-- **Reading a row and assigning its values agree**, for the schema of every flat unit: every row
is refused for its length, or else for its first text that is none of its field's values, or else
gives the record that assigning these values to a fresh one gives, in any order. And every
assignment to a record, reached by any fresh start, assignments and rows, changes nothing but the
field that it names, and nothing at all if it is refused. -/
theorem ofRow_agrees_with_set (unit : FlatUnit) :
    (∀ row, Decodes (FlatSchema.build unit).schema row) ∧
      ∀ r, Reachable (FlatSchema.build unit).schema r →
        ∀ name value, Assigns (FlatSchema.build unit).schema r name value := by
  have hnames := (FlatSchema.sound_build unit).names
  exact ⟨decodes hnames, fun r hr name value => assigns hnames hr name value⟩

/-- A row of a hero, with a name that is cut inside its bytes. -/
def heroRow : List String :=
  ["Zoë€", " -128", "+7", "true", " it\x27s ", ""]

/-- A hero is read from its row and assigned from the last field to the first, and no hero takes a
level beyond a byte. -/
theorem ofRow_agrees_with_set_hero :
    (∃ r, Record.ofRow heroSchema heroRow = .ok r ∧
      (heroSchema.fields.zip heroRow).reverse.foldlM setRead (Record.new heroSchema) = .ok r) ∧
      ∀ r, Reachable heroSchema r → (r.assign "level" (.int 128)).1 = r := by
  obtain ⟨hrows, hassigns⟩ := ofRow_agrees_with_set heroUnit
  constructor
  · have hreads : ∀ p ∈ heroSchema.fields.zip heroRow,
        (FieldValue.read? p.1.type.kind p.2).isSome = true := by decide
    obtain ⟨r, hrow, horder⟩ := (hrows heroRow).record (by decide)
      fun p hp => Option.isSome_iff_exists.mp (hreads p hp)
    exact ⟨r, hrow, horder _ (List.reverse_perm _)⟩
  · intro r hr
    have hlevel := hassigns r hr "level" (.int 128)
    have hnone : ¬∃ f ∈ heroSchema.fields, f.name = "level" ∧
        FieldValue.fits (.int 128) f.type.kind = true := by decide
    obtain ⟨e, he⟩ := Option.ne_none_iff_exists'.mp fun h => hnone (hlevel.taken.mp h)
    exact hlevel.refused e he

end Record

end SchemaCompiler
