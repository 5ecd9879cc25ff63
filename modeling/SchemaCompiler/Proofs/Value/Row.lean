import SchemaCompiler.Proofs.Value.Query

/-!
# Records read back from their rows

A record is written as a row, one text for each field, and a row is read as a record. Reading back
what was written gives the same record (`SchemaCompiler.Record.ofRow_toRow`), whatever assignments
and rows the record came from, as long as it holds no floating-point numbers and its bytes are the
bytes of texts.

For each field this is `FieldValue.read?_display`, which asks for an exact value, and exactness is
what the history of the record provides. That the value fits its type is known of every record that
can be reached; that a bounded text has been cut is the same as saying that *storing the value
again changes nothing* (`stored_initial`, `stored_stored`, `stored_of_read?`), and this too is kept
by everything that makes records. Only the width of a word is left to the values themselves: a
value never holds an integer beyond it (`SchemaCompiler.FieldValue.InWord`).
-/

namespace SchemaCompiler

/-- The bytes of some text. -/
def Text.IsUtf8 (bytes : List UInt8) : Prop :=
  ∃ s, encode s = bytes

namespace FieldValue

/-- **The integers that values hold at all**: signed and unsigned words of 64 bits. -/
def InWord : FieldValue → Prop
  | .int n => -(Int.pow 2 63) ≤ n ∧ n ≤ Int.pow 2 63 - 1
  | .uint n => n ≤ Decimal.maxWord
  | _ => True

/-- A value is exact if it fits its kind, its integer is a word, its bytes are a text, and, where
the kind bounds the length of a text, it is cut. -/
theorem exact_of_fits {kind : Kind} {v : FieldValue} (hk : kind.isFloat = false)
    (hfits : v.fits kind = true) (hword : v.InWord)
    (hbytes : ∀ bs, v = .bytes bs → Text.IsUtf8 bs)
    (hcut : ∀ capacity s, kind = .fixedText capacity → v = .text s →
      Text.truncate capacity s = s) : Exact kind v := by
  cases kind with
  | int bits signed =>
    cases signed with
    | true =>
      cases v with
      | int n => exact .int hfits hword.1 hword.2
      | _ => cases hfits
    | false =>
      cases v with
      | uint n => exact .uint hfits hword
      | _ => cases hfits
  | float bits => cases hk
  | bool =>
    cases v with
    | bool b => exact .bool b
    | _ => cases hfits
  | text =>
    cases v with
    | text s => exact .text s
    | _ => cases hfits
  | bytes =>
    cases v with
    | bytes bs =>
      obtain ⟨s, rfl⟩ := hbytes bs rfl
      exact .bytes s
    | _ => cases hfits
  | fixedText capacity =>
    cases v with
    | text s => exact .fixedText (hcut capacity s rfl rfl)
    | _ => cases hfits

end FieldValue

namespace Record

/-! ### Storing again -/

theorem stored_text {f : Field} {capacity : Nat} (h : f.type.kind = .fixedText capacity)
    (s : String) : stored f (.text s) = .text (Text.truncate capacity s) := by
  have hcapacity : f.type.capacity? = some capacity := by rw [Primitive.capacity?, h]
  simp only [stored, hcapacity]

theorem stored_of_capacity?_eq_none {f : Field} (h : f.type.capacity? = none) (v : FieldValue) :
    stored f v = v := by
  rw [stored.eq_def, h]
  cases v <;> rfl

/-- **The initial value of a field is stored unchanged.** -/
theorem stored_initial (f : Field) : stored f (.initial f.type.kind) = .initial f.type.kind := by
  cases hkind : f.type.kind with
  | fixedText capacity =>
    rw [FieldValue.initial, stored_text hkind]
    rfl
  | _ => exact stored_of_capacity?_eq_none (by rw [Primitive.capacity?, hkind]) _

/-- **What a field stores it stores unchanged.** -/
theorem stored_stored (f : Field) (v : FieldValue) : stored f (stored f v) = stored f v := by
  cases hcapacity : f.type.capacity? with
  | none => rw [stored_of_capacity?_eq_none hcapacity, stored_of_capacity?_eq_none hcapacity]
  | some capacity =>
    cases v with
    | text s => simp only [stored, hcapacity, Text.truncate_truncate]
    | _ => rfl

/-- **What a field reads it stores unchanged.** -/
theorem stored_of_read? {f : Field} {raw : String} {v : FieldValue}
    (h : FieldValue.read? f.type.kind raw = some v) : stored f v = v := by
  have hany := (FieldValue.read?_eq_some.mp h).1
  cases hkind : f.type.kind with
  | fixedText capacity =>
    rw [hkind] at hany
    obtain rfl : FieldValue.text (Text.truncate capacity raw) = v := Option.some.inj hany
    rw [stored_text hkind, Text.truncate_truncate]
  | _ => exact stored_of_capacity?_eq_none (by rw [Primitive.capacity?, hkind]) v

/-! ### The round trip -/

/-- **A record that can be reached holds exact values**, if it has no floating-point numbers, its
integers are words and its bytes are texts. -/
theorem Reachable.exact {m : FlatSchema} {r : Record} (h : Reachable m r)
    (hfloat : ∀ f ∈ m.fields, f.type.kind.isFloat = false) (hword : ∀ v ∈ r.values, v.InWord)
    (hbytes : ∀ bs, .bytes bs ∈ r.values → Text.IsUtf8 bs) :
    List.Forall₂ (fun f v => FieldValue.Exact f.type.kind v) m.fields r.values := by
  obtain ⟨-, hvalues⟩ := h.forall₂
    (R := fun f v => f ∈ m.fields ∧ v.fits f.type.kind = true ∧ stored f v = v)
    (fun f hf => ⟨hf, FieldValue.fits_initial _, stored_initial f⟩)
    (fun f hf v hv => ⟨hf, fits_stored hv, stored_stored f v⟩)
    (fun f hf raw v hv => ⟨hf, (FieldValue.read?_eq_some.mp hv).2, stored_of_read? hv⟩)
  refine List.forall₂_iff_zip.mpr ⟨hvalues.length_eq, fun {f v} hpair => ?_⟩
  obtain ⟨hf, hfits, hstored⟩ := (List.forall₂_iff_zip.mp hvalues).2 hpair
  have hv : v ∈ r.values := (List.of_mem_zip hpair).2
  refine FieldValue.exact_of_fits (hfloat f hf) hfits (hword v hv) ?_ ?_
  · rintro bs rfl
    exact hbytes bs hv
  · rintro capacity s hkind rfl
    rw [stored_text hkind] at hstored
    exact FieldValue.text.inj hstored

/-- **Exact values are read back** from what is written for them, field by field. -/
theorem readValues_map_display {fields : List Field} {values : List FieldValue}
    (h : List.Forall₂ (fun f v => FieldValue.Exact f.type.kind v) fields values) :
    readValues fields (values.map FieldValue.display) = .ok values := by
  induction h with
  | nil => rfl
  | cons hexact _ ih => rw [List.map_cons, readValues, FieldValue.read?_display hexact, ih]

theorem same_self_of_exact {r : Record}
    (h : List.Forall₂ (fun f v => FieldValue.Exact f.type.kind v) r.schema.fields r.values) :
    r.same r = true := by
  have hsame : ∀ v ∈ r.values, v.same v = true := by
    intro v hv
    obtain ⟨i, hi, rfl⟩ := List.mem_iff_getElem.mp hv
    exact FieldValue.same_of_exact (h.get (h.length_eq ▸ hi) hi)
  rw [same, beq_self_eq_true, Bool.true_and, List.all_eq_true]
  intro p hp
  obtain ⟨i, hi, rfl⟩ := List.mem_iff_getElem.mp hp
  rw [List.getElem_zip]
  exact hsame _ (List.getElem_mem _)

/-- **The round trip of records.** A record of the schema of a flat unit without floating-point
fields, reached by any fresh start, assignments and rows, is read back from its own row, if its
bytes are the bytes of texts. -/
theorem ofRow_toRow (unit : FlatUnit)
    (hfloat : ∀ f ∈ (FlatSchema.build unit).schema.fields, f.type.kind.isFloat = false)
    {r : Record} (h : Reachable (FlatSchema.build unit).schema r)
    (hword : ∀ v ∈ r.values, v.InWord) (hbytes : ∀ bs, .bytes bs ∈ r.values → Text.IsUtf8 bs) :
    Record.ofRow (FlatSchema.build unit).schema r.toRow = .ok r ∧ r.same r = true := by
  have hexact := h.exact hfloat hword hbytes
  have hschema := h.fitting.schema
  refine ⟨?_, same_self_of_exact (hschema ▸ hexact)⟩
  have hlen : r.toRow.length = (FlatSchema.build unit).schema.fields.length := by
    rw [toRow, List.length_map, hexact.length_eq]
  rw [Record.ofRow, if_neg (by simpa using hlen), toRow, readValues_map_display hexact, ← hschema]

/-- Heroes, with a field of every kind that is no floating-point number. -/
def heroUnit : FlatUnit where
  name := "hero"
  entries :=
    [⟨"name", .scalar "char4"⟩, ⟨"level", .scalar "int8"⟩, ⟨"gold", .scalar "uint64"⟩,
     ⟨"alive", .scalar "bool"⟩, ⟨"motto", .scalar "string"⟩, ⟨"crest", .scalar "bytes_tiny"⟩]

/-- The type of heroes. -/
def heroSchema : FlatSchema :=
  (FlatSchema.build heroUnit).schema

/-- A hero that was read from a row, with a name that was cut inside its bytes, the least level and
blanks around the motto, and then given the greatest amount of gold and a crest of two bytes. -/
def hero : Record :=
  ⟨heroSchema, [.text "Zoë", .int (-128), .uint Decimal.maxWord, .bool true, .text " it\x27s ",
    .bytes [0xc3, 0xa9]]⟩

/-- The hero is read back from its row. -/
theorem ofRow_toRow_hero :
    Reachable heroSchema hero ∧
      hero.toRow = ["Zoë", "-128", "18446744073709551615", "1", " it\x27s ", "é"] ∧
      Record.ofRow heroSchema hero.toRow = .ok hero ∧ hero.same hero = true := by
  have hrow : Record.ofRow heroSchema ["Zoë€", " -128", "+7", "true", " it\x27s ", ""] =
      .ok ⟨heroSchema, [.text "Zoë", .int (-128), .uint 7, .bool true, .text " it\x27s ",
        .bytes []]⟩ := by decide
  have hgold : Record.set ⟨heroSchema, [.text "Zoë", .int (-128), .uint 7, .bool true,
      .text " it\x27s ", .bytes []]⟩ "gold" (.uint Decimal.maxWord) =
      .ok ⟨heroSchema, [.text "Zoë", .int (-128), .uint Decimal.maxWord, .bool true,
        .text " it\x27s ", .bytes []]⟩ := by decide
  have hcrest : Record.set ⟨heroSchema, [.text "Zoë", .int (-128), .uint Decimal.maxWord,
      .bool true, .text " it\x27s ", .bytes []]⟩ "crest" (.bytes [0xc3, 0xa9]) = .ok hero := by
    decide
  have hreach : Reachable heroSchema hero := ((Reachable.ofRow hrow).set hgold).set hcrest
  have hfloat : ∀ f ∈ heroSchema.fields, f.type.kind.isFloat = false := by decide
  have hword : ∀ v ∈ hero.values, v.InWord := by
    simp [hero, FieldValue.InWord, Int.pow]
  have hbytes : ∀ bs, .bytes bs ∈ hero.values → Text.IsUtf8 bs := by
    intro bs hbs
    obtain rfl : bs = [0xc3, 0xa9] := by simpa [hero] using hbs
    exact ⟨"é", by decide⟩
  exact ⟨hreach, by decide, ofRow_toRow heroUnit hfloat hreach hword hbytes⟩

end Record

end SchemaCompiler
