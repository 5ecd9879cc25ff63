import SchemaCompiler.Proofs.Outcomes
import SchemaCompiler.Proofs.Value.Row

/-!
# What the assignments of the key tell of a record

The assignments of the key stand in the condition that picks a record in a query, so two records
with the same assignments are one and the same to it. This file says when that happens: exactly when
the two agree in every field of the key (`SchemaCompiler.Record.keyAssignments_eq_iff`). Numbers,
truth values and texts agree only if they are equal; bytes agree if they are *displayed* as the same
text, which is the same as being equal for the bytes of texts, but not for all bytes
(`SchemaCompiler.Record.keyAssignments_vault`).

The argument is that the assignments can be read back from the left. A literal is read as the text
that it displays, together with what follows it (`SchemaCompiler.Query.readLiteral_literal`). So of
two literals that open the same text, both the displayed values and the rests are the same, whatever
quotes, blanks and words like `AND` the values hold.
-/

namespace SchemaCompiler

/-! ### Values that agree -/

namespace Decimal

theorem ofInt_injective {a b : Int} (h : ofInt a = ofInt b) : a = b := by
  have hread := integerBetween?_ofInt (Int.min_le_left a b) (Int.le_max_left a b)
  rw [h, integerBetween?_ofInt (Int.min_le_right a b) (Int.le_max_right a b)] at hread
  exact (Option.some.inj hread).symm

theorem ofNat_injective {a b : Nat} (h : ofNat a = ofNat b) : a = b := by
  have hread := naturalUpTo?_ofNat (Nat.le_max_left a b)
  rw [h, naturalUpTo?_ofNat (Nat.le_max_right a b)] at hread
  exact (Option.some.inj hread).symm

end Decimal

namespace FieldValue

/-- **Two values agree** if they are equal, or if they are bytes that are displayed as the same
text. -/
def Agrees (v w : FieldValue) : Prop :=
  v = w ∨ ∃ bs cs, v = .bytes bs ∧ w = .bytes cs ∧ Text.decodeLossy bs = Text.decodeLossy cs

/-- Values that agree are equal, if such as are bytes are the bytes of texts. -/
theorem Agrees.eq {v w : FieldValue} (h : v.Agrees w)
    (hv : ∀ bs, v = .bytes bs → Text.IsUtf8 bs) (hw : ∀ bs, w = .bytes bs → Text.IsUtf8 bs) :
    v = w := by
  rcases h with rfl | ⟨bs, cs, rfl, rfl, htext⟩
  · rfl
  · obtain ⟨s, rfl⟩ := hv bs rfl
    obtain ⟨t, rfl⟩ := hw cs rfl
    rw [Text.decodeLossy_encode, Text.decodeLossy_encode] at htext
    rw [htext]

theorem Agrees.literal_eq {v w : FieldValue} (h : v.Agrees w) : v.literal = w.literal := by
  rcases h with rfl | ⟨bs, cs, rfl, rfl, htext⟩
  · rfl
  · rw [literal, literal, htext]

theorem eq_of_display_bool {a b : Bool} (h : (bool a).display = (bool b).display) : a = b := by
  revert h
  cases a <;> cases b <;> decide

/-- **Values of one kind that display the same agree**, if they are no floating-point numbers. -/
theorem agrees_of_display {kind : Kind} (hk : kind.isFloat = false) {v w : FieldValue}
    (hv : v.fits kind = true) (hw : w.fits kind = true) (h : v.display = w.display) :
    v.Agrees w := by
  cases kind with
  | int bits signed =>
    cases signed with
    | true =>
      cases v with
      | int a =>
        cases w with
        | int b => exact Or.inl (congrArg FieldValue.int (Decimal.ofInt_injective h))
        | _ => cases hw
      | _ => cases hv
    | false =>
      cases v with
      | uint a =>
        cases w with
        | uint b => exact Or.inl (congrArg FieldValue.uint (Decimal.ofNat_injective h))
        | _ => cases hw
      | _ => cases hv
  | float bits => cases hk
  | bool =>
    cases v with
    | bool a =>
      cases w with
      | bool b => exact Or.inl (congrArg FieldValue.bool (eq_of_display_bool h))
      | _ => cases hw
    | _ => cases hv
  | text =>
    cases v with
    | text s =>
      cases w with
      | text t => exact Or.inl (congrArg FieldValue.text h)
      | _ => cases hw
    | _ => cases hv
  | fixedText capacity =>
    cases v with
    | text s =>
      cases w with
      | text t => exact Or.inl (congrArg FieldValue.text h)
      | _ => cases hw
    | _ => cases hv
  | bytes =>
    cases v with
    | bytes bs =>
      cases w with
      | bytes cs => exact Or.inr ⟨bs, cs, rfl, rfl, h⟩
      | _ => cases hw
    | _ => cases hv

end FieldValue

/-! ### Assignments -/

namespace Record

open Query

/-- Two pairs of one field that is no floating-point number, both with fitting values. -/
structure Comparable (p q : Field × FieldValue) : Prop where
  /-- The field is the same. -/
  field : p.1 = q.1
  /-- It is no floating-point number. -/
  notFloat : p.1.type.kind.isFloat = false
  /-- The first value fits. -/
  left : p.2.fits p.1.type.kind = true
  /-- The second value fits. -/
  right : q.2.fits q.1.type.kind = true

/-- What stands between two assignments of the key. -/
def conjunction : List Char :=
  [' ', 'A', 'N', 'D', ' ']

/-- **Two assignments to one field that open the same text** assign values that agree, and the same
text follows them. -/
theorem assignment_append_eq_iff {p q : Field × FieldValue} (h : Comparable p q)
    {rest other : List Char} (hrest : EndsLiteral conjunction rest)
    (hother : EndsLiteral conjunction other) :
    (assignment p).toList ++ rest = (assignment q).toList ++ other ↔
      p.2.Agrees q.2 ∧ rest = other := by
  have hcolumn : ∀ (p : Field × FieldValue) (rest : List Char), (assignment p).toList ++ rest =
      (p.1.column ++ " = ").toList ++ (p.2.literal.toList ++ rest) := by
    intro p rest
    rw [assignment, String.toList_append, List.append_assoc]
  -- the column is the same on both sides, and behind it the literals can be read
  rw [hcolumn, hcolumn, h.field, List.append_cancel_left_eq]
  constructor
  · intro heq
    have hread := congrArg (readLiteral conjunction) heq
    rw [conjunction, readLiteral_literal _ (by decide) (by decide) hrest,
      readLiteral_literal _ (by decide) (by decide) hother, Option.some.injEq, Prod.mk.injEq,
      String.toList_inj] at hread
    exact ⟨FieldValue.agrees_of_display h.notFloat h.left (h.field ▸ h.right) hread.1, hread.2⟩
  · rintro ⟨hagrees, rfl⟩
    rw [hagrees.literal_eq]

/-- What stands behind the first of several assignments. -/
def furtherAssignments (ps : List (Field × FieldValue)) : List Char :=
  ps.flatMap (fun p => conjunction ++ (assignment p).toList)

theorem endsLiteral_furtherAssignments (ps : List (Field × FieldValue)) :
    EndsLiteral conjunction (furtherAssignments ps) := by
  cases ps with
  | nil => exact Or.inl rfl
  | cons p ps =>
    refine Or.inr ⟨(assignment p).toList ++ furtherAssignments ps, ?_⟩
    rw [furtherAssignments, List.flatMap_cons, List.append_assoc, furtherAssignments]

theorem toList_intercalate_assignments (p : Field × FieldValue) (ps : List (Field × FieldValue)) :
    (" AND ".intercalate ((p :: ps).map assignment)).toList =
      (assignment p).toList ++ furtherAssignments ps := by
  rw [String.toList_intercalate]
  induction ps generalizing p with
  | nil =>
    rw [List.map_singleton, List.map_singleton, List.intercalate_singleton]
    exact (List.append_nil _).symm
  | cons q qs ih =>
    have hq := ih q
    simp only [List.map_cons] at hq ⊢
    rw [List.intercalate_cons_cons, hq, furtherAssignments, furtherAssignments, List.flatMap_cons,
      List.append_assoc, List.append_assoc]
    rfl

/-- **Two records agree in a field** if both have values in it and the values agree. -/
def AgreeAt (r s : Record) (name : String) : Prop :=
  ∃ v w, r.get? name = some v ∧ s.get? name = some w ∧ v.Agrees w

theorem agreeAt_iff {r s : Record} {name : String} {p q : Field × FieldValue}
    (hp : r.pair? name = some p) (hq : s.pair? name = some q) :
    AgreeAt r s name ↔ p.2.Agrees q.2 := by
  rw [AgreeAt, get?, get?, hp, hq]
  constructor
  · rintro ⟨v, w, hv, hw, hagrees⟩
    cases hv
    cases hw
    exact hagrees
  · exact fun hagrees => ⟨p.2, q.2, rfl, rfl, hagrees⟩

/-- Both records have comparable values in the field. -/
def ComparableAt (r s : Record) (name : String) : Prop :=
  ∃ p q, r.pair? name = some p ∧ s.pair? name = some q ∧ Comparable p q

/-- The assignments behind the first are the same exactly if the records agree in their fields. -/
theorem furtherAssignments_eq_iff {r s : Record} {names : List String}
    (h : ∀ name ∈ names, ComparableAt r s name) :
    furtherAssignments (names.filterMap r.pair?) = furtherAssignments (names.filterMap s.pair?) ↔
      ∀ name ∈ names, AgreeAt r s name := by
  induction names with
  | nil => simp
  | cons name names ih =>
    obtain ⟨p, q, hp, hq, hcomparable⟩ := h name List.mem_cons_self
    have hrest := ih fun other hother => h other (List.mem_cons_of_mem _ hother)
    rw [List.filterMap_cons_some hp, List.filterMap_cons_some hq, furtherAssignments,
      furtherAssignments, List.flatMap_cons, List.flatMap_cons, ← furtherAssignments,
      ← furtherAssignments, List.append_assoc, List.append_assoc, List.append_cancel_left_eq,
      assignment_append_eq_iff hcomparable (endsLiteral_furtherAssignments _)
        (endsLiteral_furtherAssignments _), hrest, ← agreeAt_iff hp hq, List.forall_mem_cons]

/-- **Joined assignments are the same exactly if the records agree in their fields.** -/
theorem intercalate_assignments_eq_iff {r s : Record} {names : List String}
    (h : ∀ name ∈ names, ComparableAt r s name) :
    " AND ".intercalate ((names.filterMap r.pair?).map assignment) =
        " AND ".intercalate ((names.filterMap s.pair?).map assignment) ↔
      ∀ name ∈ names, AgreeAt r s name := by
  cases names with
  | nil => simp
  | cons name names =>
    -- the first assignment has nothing before it, and each other one the word between them
    obtain ⟨p, q, hp, hq, hcomparable⟩ := h name List.mem_cons_self
    rw [List.filterMap_cons_some hp, List.filterMap_cons_some hq, ← String.toList_inj,
      toList_intercalate_assignments, toList_intercalate_assignments,
      assignment_append_eq_iff hcomparable (endsLiteral_furtherAssignments _)
        (endsLiteral_furtherAssignments _),
      furtherAssignments_eq_iff fun other hother => h other (List.mem_cons_of_mem _ hother),
      ← agreeAt_iff hp hq, List.forall_mem_cons]

/-- Records of one schema without floating-point numbers are comparable in every declared field. -/
theorem Fitting.comparableAt {m : FlatSchema} {r s : Record} (hr : Fitting m r) (hs : Fitting m s)
    (hfloat : ∀ f ∈ m.fields, f.type.kind.isFloat = false) {name : String}
    (hname : m.Declared name) : ComparableAt r s name := by
  obtain ⟨f, hf⟩ := Option.isSome_iff_exists.mp (FlatSchema.isSome_field?_iff.mpr hname)
  obtain ⟨p, hp, hpf⟩ := Option.map_eq_some_iff.mp ((hr.map_fst_pair? name).trans hf)
  obtain ⟨q, hq, hqf⟩ := Option.map_eq_some_iff.mp ((hs.map_fst_pair? name).trans hf)
  refine ⟨p, q, hp, hq, ?_⟩
  exact
    { field := hpf.trans hqf.symm
      notFloat := hpf ▸ hfloat f (FlatSchema.of_field?_eq_some hf).1
      left := hr.fits_of_mem_pairs (List.mem_of_find?_eq_some hp)
      right := hs.fits_of_mem_pairs (List.mem_of_find?_eq_some hq) }

/-- **The assignments of the key tell the key.** Two records of an accepted schema without
floating-point fields, reached by any fresh starts, assignments and rows, have the same assignments
of the key exactly when they agree in every field of it; and in a field in which neither holds bytes
that are no text, to agree is to be equal. -/
theorem keyAssignments_eq_iff {unit : SchemaUnit} {policy : Policy} {m : FlatSchema}
    {ds : List Diagnostic} (hcompile : unit.compile policy = .ok ⟨.flat m, ds⟩)
    (hfloat : ∀ f ∈ m.fields, f.type.kind.isFloat = false) {r s : Record}
    (hr : Reachable m r) (hs : Reachable m s) :
    (r.keyAssignments = s.keyAssignments ↔ ∀ name ∈ m.keys, AgreeAt r s name) ∧
      (r.keyAssignments = s.keyAssignments → ∀ name ∈ m.keys,
        (∀ bs, r.get? name = some (.bytes bs) → Text.IsUtf8 bs) →
        (∀ bs, s.get? name = some (.bytes bs) → Text.IsUtf8 bs) →
        ∃ v, r.get? name = some v ∧ s.get? name = some v) := by
  have hdeclared : ∀ name ∈ m.keys, m.Declared name := by
    obtain ⟨hbuild, hnone⟩ := SchemaUnit.build_of_compile hcompile
    rw [← hbuild] at hnone
    exact fun name hname => FlatSchema.undeclared?_eq_none_iff.mp hnone name (Or.inl hname)
  have hiff : r.keyAssignments = s.keyAssignments ↔ ∀ name ∈ m.keys, AgreeAt r s name := by
    rw [keyAssignments, keyAssignments, hr.fitting.schema, hs.fitting.schema]
    exact intercalate_assignments_eq_iff fun name hname =>
      hr.fitting.comparableAt hs.fitting hfloat (hdeclared name hname)
  refine ⟨hiff, fun heq name hname hrbytes hsbytes => ?_⟩
  obtain ⟨v, w, hv, hw, hagrees⟩ := hiff.mp heq name hname
  obtain rfl : v = w := hagrees.eq (fun bs hbs => hrbytes bs (hbs ▸ hv))
    (fun bs hbs => hsbytes bs (hbs ▸ hw))
  exact ⟨v, hv, hw⟩

/-- Bearers, with a key of a text, a number and bytes. -/
def bearerUnit : FlatUnit where
  name := "bearer"
  entries :=
    [⟨"name", .scalar "string"⟩, ⟨"rank", .scalar "int8"⟩, ⟨"crest", .scalar "bytes_tiny"⟩,
     ⟨"gold", .scalar "uint32"⟩, ⟨"$key", .list ["rank", "name", "crest"]⟩]

/-- The type of bearers. -/
def bearerSchema : FlatSchema :=
  (FlatSchema.build bearerUnit).schema

/-- A bearer with some gold whose name looks like a condition. -/
def bearer (gold : Nat) : Record :=
  ⟨bearerSchema, [.text "x\x27 AND RANK = 1", .int (-1), .bytes [0xc3, 0xa9], .uint gold]⟩

/-- A bearer that was read from a row and one that was made by assignments differ in their gold, and
are the same to a condition on the key. -/
theorem keyAssignments_bearer :
    (SchemaUnit.ofFlat bearerUnit "").compile .strict = .ok ⟨.flat bearerSchema, []⟩ ∧
      Reachable bearerSchema (bearer 7) ∧ Reachable bearerSchema (bearer 0) ∧
      (bearer 7).keyAssignments =
        "RANK = -1 AND NAME = \x27x\x27\x27 AND RANK = 1\x27 AND CREST = \x27é\x27" ∧
      (∀ name ∈ bearerSchema.keys, AgreeAt (bearer 7) (bearer 0) name) ∧
      ∃ v, (bearer 7).get? "crest" = some v ∧ (bearer 0).get? "crest" = some v := by
  have hcompile : (SchemaUnit.ofFlat bearerUnit "").compile .strict =
      .ok ⟨.flat bearerSchema, []⟩ :=
    SchemaUnit.compile_strict_of_decide (by decide) (by decide)
  have hfloat : ∀ f ∈ bearerSchema.fields, f.type.kind.isFloat = false := by decide
  have hrow : Record.ofRow bearerSchema ["x\x27 AND RANK = 1", " -1", "é", "+7"] =
      .ok (bearer 7) := by decide
  have hname : (Record.new bearerSchema).set "name" (.text "x\x27 AND RANK = 1") =
      .ok ⟨bearerSchema, [.text "x\x27 AND RANK = 1", .int 0, .bytes [], .uint 0]⟩ := by decide
  have hrank : Record.set ⟨bearerSchema, [.text "x\x27 AND RANK = 1", .int 0, .bytes [], .uint 0]⟩
      "rank" (.int (-1)) =
      .ok ⟨bearerSchema, [.text "x\x27 AND RANK = 1", .int (-1), .bytes [], .uint 0]⟩ := by decide
  have hcrest : Record.set
      ⟨bearerSchema, [.text "x\x27 AND RANK = 1", .int (-1), .bytes [], .uint 0]⟩
      "crest" (.bytes [0xc3, 0xa9]) = .ok (bearer 0) := by decide
  have hrich : Reachable bearerSchema (bearer 7) := .ofRow hrow
  have hpoor : Reachable bearerSchema (bearer 0) := ((Reachable.new.set hname).set hrank).set hcrest
  have hutf8 : ∀ gold bs, (bearer gold).get? "crest" = some (.bytes bs) → Text.IsUtf8 bs := by
    intro gold bs hbs
    have hget : (bearer gold).get? "crest" = some (.bytes [0xc3, 0xa9]) := rfl
    cases hget.symm.trans hbs
    exact ⟨"é", by decide⟩
  have hkeys : (bearer 7).keyAssignments = (bearer 0).keyAssignments := by decide
  obtain ⟨hiff, heq⟩ := keyAssignments_eq_iff hcompile hfloat hrich hpoor
  exact ⟨hcompile, hrich, hpoor, by decide, hiff.mp hkeys,
    heq hkeys "crest" (by decide) (hutf8 7) (hutf8 0)⟩

/-- Vaults, with bytes as their key. -/
def vaultUnit : FlatUnit where
  name := "vault"
  entries := [⟨"token", .scalar "bytes_tiny"⟩, ⟨"$key", .scalar "token"⟩]

/-- The type of vaults. -/
def vaultSchema : FlatSchema :=
  (FlatSchema.build vaultUnit).schema

/-- A vault with some bytes. -/
def vault (token : List UInt8) : Record :=
  ⟨vaultSchema, [.bytes token]⟩

/-- **Different bytes may be the same to a condition on the key**, if neither are a text. -/
theorem keyAssignments_vault :
    (SchemaUnit.ofFlat vaultUnit "").compile .strict = .ok ⟨.flat vaultSchema, []⟩ ∧
      (∀ f ∈ vaultSchema.fields, f.type.kind.isFloat = false) ∧
      Reachable vaultSchema (vault [0xff]) ∧ Reachable vaultSchema (vault [0xfe]) ∧
      (vault [0xff]).keyAssignments = (vault [0xfe]).keyAssignments ∧
      "token" ∈ vaultSchema.keys ∧
      (vault [0xff]).get? "token" ≠ (vault [0xfe]).get? "token" := by
  have hcompile : (SchemaUnit.ofFlat vaultUnit "").compile .strict = .ok ⟨.flat vaultSchema, []⟩ :=
    SchemaUnit.compile_strict_of_decide (by decide) (by decide)
  have hset : ∀ token, (Record.new vaultSchema).set "token" (.bytes token) = .ok (vault token) :=
    fun _ => rfl
  exact ⟨hcompile, by decide, Reachable.new.set (hset _), Reachable.new.set (hset _), by decide,
    by decide, by decide⟩

end Record

end SchemaCompiler
