import SchemaCompiler.Proofs.Artifact.Forms
import SchemaCompiler.Proofs.Name.Path
import SchemaCompiler.Proofs.Schema.Fields
import SchemaCompiler.Proofs.TypeName

/-!
# Integers between records and messages

A member of a record and the field of a message that carries it need not have the same type: there
is no message field of less than 32 bits, so integers of eight and of sixteen bits travel as wider
ones. The conversions between a record and its message have to say so, since generated code does not
turn one integer type into another by itself.

What they say is typed here. An expression of generated code has a type by the rules of
`SchemaCompiler.Artifact.HasType`: a member has the type of its field, a getter of the message has
the type that travels, `from` goes to a type that holds all values, and `as` to any. By these rules
the conversions of integers of eight, 32 and 64 bits are right, and those of integers of sixteen
bits are not: they are left as they are, although their types differ
(`SchemaCompiler.Artifact.messageGlue_integers`).
-/

namespace SchemaCompiler

namespace Artifact

open Item Primitive

/-- **The message and the conversions of a schema**, as they stand in the artifacts. -/
structure EmittedGlue (m : FlatSchema) (profile : Profile) : Prop where
  /-- The fields of the message. -/
  message : MessageForm m profile
  /-- The values that they take from the record, and the statements that set its members. -/
  glue : GlueForm m profile

/-! ### Types of expressions -/

/-- The member of a record that holds a field. -/
def recordMember (f : Field) : String :=
  "record." ++ Name.memberIdent f.name

/-- The call that gets a field from a message. -/
def messageGetter (f : Field) : String :=
  "message." ++ Name.memberIdent f.name ++ "()"

/-- Whether integers of one type are all integers of another. -/
def Fits (bits : Nat) (signed : Bool) (bits' : Nat) (signed' : Bool) : Prop :=
  if signed = signed' then bits ≤ bits' else signed' = true ∧ bits < bits'

/-- **An expression about a field has a type.** -/
inductive HasType (f : Field) : String → String → Prop
  /-- The member has the type of the field. -/
  | member : HasType f (recordMember f) f.type.repr
  /-- The message has the type that travels. -/
  | getter : HasType f (messageGetter f) f.type.wireRepr
  /-- An integer goes over to a type that holds it. -/
  | widened {text : String} {bits bits' : Nat} {signed signed' : Bool}
      (h : HasType f text (integerWord bits signed)) (hfits : Fits bits signed bits' signed') :
      HasType f (integerWord bits' signed' ++ "::from(" ++ text ++ ")") (integerWord bits' signed')
  /-- An integer is cast to any integer type. -/
  | cast {text : String} {bits bits' : Nat} {signed signed' : Bool}
      (h : HasType f text (integerWord bits signed)) :
      HasType f (text ++ " as " ++ integerWord bits' signed') (integerWord bits' signed')

theorem recordMember_ne_messageGetter (f : Field) : recordMember f ≠ messageGetter f := by
  intro h
  have hhead := congrArg (fun s : String => s.toList.head?) h
  simp [recordMember, messageGetter] at hhead

/-- The member and the getter are no conversions: those have colons or blanks, and identifiers have
neither. -/
theorem HasType.of_access {f : Field} {text type : String} (h : HasType f text type)
    (htext : text = recordMember f ∨ text = messageGetter f) :
    text = recordMember f ∧ type = f.type.repr ∨
      text = messageGetter f ∧ type = f.type.wireRepr := by
  have hident := Name.isIdent_memberIdent f.name
  have hcolon : ':' ∉ (Name.memberIdent f.name).toList := hident.not_mem rfl
  have hblank : ' ' ∉ (Name.memberIdent f.name).toList := hident.not_mem rfl
  have hmarks : ':' ∉ text.toList ∧ ' ' ∉ text.toList := by
    rcases htext with rfl | rfl
    · exact ⟨by simpa [recordMember] using hcolon, by simpa [recordMember] using hblank⟩
    · exact ⟨by simpa [messageGetter] using hcolon, by simpa [messageGetter] using hblank⟩
  cases h with
  | member => exact Or.inl ⟨rfl, rfl⟩
  | getter => exact Or.inr ⟨rfl, rfl⟩
  | widened h hfits => exact absurd (by simp) hmarks.1
  | cast h => exact absurd (by simp) hmarks.2

/-- **The member has one type only.** -/
theorem HasType.eq_repr {f : Field} {type : String} (h : HasType f (recordMember f) type) :
    type = f.type.repr := by
  rcases h.of_access (Or.inl rfl) with ⟨-, htype⟩ | ⟨heq, -⟩
  · exact htype
  · exact absurd heq (recordMember_ne_messageGetter f)

/-- **The getter has one type only.** -/
theorem HasType.eq_wireRepr {f : Field} {type : String} (h : HasType f (messageGetter f) type) :
    type = f.type.wireRepr := by
  rcases h.of_access (Or.inr rfl) with ⟨heq, -⟩ | ⟨-, htype⟩
  · exact absurd heq.symm (recordMember_ne_messageGetter f)
  · exact htype

/-! ### Integers -/

/-- **The conversions of an integer field.** -/
structure IntegerGlue (f : Field) (bits : Nat) : Prop where
  /-- Integers of eight and of sixteen bits have another type in the message. -/
  differ : f.type.wireRepr ≠ f.type.repr ↔ bits = 8 ∨ bits = 16
  /-- On the way to the message, integers of eight bits are widened to its type. -/
  toMessage_eq : toMessage f =
    if bits = 8 then f.type.wireRepr ++ "::from(" ++ recordMember f ++ ")" else recordMember f
  /-- On the way back, integers of eight bits are cast to the type of the member. -/
  fromMessage_eq : fromMessage f =
    recordMember f ++ " = " ++
      (if bits = 8 then messageGetter f ++ " as " ++ f.type.repr else messageGetter f) ++ ";"
  /-- The value for the message has the type of the message, except for sixteen bits. -/
  toMessage_typed : HasType f (toMessage f) f.type.wireRepr ↔ bits ≠ 16
  /-- The value for the member has the type of the member, except for sixteen bits. -/
  fromMessage_typed : (∃ value, fromMessage f = recordMember f ++ " = " ++ value ++ ";" ∧
    HasType f value f.type.repr) ↔ bits ≠ 16

section

variable {f : Field} {bits : Nat} {signed : Bool}

theorem toMessage_integer (htype : f.type ∈ registry) (hkind : f.type.kind = .int bits signed) :
    toMessage f =
      if bits = 8 then f.type.wireRepr ++ "::from(" ++ recordMember f ++ ")"
      else recordMember f := by
  obtain ⟨-, -, -, hwiden⟩ := integer_of_mem_registry htype hkind
  rw [toMessage, hkind]
  by_cases hbits : bits = 8
  · rw [if_pos hbits] at hwiden ⊢
    obtain ⟨wide, hwide, hrepr⟩ := Option.map_eq_some_iff.mp hwiden
    rw [hwide, ← hrepr]
    rfl
  · rw [if_neg hbits] at hwiden ⊢
    rw [Option.map_eq_none_iff.mp hwiden]
    rfl

theorem fromMessage_integer (htype : f.type ∈ registry) (hkind : f.type.kind = .int bits signed) :
    fromMessage f = recordMember f ++ " = " ++
      (if bits = 8 then messageGetter f ++ " as " ++ f.type.repr else messageGetter f) ++ ";" := by
  obtain ⟨-, -, -, hwiden⟩ := integer_of_mem_registry htype hkind
  have hsome : f.type.widen?.isSome = decide (bits = 8) := by
    rw [← Option.isSome_map (f := Primitive.repr), hwiden]
    split <;> simp [*]
  rw [fromMessage, hkind]
  by_cases hbits : bits = 8
  · rw [if_pos hbits]
    simp [hsome, hbits, recordMember, messageGetter, String.append_assoc]
  · rw [if_neg hbits]
    simp [hsome, hbits, recordMember, messageGetter, String.append_assoc]

theorem wireRepr_ne_repr_iff (htype : f.type ∈ registry) (hkind : f.type.kind = .int bits signed) :
    f.type.wireRepr ≠ f.type.repr ↔ bits = 8 ∨ bits = 16 := by
  obtain ⟨hbits, hrepr, hwire, -⟩ := integer_of_mem_registry htype hkind
  rw [hrepr, hwire]
  simp only [List.mem_cons, List.not_mem_nil, or_false] at hbits
  rcases hbits with rfl | rfl | rfl | rfl
  all_goals cases signed <;> decide

/-- **The conversions of an integer field are typed, except for sixteen bits.** -/
theorem integerGlue_of_registered (htype : f.type ∈ registry)
    (hkind : f.type.kind = .int bits signed) : IntegerGlue f bits := by
  obtain ⟨hbits, hrepr, hwire, -⟩ := integer_of_mem_registry htype hkind
  have hdiffer := wireRepr_ne_repr_iff htype hkind
  have hto := toMessage_integer htype hkind
  have hfrom := fromMessage_integer htype hkind
  have hsame : bits ≠ 8 → bits ≠ 16 → f.type.wireRepr = f.type.repr := by
    intro height hsixteen
    by_contra hne
    rcases hdiffer.mp hne with h | h
    · exact height h
    · exact hsixteen h
  have hmember : HasType f (recordMember f) (integerWord bits signed) := hrepr ▸ .member
  have hgetter : HasType f (messageGetter f) (integerWord (max 32 bits) signed) := hwire ▸ .getter
  refine ⟨hdiffer, hto, hfrom, ?_, ?_⟩
  · rw [hto]
    by_cases height : bits = 8
    · rw [if_pos height, hwire]
      refine iff_of_true (.widened hmember ?_) (by omega)
      rw [Fits, if_pos rfl]
      omega
    · rw [if_neg height]
      constructor
      · rintro h rfl
        exact hdiffer.mpr (Or.inr rfl) h.eq_repr
      · intro hsixteen
        rw [hsame height hsixteen]
        exact .member
  · rw [hfrom]
    by_cases height : bits = 8
    · rw [if_pos height]
      refine iff_of_true ⟨_, rfl, ?_⟩ (by omega)
      rw [hrepr]
      exact .cast hgetter
    · rw [if_neg height]
      constructor
      · rintro ⟨value, heq, h⟩ rfl
        have hvalue : messageGetter f = value := by
          simpa [String.append_assoc] using heq
        rw [← hvalue] at h
        exact hdiffer.mpr (Or.inr rfl) h.eq_wireRepr.symm
      · intro hsixteen
        refine ⟨_, rfl, ?_⟩
        rw [← hsame height hsixteen]
        exact .getter

end

/-- **When the conversions of integers are typed.** For every flat unit, the conversions stand in
the artifacts as told; and for every integer field the two ways go together, with a conversion for
eight bits and none for others. They are typed except for sixteen bits, where the types differ and
nothing is converted. -/
theorem messageGlue_integers (unit : FlatUnit) (profile : Profile) :
    EmittedGlue (FlatSchema.build unit).schema profile ∧
      ∀ f ∈ (FlatSchema.build unit).schema.fields, ∀ bits signed,
        f.type.kind = .int bits signed → IntegerGlue f bits := by
  refine ⟨⟨messageForm _ profile, glueForm _ profile⟩, fun f hf bits signed hkind => ?_⟩
  obtain ⟨typeName, hresolve⟩ := (FlatSchema.sound_build unit).types f hf
  exact integerGlue_of_registered (mem_registry_of_resolve? hresolve hkind) hkind

/-- A gauge with integers of eight, sixteen and 64 bits. -/
def gaugeUnit : FlatUnit where
  name := "Gauge"
  entries :=
    [⟨"title", .scalar "char16"⟩, ⟨"hp", .scalar "uint8"⟩, ⟨"level", .scalar "int16"⟩,
     ⟨"total", .scalar "int64"⟩]

/-- The points of the gauge are widened on the way to the message and cast on the way back. -/
theorem messageGlue_integers_gauge :
    ∃ f ∈ (FlatSchema.build gaugeUnit).schema.fields, f.type.kind = .int 8 false ∧
      toMessage f = "u32::from(record.hp)" ∧ HasType f (toMessage f) f.type.wireRepr ∧
      fromMessage f = "record.hp = message.hp() as u8;" ∧
      ∃ value, fromMessage f = recordMember f ++ " = " ++ value ++ ";" ∧
        HasType f value f.type.repr := by
  obtain ⟨f, hf, hkind, hto, hfrom⟩ : ∃ f ∈ (FlatSchema.build gaugeUnit).schema.fields,
      f.type.kind = .int 8 false ∧ toMessage f = "u32::from(record.hp)" ∧
      fromMessage f = "record.hp = message.hp() as u8;" := by
    decide
  have hglue := (messageGlue_integers gaugeUnit {}).2 f hf 8 false hkind
  exact ⟨f, hf, hkind, hto, hglue.toMessage_typed.mpr (by decide), hfrom,
    hglue.fromMessage_typed.mpr (by decide)⟩

/-- **A level that is not converted.** The level of the gauge has sixteen bits in the record and 32
in the message, and is neither widened nor cast: the value for the message is no value of its
type. -/
theorem messageGlue_level_gauge :
    (FlatSchema.build gaugeUnit).diagnostics = [] ∧
      ∃ f ∈ (FlatSchema.build gaugeUnit).schema.fields, f.type.kind = .int 16 true ∧
        f.type.repr = "i16" ∧ f.type.wireRepr = "i32" ∧ toMessage f = recordMember f ∧
        recordMember f = "record.level" ∧ fromMessage f = "record.level = message.level();" ∧
        ¬HasType f (toMessage f) f.type.wireRepr := by
  obtain ⟨f, hf, hkind, hrepr, hwire, hto, hmember, hfrom⟩ :
      ∃ f ∈ (FlatSchema.build gaugeUnit).schema.fields, f.type.kind = .int 16 true ∧
        f.type.repr = "i16" ∧ f.type.wireRepr = "i32" ∧ toMessage f = recordMember f ∧
        recordMember f = "record.level" ∧ fromMessage f = "record.level = message.level();" := by
    decide
  refine ⟨by decide, f, hf, hkind, hrepr, hwire, hto, hmember, hfrom, ?_⟩
  rw [hto]
  intro h
  have htypes := h.eq_repr
  rw [hrepr, hwire] at htypes
  exact absurd htypes (by decide)

end Artifact

end SchemaCompiler
