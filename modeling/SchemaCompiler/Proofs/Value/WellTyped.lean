import SchemaCompiler.Proofs.Value.Conforming
import SchemaCompiler.Proofs.Value.Display

/-!
# Well-typed tree values

A tree value is well typed (`SchemaCompiler.TreeValue.WellTyped`) when its content and attributes
are exact values of their types and every child holds what its container keeps: well-typed values,
in the order of their keys and each under its own. So it conforms to the standard of exact values
(`wellTyped_iff_conforms`). That standard is met by fresh values and by those that are read
(`metAt_exactStandard`), and everything that can be done to a value keeps it well typed
(`wellTyped_run`).

Only the types of the schema are restricted, by `SchemaCompiler.ElementType.IsExact`: no
floating-point number anywhere, since not every one reads back from its written form, and no bounded
text as content, since content is trimmed and cutting a text may leave a blank at its end.
-/

namespace SchemaCompiler

/-- Whether every value of an element type, its children left aside, reads back from its written
form. -/
structure ElementType.IsExact (t : ElementType) : Prop where
  /-- No attribute is a floating-point number. -/
  attributes : ∀ a ∈ t.attributes, a.type.kind.isFloat = false
  /-- The content is no floating-point number. -/
  content : ∀ type ∈ t.content, type.kind.isFloat = false
  /-- The content is no bounded text. -/
  unbounded : ∀ type ∈ t.content, type.kind.isFixedText = false

instance (t : ElementType) : Decidable t.IsExact :=
  decidable_of_iff
    ((∀ a ∈ t.attributes, a.type.kind.isFloat = false) ∧
      (∀ type ∈ t.content, type.kind.isFloat = false) ∧
      ∀ type ∈ t.content, type.kind.isFixedText = false)
    ⟨fun h => ⟨h.1, h.2.1, h.2.2⟩, fun h => ⟨h.attributes, h.content, h.unbounded⟩⟩

namespace TreeValue

/-- What an element holds as its content: an exact value with no blanks around its written form. -/
inductive ContentExact : Option Primitive → Option FieldValue → Prop
  /-- There is no content. -/
  | none : ContentExact none none
  /-- There is content of the type. -/
  | some {type : Primitive} {v : FieldValue} (hexact : FieldValue.Exact type.kind v)
      (htrim : Text.trim v.display = v.display) : ContentExact (some type) (some v)

/-- What an element holds for an attribute. -/
def AttributeExact (a : Attribute) (v : FieldValue) : Prop :=
  FieldValue.Exact a.type.kind v

mutual

/-- **A value that belongs to an element type**, at every depth. -/
def WellTyped : ElementType → TreeValue → Prop
  | ⟨_, _, attributes, content, children⟩, v =>
    ContentExact content v.content ∧ List.Forall₂ AttributeExact attributes v.attributes ∧
      WellTypedChildren children v.children

/-- Held values that belong to the types of the children. -/
def WellTypedChildren : List ElementType → List (Held TreeValue) → Prop
  | [], [] => True
  | t :: types, held :: rest =>
    Held.Kept (key t) (fun v => WellTyped t v) t.container held ∧ WellTypedChildren types rest
  | _, _ => False

end

/-- What an element holds for a child. -/
def ChildWellTyped (t : ElementType) (held : Held TreeValue) : Prop :=
  Held.Kept (key t) (WellTyped t) t.container held

theorem wellTypedChildren_iff (types : List ElementType) (helds : List (Held TreeValue)) :
    WellTypedChildren types helds ↔ List.Forall₂ ChildWellTyped types helds := by
  induction types generalizing helds with
  | nil => cases helds <;> simp [WellTypedChildren]
  | cons t types ih =>
    cases helds with
    | nil => simp [WellTypedChildren]
    | cons held rest => rw [WellTypedChildren, List.forall₂_cons, ih]; rfl

/-- **A well-typed value**, part by part. -/
theorem wellTyped_iff (t : ElementType) (v : TreeValue) :
    WellTyped t v ↔ ContentExact t.content v.content ∧
      List.Forall₂ AttributeExact t.attributes v.attributes ∧
      List.Forall₂ ChildWellTyped t.children v.children := by
  cases t
  rw [WellTyped, wellTypedChildren_iff]

/-! ### The standard of exact values -/

/-- The standard of exact values: content has no blanks around its written form either. -/
def exactStandard : Standard where
  ofContent type v := FieldValue.Exact type.kind v ∧ Text.trim v.display = v.display
  ofAttribute type v := FieldValue.Exact type.kind v

theorem contentExact_iff (type : Option Primitive) (content : Option FieldValue) :
    ContentExact type content ↔ Option.Rel exactStandard.ofContent type content := by
  constructor
  · intro h
    cases h with
    | none => exact .none
    | some hexact htrim => exact .some ⟨hexact, htrim⟩
  · intro h
    cases h with
    | none => exact .none
    | some hboth => exact .some hboth.1 hboth.2

/-- **Well-typed values are those that conform to the standard of exact values.** -/
theorem wellTyped_iff_conforms (t : ElementType) :
    ∀ v, WellTyped t v ↔ Conforms exactStandard t v := by
  induction t using ElementType.induction with
  | step t ih =>
    intro v
    have hchild : ∀ c ∈ t.children, ChildWellTyped c = ChildConforms exactStandard c := by
      intro c hc
      have hgood : WellTyped c = Conforms exactStandard c := funext fun w => propext (ih c hc w)
      funext held
      rw [ChildWellTyped, ChildConforms, hgood]
    have hchildren : List.Forall₂ ChildWellTyped t.children v.children ↔
        List.Forall₂ (ChildConforms exactStandard) t.children v.children := by
      rw [List.forall₂_iff_zip, List.forall₂_iff_zip]
      refine and_congr_right fun _ => forall₂_congr fun c held => ?_
      exact imp_congr_right fun hmem => by rw [hchild c (List.of_mem_zip hmem).1]
    rw [wellTyped_iff, conforms_iff, contentExact_iff, hchildren]
    rfl

/-- **Fresh values and values that were read are exact** where the type allows it. -/
theorem metAt_exactStandard {t : ElementType} (ht : t.IsExact) : exactStandard.MetAt t where
  initialContent type htype :=
    ⟨FieldValue.exact_initial (ht.content type htype),
      FieldValue.trim_display_initial (ht.content type htype)⟩
  initialAttribute a ha := FieldValue.exact_initial (ht.attributes a ha)
  readContent type htype text _ hv :=
    ⟨FieldValue.exact_of_read? (ht.content type htype) hv,
      FieldValue.trim_display_of_read? (ht.content type htype) (ht.unbounded type htype)
        (Text.trim_trim text) hv⟩
  readAttribute a ha _ _ hv := FieldValue.exact_of_read? (ht.attributes a ha) hv

/-- **Every value that any history leads to is well typed.** -/
theorem wellTyped_run {t : ElementType} (ht : ∀ n ∈ t.nodes, n.IsExact)
    (operations : List Operation) : WellTyped t (run t operations) :=
  (wellTyped_iff_conforms t _).mpr
    (conforms_run (fun n hn => metAt_exactStandard (ht n hn)) operations)

end TreeValue

end SchemaCompiler
