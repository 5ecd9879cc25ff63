import Mathlib.Data.List.Nodup
import SchemaCompiler.Proofs.Schema.Nodes

/-!
# Members of element types

How the types that `SchemaCompiler.ElementType.read` makes are related to the elements they are read
from. The readers of attributes and of children go through a list and keep, drop or report each
item; what can happen to an item is said once, by an induction along the reading
(`readAttributes_induction`, `readChildren_induction`), and the rest is derived from it:

* the members of a type are different from each other, so no two attributes have the same name and
  no two children the same tag (`nodup_names_of_mem_nodes`, `nodup_tags_of_mem_nodes`);
* every node of the schema of a document is the type read from some element of the document, held in
  the way that the element asks for (`exists_read_of_mem_nodes`).
-/

namespace SchemaCompiler

namespace ElementType

variable {unit : String} {scope : Scope} {taken : List String}

/-- A new member in front of members that are new beside it. -/
theorem nodup_cons_of_new {m : String} {ms : List String} (hm : m ∉ taken)
    (h : ms.Nodup ∧ ∀ k ∈ ms, k ∉ m :: taken) :
    (m :: ms).Nodup ∧ ∀ k ∈ m :: ms, k ∉ taken := by
  obtain ⟨hnodup, hnew⟩ := h
  refine ⟨List.nodup_cons.mpr ⟨fun hin => hnew m hin List.mem_cons_self, hnodup⟩, ?_⟩
  intro k hk
  rcases List.mem_cons.mp hk with rfl | hrest
  · exact hm
  · exact fun hin => hnew k hrest (List.mem_cons_of_mem _ hin)

/-! ### Attributes, one by one -/

/-- **Induction along the reading of attributes**, with a case for each thing that can happen to an
attribute: it is reserved, its type is unknown, its member is taken, or it is kept. -/
@[elab_as_elim]
theorem readAttributes_induction
    {P : List String → List (String × String) → List Attribute × List Diagnostic → Prop}
    (nil : ∀ taken, P taken [] ([], []))
    (reserved : ∀ taken name typeName rest, isReserved name = true →
      P taken rest (readAttributes unit scope taken rest) →
      P taken ((name, typeName) :: rest) (readAttributes unit scope taken rest))
    (unresolved : ∀ taken name typeName rest d, isReserved name = false →
      resolveMember unit scope name typeName = .error d →
      P taken rest (readAttributes unit scope taken rest) →
      P taken ((name, typeName) :: rest) ((readAttributes unit scope taken rest).1,
        d :: (readAttributes unit scope taken rest).2))
    (duplicated : ∀ taken name typeName rest type, isReserved name = false →
      resolveMember unit scope name typeName = .ok type → Name.memberIdent name ∈ taken →
      P taken rest (readAttributes unit scope taken rest) →
      P taken ((name, typeName) :: rest) ((readAttributes unit scope taken rest).1,
        duplicate unit scope name :: (readAttributes unit scope taken rest).2))
    (kept : ∀ taken name typeName rest type, isReserved name = false →
      resolveMember unit scope name typeName = .ok type → Name.memberIdent name ∉ taken →
      P (Name.memberIdent name :: taken) rest
        (readAttributes unit scope (Name.memberIdent name :: taken) rest) →
      P taken ((name, typeName) :: rest)
        (⟨name, type⟩ :: (readAttributes unit scope (Name.memberIdent name :: taken) rest).1,
          (readAttributes unit scope (Name.memberIdent name :: taken) rest).2))
    (taken : List String) (pairs : List (String × String)) :
    P taken pairs (readAttributes unit scope taken pairs) := by
  induction pairs generalizing taken with
  | nil => exact nil taken
  | cons pair rest ih =>
    obtain ⟨name, typeName⟩ := pair
    rw [readAttributes]
    by_cases hres : isReserved name = true
    · rw [if_pos hres]
      exact reserved taken name typeName rest hres (ih taken)
    have hres' : isReserved name = false := Bool.eq_false_iff.mpr hres
    rw [if_neg hres]
    cases hr : resolveMember unit scope name typeName with
    | error d => exact unresolved taken name typeName rest d hres' hr (ih taken)
    | ok type =>
      simp only [List.contains_iff_mem]
      split_ifs with ht
      · exact duplicated taken name typeName rest type hres' hr ht (ih taken)
      · exact kept taken name typeName rest type hres' hr ht (ih _)

/-- A member resolves exactly when its type name does. -/
theorem resolveMember_eq_ok {member typeName : String} {type : Primitive} :
    resolveMember unit scope member typeName = .ok type ↔
      Primitive.resolve? typeName = some type := by
  rw [resolveMember]
  cases Primitive.resolve? typeName with
  | none => simp
  | some p => simp

theorem resolve?_of_resolveMember_error {member typeName : String} {d : Diagnostic}
    (h : resolveMember unit scope member typeName = .error d) :
    Primitive.resolve? typeName = none := by
  cases hr : Primitive.resolve? typeName with
  | none => rfl
  | some type =>
    rw [resolveMember_eq_ok.mpr hr] at h
    cases h

/-- The content of an element is the type that its text resolves to. -/
theorem readContent_fst (unit : String) (scope : Scope) (e : Element) :
    (readContent unit scope e).1 = e.trimmedText?.bind Primitive.resolve? := by
  rw [readContent]
  cases e.trimmedText? with
  | none => rfl
  | some typeName =>
    dsimp only [Option.bind_some]
    cases hr : resolveMember unit scope contentMember typeName with
    | error d => exact (resolve?_of_resolveMember_error hr).symm
    | ok type => exact (resolveMember_eq_ok.mp hr).symm

/-- **Kept attributes have new members**: different from each other and from those that were there
before. -/
theorem nodup_members_readAttributes (unit : String) (scope : Scope) (taken : List String)
    (pairs : List (String × String)) :
    ((readAttributes unit scope taken pairs).1.map Attribute.member).Nodup ∧
      ∀ m ∈ (readAttributes unit scope taken pairs).1.map Attribute.member, m ∉ taken := by
  apply readAttributes_induction (P := fun taken _ result =>
    (result.1.map Attribute.member).Nodup ∧ ∀ m ∈ result.1.map Attribute.member, m ∉ taken)
  case nil =>
    intro taken
    exact ⟨List.nodup_nil, fun m hm => absurd hm List.not_mem_nil⟩
  case reserved =>
    intro taken name typeName rest _ ih
    exact ih
  case unresolved =>
    intro taken name typeName rest d _ _ ih
    exact ih
  case duplicated =>
    intro taken name typeName rest type _ _ _ ih
    exact ih
  case kept =>
    intro taken name typeName rest type _ _ hfree ih
    have hmember : (Attribute.mk name type).member = Name.memberIdent name := rfl
    rw [List.map_cons, hmember]
    exact nodup_cons_of_new hfree ih

/-! ### Children, one by one -/

/-- **Induction along the reading of children**, with a case for each thing that can happen to a
child: it is refused, its member is taken, or it is kept. -/
@[elab_as_elim]
theorem readChildren_induction
    {P : List String → List Element → List ElementType × List Diagnostic → Prop}
    (nil : ∀ taken, P taken [] ([], []))
    (refused : ∀ taken e rest fault, containerOf e = .error fault →
      P taken rest (readChildren unit scope taken rest) →
      P taken (e :: rest) ((readChildren unit scope taken rest).1,
        .under unit (scope.child (Name.typeIdent e.tag)).display fault ::
          (readChildren unit scope taken rest).2))
    (duplicated : ∀ taken e rest container, containerOf e = .ok container →
      Name.memberIdent e.tag ∈ taken → P taken rest (readChildren unit scope taken rest) →
      P taken (e :: rest) ((readChildren unit scope taken rest).1,
        duplicate unit scope e.tag :: (readChildren unit scope taken rest).2))
    (kept : ∀ taken e rest container, containerOf e = .ok container →
      Name.memberIdent e.tag ∉ taken →
      P (Name.memberIdent e.tag :: taken) rest
        (readChildren unit scope (Name.memberIdent e.tag :: taken) rest) →
      P taken (e :: rest)
        ((read unit (scope.child (Name.typeIdent e.tag)) container e).1 ::
            (readChildren unit scope (Name.memberIdent e.tag :: taken) rest).1,
          (read unit (scope.child (Name.typeIdent e.tag)) container e).2 ++
            (readChildren unit scope (Name.memberIdent e.tag :: taken) rest).2))
    (taken : List String) (elements : List Element) :
    P taken elements (readChildren unit scope taken elements) := by
  induction elements generalizing taken with
  | nil =>
    rw [readChildren]
    exact nil taken
  | cons e rest ih =>
    rw [readChildren]
    cases hc : containerOf e with
    | error fault => exact refused taken e rest fault hc (ih taken)
    | ok container =>
      simp only [List.contains_iff_mem]
      split_ifs with ht
      · exact duplicated taken e rest container hc ht (ih taken)
      · exact kept taken e rest container hc ht (ih _)

/-- The members that the content of an element takes. -/
def contentTaken (content : Option Primitive) : List String :=
  if content.isSome then [contentMember] else []

/-- **What is read from an element**, part by part. -/
theorem read_eq (unit : String) (scope : Scope) (container : Container) (e : Element) :
    read unit scope container e =
      let content := readContent unit scope e
      let attributes := readAttributes unit scope (contentTaken content.1) e.attributes
      let children := readChildren unit scope
        (attributes.1.map Attribute.member ++ contentTaken content.1) e.children
      (⟨e.tag, container, attributes.1, content.1, children.1⟩,
        content.2 ++ attributes.2 ++ children.2) := by
  cases e
  rw [read]
  rfl

@[simp] theorem tag_read (unit : String) (scope : Scope) (container : Container) (e : Element) :
    (read unit scope container e).1.tag = e.tag := by
  rw [read_eq]

@[simp] theorem container_read (unit : String) (scope : Scope) (container : Container)
    (e : Element) : (read unit scope container e).1.container = container := by
  rw [read_eq]

/-- **Kept children have new members**: different from each other and from those that were there
before. -/
theorem nodup_members_readChildren (unit : String) (scope : Scope) (taken : List String)
    (elements : List Element) :
    ((readChildren unit scope taken elements).1.map member).Nodup ∧
      ∀ m ∈ (readChildren unit scope taken elements).1.map member, m ∉ taken := by
  apply readChildren_induction (P := fun taken _ result =>
    (result.1.map member).Nodup ∧ ∀ m ∈ result.1.map member, m ∉ taken)
  case nil =>
    intro taken
    exact ⟨List.nodup_nil, fun m hm => absurd hm List.not_mem_nil⟩
  case refused =>
    intro taken e rest fault _ ih
    exact ih
  case duplicated =>
    intro taken e rest container _ _ ih
    exact ih
  case kept =>
    intro taken e rest container _ hfree ih
    have hmember : (read unit (scope.child (Name.typeIdent e.tag)) container e).1.member =
        Name.memberIdent e.tag := by
      rw [member, tag_read]
    rw [List.map_cons, hmember]
    exact nodup_cons_of_new hfree ih

/-- **Every kept child is read from an element of the list**, in the way that the element asks
for. -/
theorem exists_read_of_mem_readChildren {elements : List Element} {t : ElementType}
    (h : t ∈ (readChildren unit scope taken elements).1) :
    ∃ e ∈ elements, containerOf e = .ok t.container ∧
      t = (read unit (scope.child (Name.typeIdent e.tag)) t.container e).1 := by
  revert h
  apply readChildren_induction (P := fun _ elements result => t ∈ result.1 →
    ∃ e ∈ elements, containerOf e = .ok t.container ∧
      t = (read unit (scope.child (Name.typeIdent e.tag)) t.container e).1)
  case nil =>
    intro taken h
    exact absurd h List.not_mem_nil
  case refused =>
    intro taken e rest fault _ ih h
    obtain ⟨e', he', hread⟩ := ih h
    exact ⟨e', List.mem_cons_of_mem _ he', hread⟩
  case duplicated =>
    intro taken e rest container _ _ ih h
    obtain ⟨e', he', hread⟩ := ih h
    exact ⟨e', List.mem_cons_of_mem _ he', hread⟩
  case kept =>
    intro taken e rest container hc _ ih h
    rcases List.mem_cons.mp h with rfl | hrest
    · refine ⟨e, List.mem_cons_self, ?_, ?_⟩
      · rw [container_read, hc]
      · rw [container_read]
    · obtain ⟨e', he', hread⟩ := ih hrest
      exact ⟨e', List.mem_cons_of_mem _ he', hread⟩

/-! ### All nodes -/

/-- **Every node of a schema is read from an element of the document**: the root in the given way,
the others in the way that their element asks for. -/
theorem exists_read_of_mem_nodes {container : Container} {e : Element} {n : ElementType}
    (h : n ∈ (read unit scope container e).1.nodes) :
    ∃ scope' e', e' ∈ e.elements ∧ n = (read unit scope' n.container e').1 ∧
      (e' = e ∧ n.container = container ∨ containerOf e' = .ok n.container) := by
  induction e using Element.induction generalizing scope container with
  | step e ih =>
    rw [nodes_eq] at h
    rcases List.mem_cons.mp h with rfl | hbelow
    · refine ⟨scope, e, e.mem_elements_self, ?_, Or.inl ⟨rfl, ?_⟩⟩
      · rw [container_read]
      · rw [container_read]
    · obtain ⟨c, hc, hn⟩ := List.mem_flatMap.mp hbelow
      rw [read_eq] at hc
      obtain ⟨e', he', hcont, hread⟩ := exists_read_of_mem_readChildren hc
      rw [hread] at hn
      obtain ⟨scope', e'', he'', hn', hkind⟩ := ih e' he' hn
      -- what is the root below is a child here, and held as its element asks for
      refine ⟨scope', e'', Element.mem_elements_of_mem_children he' he'', hn', Or.inr ?_⟩
      rcases hkind with ⟨rfl, hsame⟩ | hown
      · rw [hcont, hsame]
      · exact hown

/-- **No two attributes of a node have the same name.** -/
theorem nodup_names_of_mem_nodes {container : Container} {e : Element} {n : ElementType}
    (h : n ∈ (read unit scope container e).1.nodes) : (n.attributes.map Attribute.name).Nodup := by
  obtain ⟨scope', e', -, hn, -⟩ := exists_read_of_mem_nodes h
  rw [hn, read_eq]
  have hnodup := (nodup_members_readAttributes unit scope'
    (contentTaken (readContent unit scope' e').1) e'.attributes).1
  -- members are made of names, so names repeat only where members do
  refine List.Nodup.of_map Name.memberIdent ?_
  rwa [List.map_map]

/-- **No two children of a node have the same tag.** -/
theorem nodup_tags_of_mem_nodes {container : Container} {e : Element} {n : ElementType}
    (h : n ∈ (read unit scope container e).1.nodes) : (n.children.map tag).Nodup := by
  obtain ⟨scope', e', -, hn, -⟩ := exists_read_of_mem_nodes h
  rw [hn, read_eq]
  refine List.Nodup.of_map Name.memberIdent ?_
  rw [List.map_map]
  exact (nodup_members_readChildren unit scope' _ e'.children).1

end ElementType

end SchemaCompiler
