import Mathlib.Data.List.Forall2
import SchemaCompiler.Proofs.Diagnostic
import SchemaCompiler.Proofs.Schema.Members

/-!
# Documents that lose nothing

What a document says that cannot be used is dropped from its schema, and a diagnostic is recorded
for it. Here it is shown that a document whose diagnostics are clean has lost nothing
(`mirrors_read`): the list of numbered element types goes along with the list of the elements of
the document in depth-first order, with the same tags, the same children by their numbers, and the
attributes and the content that the element declares. So every branch that drops something must
record an error, and not only a warning.
-/

namespace SchemaCompiler

open Diagnostics

/-! ### One element -/

namespace ElementType

variable {unit : String} {scope : Scope} {taken : List String}

/-- An attribute as a pair of a document declares it. -/
def AttributeOf (a : Attribute) (pair : String × String) : Prop :=
  a.name = pair.1 ∧ Primitive.resolve? pair.2 = some a.type

/-- The content as an element declares it: it is there exactly when the text is not blank, and then
it is the type that the text names. -/
def ContentOf (content : Option Primitive) (e : Element) : Prop :=
  content = e.trimmedText?.bind Primitive.resolve? ∧ content.isSome = e.trimmedText?.isSome

theorem isError_of_resolveMember_error {member typeName : String} {d : Diagnostic}
    (h : resolveMember unit scope member typeName = .error d) : d.isError = true := by
  rw [resolveMember] at h
  cases hr : Primitive.resolve? typeName with
  | none =>
    rw [hr] at h
    cases h
    rfl
  | some type =>
    rw [hr] at h
    cases h

/-- An annotation that is refused is an error. -/
theorem isError_of_containerOf_error {e : Element} {fault : SchemaFault}
    (h : containerOf e = .error fault) (path : String) :
    (Diagnostic.under unit path fault).isError = true := by
  rw [containerOf] at h
  split at h
  · cases h
  · dsimp only at h
    split_ifs at h
    · cases h
      rfl
    · split at h
      · cases h
        rfl
      · split at h
        · cases h
          rfl
        · split_ifs at h
          · cases h
            rfl
          · cases h
            rfl

/-- **No attribute is dropped without an error.** -/
theorem forall₂_readAttributes {pairs : List (String × String)}
    (hclean : Clean (readAttributes unit scope taken pairs).2) :
    List.Forall₂ AttributeOf (readAttributes unit scope taken pairs).1
      (pairs.filter (fun p => !isReserved p.1)) := by
  revert hclean
  apply readAttributes_induction (P := fun _ pairs result => Clean result.2 →
    List.Forall₂ AttributeOf result.1 (pairs.filter (fun p => !isReserved p.1)))
  case nil => exact fun _ _ => .nil
  case reserved =>
    intro taken name typeName rest hres ih hclean
    rw [List.filter_cons_of_neg (by simp [hres])]
    exact ih hclean
  case unresolved =>
    intro taken name typeName rest d _ hr _ hclean
    exact absurd hclean (not_clean_cons (isError_of_resolveMember_error hr))
  case duplicated =>
    intro taken name typeName rest type _ _ _ _ hclean
    exact absurd hclean (not_clean_cons rfl)
  case kept =>
    intro taken name typeName rest type hres hr _ ih hclean
    rw [List.filter_cons_of_pos (by simp [hres])]
    exact .cons ⟨rfl, resolveMember_eq_ok.mp hr⟩ (ih hclean)

/-- **No content is dropped without an error.** -/
theorem contentOf_readContent {e : Element} (hclean : Clean (readContent unit scope e).2) :
    ContentOf (readContent unit scope e).1 e := by
  refine ⟨readContent_fst unit scope e, ?_⟩
  rw [readContent] at hclean ⊢
  cases ht : e.trimmedText? with
  | none => rfl
  | some typeName =>
    rw [ht] at hclean
    dsimp only at hclean ⊢
    cases hr : resolveMember unit scope contentMember typeName with
    | error d =>
      rw [hr] at hclean
      exact absurd hclean (not_clean_cons (isError_of_resolveMember_error hr))
    | ok type => rfl

/-- **No child is dropped without an error**: whatever holds of each child that is read cleanly
holds of all children, one by one. -/
theorem forall₂_readChildren {R : ElementType → Element → Prop} {elements : List Element}
    (hread : ∀ c ∈ elements, ∀ inner container, Clean (read unit inner container c).2 →
      R (read unit inner container c).1 c)
    (hclean : Clean (readChildren unit scope taken elements).2) :
    List.Forall₂ R (readChildren unit scope taken elements).1 elements := by
  revert hread hclean
  apply readChildren_induction (P := fun _ elements result =>
    (∀ c ∈ elements, ∀ inner container, Clean (read unit inner container c).2 →
      R (read unit inner container c).1 c) → Clean result.2 → List.Forall₂ R result.1 elements)
  case nil => exact fun _ _ _ => .nil
  case refused =>
    intro taken e rest fault hc _ _ hclean
    exact absurd hclean (not_clean_cons (isError_of_containerOf_error hc _))
  case duplicated =>
    intro taken e rest container _ _ _ _ hclean
    exact absurd hclean (not_clean_cons rfl)
  case kept =>
    intro taken e rest container _ _ ih hread hclean
    obtain ⟨hchild, hrest⟩ := clean_append.mp hclean
    exact .cons (hread e List.mem_cons_self _ _ hchild)
      (ih (fun c hc => hread c (List.mem_cons_of_mem _ hc)) hrest)

end ElementType

/-! ### The whole document -/

/-- The places of neighbouring elements in depth-first order, the first of which stands at
`start`. -/
def Element.places (start : Nat) : List Element → List Nat
  | [] => []
  | e :: rest => start :: places (start + e.elements.length) rest

namespace ElementType

/-- **A numbered element type that lost nothing of an element**: neither its tag nor its children,
by their places, nor any attribute that is not reserved, nor its content. -/
structure Faithful (n : Numbered) (e : Element) : Prop where
  /-- The tag is that of the element. -/
  tag : n.type.tag = e.tag
  /-- The children are those of the element. -/
  children : n.children = Element.places (n.id + 1) e.children
  /-- The attributes are those of the element that are not reserved, with their types. -/
  attributes : List.Forall₂ AttributeOf n.type.attributes
    (e.attributes.filter (fun p => !isReserved p.1))
  /-- The content is that of the element. -/
  content : ContentOf n.type.content e

/-- A schema that has one faithful node for each element, wherever the counting starts. -/
structure Mirrors (t : ElementType) (e : Element) : Prop where
  /-- There are as many nodes as elements. -/
  size : t.size = e.elements.length
  /-- The nodes are faithful to the elements, in depth-first order. -/
  nodes : ∀ start, List.Forall₂ Faithful (numberedFrom start t) e.elements

theorem size_eq (t : ElementType) : t.size = 1 + sizeList t.children := by
  cases t
  rw [size]

theorem sizeList_of_mirrors {types : List ElementType} {elements : List Element}
    (h : List.Forall₂ Mirrors types elements) :
    sizeList types = (elements.flatMap Element.elements).length := by
  induction h with
  | nil => rfl
  | cons hmirrors _ ih =>
    rw [sizeList, List.flatMap_cons, List.length_append, ih, hmirrors.size]

theorem numbersFrom_of_mirrors {types : List ElementType} {elements : List Element}
    (h : List.Forall₂ Mirrors types elements) (start : Nat) :
    numbersFrom start types = Element.places start elements := by
  induction h generalizing start with
  | nil => rfl
  | cons hmirrors _ ih => rw [numbersFrom, Element.places, ih, hmirrors.size]

theorem forall₂_numberedListFrom {types : List ElementType} {elements : List Element}
    (h : List.Forall₂ Mirrors types elements) (start : Nat) :
    List.Forall₂ Faithful (numberedListFrom start types) (elements.flatMap Element.elements) := by
  induction h generalizing start with
  | nil =>
    rw [numberedListFrom]
    exact .nil
  | cons hmirrors _ ih =>
    rw [numberedListFrom, List.flatMap_cons]
    exact List.rel_append (hmirrors.nodes start) (ih _)

/-- **A document that is read cleanly loses nothing.** -/
theorem mirrors_read {unit : String} (e : Element) :
    ∀ scope container, Clean (read unit scope container e).2 →
      Mirrors (read unit scope container e).1 e := by
  induction e using Element.induction with
  | step e ih =>
    intro scope container hclean
    rw [read_eq] at hclean ⊢
    dsimp only at hclean ⊢
    obtain ⟨hfirst, hchildren⟩ := clean_append.mp hclean
    obtain ⟨hcontent, hattributes⟩ := clean_append.mp hfirst
    -- the reports of all three parts are clean, so none of them lost anything
    have hmirrors := forall₂_readChildren ih hchildren
    refine ⟨?_, fun start => ?_⟩
    · rw [size_eq, sizeList_of_mirrors hmirrors, e.elements_eq, List.length_cons, Nat.add_comm]
    · rw [numberedFrom_eq, e.elements_eq]
      refine .cons ⟨rfl, ?_, ?_, ?_⟩ (forall₂_numberedListFrom hmirrors (start + 1))
      · exact numbersFrom_of_mirrors hmirrors (start + 1)
      · exact forall₂_readAttributes hattributes
      · exact contentOf_readContent hcontent

theorem map_id_numberedListFrom {types : List ElementType}
    (h : ∀ c ∈ types, ∀ start, (numberedFrom start c).map Numbered.id = List.range' start c.size)
    (start : Nat) :
    (numberedListFrom start types).map Numbered.id = List.range' start (sizeList types) := by
  induction types generalizing start with
  | nil => rw [numberedListFrom, sizeList, List.map_nil, List.range'_zero]
  | cons c types ih =>
    rw [numberedListFrom, sizeList, List.map_append, h c List.mem_cons_self,
      ih (fun d hd => h d (List.mem_cons_of_mem _ hd)), List.range'_append_1]

/-- **The numbers of the nodes count up**, one by one. -/
theorem map_id_numberedFrom (t : ElementType) :
    ∀ start, (numberedFrom start t).map Numbered.id = List.range' start t.size := by
  induction t using ElementType.induction with
  | step t ih =>
    intro start
    rw [numberedFrom_eq, List.map_cons, map_id_numberedListFrom ih, size_eq, Nat.add_comm 1,
      List.range'_succ]

end ElementType

end SchemaCompiler
