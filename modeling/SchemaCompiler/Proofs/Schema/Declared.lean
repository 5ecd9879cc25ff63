import Mathlib.Data.List.Forall2
import SchemaCompiler.Proofs.Name.FirstOccurrences
import SchemaCompiler.Proofs.Schema.Exclusion

/-!
# Declared members

An element declares members: one for its text, if that names a type, one for each attribute that is
not reserved and whose value names a type, and one for each child whose annotation is good. All of
them stand in one generated type, so a member can be declared once only, whatever it is declared
by. Different names may well have the same member, since members are made by splitting names into
words and escaping keywords.

The members of the type that is read from an element are exactly the first occurrences among the
declared ones (`members_read`). Something that is dropped for another reason declares nothing and
takes no member. An attribute has the type that its own value names
(`standsFor_of_mem_readAttributes`); where its name stands more than once in the element, that is
the first value that names a type at all.

For a document, each node of the schema has a source, and the sources of the nodes stand in the
document in the order of the nodes (`hasSources_nodes`).
-/

namespace SchemaCompiler.ElementType

variable {unit : String} {scope : Scope} {taken : List String}

/-! ### What an element declares -/

/-- Whether a pair of an element declares an attribute. -/
def declaresAttribute (pair : String × String) : Bool :=
  !isReserved pair.1 && (Primitive.resolve? pair.2).isSome

/-- Whether an element declares a child of the element around it. -/
def declaresChild (c : Element) : Bool :=
  (containerOf c).isOk

/-- The members that are declared by the attributes of an element. -/
def declaredByAttributes (pairs : List (String × String)) : List String :=
  (pairs.filter declaresAttribute).map (fun pair => Name.memberIdent pair.1)

/-- The members that are declared by the children of an element. -/
def declaredByChildren (elements : List Element) : List String :=
  (elements.filter declaresChild).map (fun c => Name.memberIdent c.tag)

/-- **The members that an element declares**, in order and with repetitions: by its text, by its
attributes and by its children. -/
def declaredMembers (e : Element) : List String :=
  contentTaken (e.trimmedText?.bind Primitive.resolve?) ++ declaredByAttributes e.attributes ++
    declaredByChildren e.children

theorem declaredByAttributes_cons_of_pos {pair : String × String}
    (h : declaresAttribute pair = true) (rest : List (String × String)) :
    declaredByAttributes (pair :: rest) =
      Name.memberIdent pair.1 :: declaredByAttributes rest := by
  rw [declaredByAttributes, List.filter_cons_of_pos h, List.map_cons, declaredByAttributes]

theorem declaredByAttributes_cons_of_neg {pair : String × String}
    (h : declaresAttribute pair = false) (rest : List (String × String)) :
    declaredByAttributes (pair :: rest) = declaredByAttributes rest := by
  rw [declaredByAttributes, List.filter_cons_of_neg (by simp [h]), declaredByAttributes]

theorem declaredByChildren_cons_of_ok {c : Element} {container : Container}
    (h : containerOf c = .ok container) (rest : List Element) :
    declaredByChildren (c :: rest) = Name.memberIdent c.tag :: declaredByChildren rest := by
  have hc : declaresChild c = true := by rw [declaresChild, h]; rfl
  rw [declaredByChildren, List.filter_cons_of_pos hc, List.map_cons, declaredByChildren]

theorem declaredByChildren_cons_of_error {c : Element} {fault : SchemaFault}
    (h : containerOf c = .error fault) (rest : List Element) :
    declaredByChildren (c :: rest) = declaredByChildren rest := by
  have hc : declaresChild c = false := by rw [declaresChild, h]; rfl
  rw [declaredByChildren, List.filter_cons_of_neg (by simp [hc]), declaredByChildren]

/-! ### What is kept of it -/

/-- **The attributes that are kept** have the first occurrences of the declared members that are
not taken. -/
theorem members_readAttributes (taken : List String) (pairs : List (String × String)) :
    (readAttributes unit scope taken pairs).1.map Attribute.member =
      ((declaredByAttributes pairs).removeAll taken).eraseDups := by
  apply readAttributes_induction (P := fun taken pairs result =>
    result.1.map Attribute.member = ((declaredByAttributes pairs).removeAll taken).eraseDups)
  case nil =>
    intro taken
    rfl
  case reserved =>
    intro taken name typeName rest hres ih
    rw [declaredByAttributes_cons_of_neg (by simp [declaresAttribute, hres])]
    exact ih
  case unresolved =>
    intro taken name typeName rest d hres hr ih
    have hunknown := resolve?_of_resolveMember_error hr
    rw [declaredByAttributes_cons_of_neg (by simp [declaresAttribute, hunknown])]
    exact ih
  case duplicated =>
    intro taken name typeName rest type hres hr htaken ih
    have htype := resolveMember_eq_ok.mp hr
    rw [declaredByAttributes_cons_of_pos (by simp [declaresAttribute, hres, htype]),
      cons_removeAll_of_mem htaken]
    exact ih
  case kept =>
    intro taken name typeName rest type hres hr hfree ih
    have htype := resolveMember_eq_ok.mp hr
    rw [declaredByAttributes_cons_of_pos (by simp [declaresAttribute, hres, htype]),
      eraseDups_cons_removeAll_of_notMem hfree, List.map_cons, ih]
    rfl

/-- **The children that are kept** have the first occurrences of the declared members that are not
taken. -/
theorem members_readChildren (taken : List String) (elements : List Element) :
    (readChildren unit scope taken elements).1.map member =
      ((declaredByChildren elements).removeAll taken).eraseDups := by
  apply readChildren_induction (P := fun taken elements result =>
    result.1.map member = ((declaredByChildren elements).removeAll taken).eraseDups)
  case nil =>
    intro taken
    rfl
  case refused =>
    intro taken e rest fault h ih
    rw [declaredByChildren_cons_of_error h]
    exact ih
  case duplicated =>
    intro taken e rest container h htaken ih
    rw [declaredByChildren_cons_of_ok h, cons_removeAll_of_mem htaken]
    exact ih
  case kept =>
    intro taken e rest container h hfree ih
    rw [declaredByChildren_cons_of_ok h, eraseDups_cons_removeAll_of_notMem hfree, List.map_cons,
      ih, member, tag_read]

theorem eraseDups_contentTaken (content : Option Primitive) :
    (contentTaken content).eraseDups = contentTaken content := by
  cases content <;> rfl

/-- **The members of a type are the first occurrences of the declared ones.** -/
theorem members_read (unit : String) (scope : Scope) (container : Container) (e : Element) :
    (read unit scope container e).1.members = (declaredMembers e).eraseDups := by
  rw [read_eq, members, declaredMembers]
  dsimp only
  rw [readContent_fst, members_readChildren, members_readAttributes, List.eraseDups_append,
    List.eraseDups_append, eraseDups_contentTaken]
  -- the children meet the attributes that are kept, and these have the same members as the declared
  refine congrArg (fun names => _ ++ List.eraseDups names) (removeAll_congr (fun m => ?_) _)
  simp only [List.mem_append, List.mem_eraseDups, List.removeAll, List.mem_filter,
    Bool.not_eq_true', List.elem_eq_mem, decide_eq_false_iff_not]
  tauto

/-! ### The value of an attribute -/

/-- **The pair that an attribute stands for**: it has the name of the attribute, its value names the
type, and no value of that name before it names a type. -/
def StandsFor (a : Attribute) (pairs : List (String × String)) : Prop :=
  ∃ before value after, pairs = before ++ (a.name, value) :: after ∧
    Primitive.resolve? value = some a.type ∧
    ∀ p ∈ before, p.1 = a.name → Primitive.resolve? p.2 = none

theorem StandsFor.cons {a : Attribute} {pair : String × String} {pairs : List (String × String)}
    (h : StandsFor a pairs) (hpair : pair.1 = a.name → Primitive.resolve? pair.2 = none) :
    StandsFor a (pair :: pairs) := by
  obtain ⟨before, value, after, rfl, htype, hbefore⟩ := h
  refine ⟨pair :: before, value, after, rfl, htype, fun p hp => ?_⟩
  rcases List.mem_cons.mp hp with rfl | hp
  · exact hpair
  · exact hbefore p hp

/-- Where no name stands twice, the value is the one that looking up the name finds. -/
theorem StandsFor.lookup {a : Attribute} {pairs : List (String × String)} (h : StandsFor a pairs)
    (hnodup : (pairs.map Prod.fst).Nodup) :
    (pairs.lookup a.name).bind Primitive.resolve? = some a.type := by
  obtain ⟨before, value, after, rfl, htype, -⟩ := h
  rw [List.map_append, List.map_cons] at hnodup
  have hnone : before.lookup a.name = none := by
    refine List.lookup_eq_none_iff.mpr fun p hp => ?_
    have hdisjoint := List.disjoint_of_nodup_append hnodup
    exact bne_iff_ne.mpr fun hname =>
      hdisjoint (List.mem_map_of_mem hp) (hname ▸ List.mem_cons_self)
  rw [List.lookup_append, hnone, Option.none_or, List.lookup_cons_self, Option.bind_some, htype]

/-- **An attribute that is kept stands for a pair** of the element, under a name that is not
reserved. -/
theorem standsFor_of_mem_readAttributes {pairs : List (String × String)} {a : Attribute}
    (h : a ∈ (readAttributes unit scope taken pairs).1) :
    isReserved a.name = false ∧ StandsFor a pairs := by
  -- an attribute is kept under a member that is free, so what took a member before has another name
  suffices hall : ∀ a ∈ (readAttributes unit scope taken pairs).1,
      a.member ∉ taken ∧ isReserved a.name = false ∧ StandsFor a pairs from (hall a h).2
  apply readAttributes_induction (P := fun taken pairs result =>
    ∀ a ∈ result.1, a.member ∉ taken ∧ isReserved a.name = false ∧ StandsFor a pairs)
  case nil =>
    intro taken a ha
    exact absurd ha List.not_mem_nil
  case reserved =>
    intro taken name typeName rest hres ih a ha
    obtain ⟨hnew, hname, hstands⟩ := ih a ha
    refine ⟨hnew, hname, hstands.cons ?_⟩
    rintro rfl
    rw [hres] at hname
    cases hname
  case unresolved =>
    intro taken name typeName rest d _ hr ih a ha
    obtain ⟨hnew, hname, hstands⟩ := ih a ha
    exact ⟨hnew, hname, hstands.cons fun _ => resolve?_of_resolveMember_error hr⟩
  case duplicated =>
    intro taken name typeName rest type _ _ htaken ih a ha
    obtain ⟨hnew, hname, hstands⟩ := ih a ha
    refine ⟨hnew, hname, hstands.cons ?_⟩
    rintro rfl
    exact absurd htaken hnew
  case kept =>
    intro taken name typeName rest type hres hr hfree ih a ha
    rcases List.mem_cons.mp ha with rfl | ha
    · exact ⟨hfree, hres, [], typeName, rest, rfl, resolveMember_eq_ok.mp hr,
        fun p hp => absurd hp List.not_mem_nil⟩
    · obtain ⟨hnew, hname, hstands⟩ := ih a ha
      rw [List.mem_cons, not_or] at hnew
      refine ⟨hnew.2, hname, hstands.cons ?_⟩
      rintro rfl
      exact absurd rfl hnew.1

/-! ### Sources -/

/-- **What an element type has of its source**: members that are the first occurrences of the
declared ones, and attributes with the types that their values name. -/
structure MembersOf (n : ElementType) (e : Element) : Prop where
  /-- The members are the first occurrences of those that the element declares. -/
  declared : n.members = (declaredMembers e).eraseDups
  /-- No member occurs twice. -/
  nodup : n.members.Nodup
  /-- No two attributes have the same name. -/
  names : (n.attributes.map Attribute.name).Nodup
  /-- No two children have the same tag. -/
  tags : (n.children.map tag).Nodup
  /-- No attribute is an annotation. -/
  unreserved : ∀ a ∈ n.attributes, a.name ∉ ["container_", "cont_", "key_"]
  /-- Every attribute has the type that its value names. -/
  resolved : ∀ a ∈ n.attributes, StandsFor a e.attributes
  /-- Where no name stands twice in the element, that is the value of the name. -/
  unambiguous : (e.attributes.map Prod.fst).Nodup →
    ∀ a ∈ n.attributes, (e.attribute? a.name).bind Primitive.resolve? = some a.type

theorem notMem_of_isReserved {name : String} (h : isReserved name = false) :
    name ∉ ["container_", "cont_", "key_"] := by
  simpa [isReserved, and_assoc] using h

/-- **A type has the members that its element declares.** -/
theorem membersOf_read (unit : String) (scope : Scope) (container : Container) (e : Element) :
    MembersOf (read unit scope container e).1 e := by
  have hdeclared := members_read unit scope container e
  have hnodup : (read unit scope container e).1.members.Nodup := hdeclared ▸ nodup_eraseDups _
  have hstands : ∀ a ∈ (read unit scope container e).1.attributes,
      isReserved a.name = false ∧ StandsFor a e.attributes := by
    rw [read_eq]
    exact fun a ha => standsFor_of_mem_readAttributes ha
  have hnode := mem_nodes_self (read unit scope container e).1
  exact
    { declared := hdeclared
      nodup := hnodup
      names := nodup_names_of_mem_nodes hnode
      tags := nodup_tags_of_mem_nodes hnode
      unreserved := fun a ha => notMem_of_isReserved (hstands a ha).1
      resolved := fun a ha => (hstands a ha).2
      unambiguous := fun hnames a ha => (hstands a ha).2.lookup hnames }

/-- The element type that is read from an element of a unit, held in some way. -/
def ReadFrom (unit : String) (n : ElementType) (e : Element) : Prop :=
  ∃ scope, n = (read unit scope n.container e).1

/-- Element types that are read from some of the elements, in the order of the elements. -/
def HasSources (unit : String) (types : List ElementType) (elements : List Element) : Prop :=
  ∃ sources, sources.Sublist elements ∧ List.Forall₂ (ReadFrom unit) types sources

theorem HasSources.behind {types : List ElementType} {elements : List Element}
    (h : HasSources unit types elements) (dropped : List Element) :
    HasSources unit types (dropped ++ elements) := by
  obtain ⟨sources, hsub, hfrom⟩ := h
  exact ⟨sources, hsub.trans (List.sublist_append_right _ _), hfrom⟩

theorem HasSources.append {types types' : List ElementType} {elements elements' : List Element}
    (h : HasSources unit types elements) (h' : HasSources unit types' elements') :
    HasSources unit (types ++ types') (elements ++ elements') := by
  obtain ⟨sources, hsub, hfrom⟩ := h
  obtain ⟨sources', hsub', hfrom'⟩ := h'
  exact ⟨sources ++ sources', hsub.append hsub', List.rel_append hfrom hfrom'⟩

/-- What is kept of several children has sources below them, if each child has. -/
theorem hasSources_readChildren {elements : List Element}
    (h : ∀ c ∈ elements, ∀ inner container,
      HasSources unit (read unit inner container c).1.nodes c.elements) :
    HasSources unit ((readChildren unit scope taken elements).1.flatMap nodes)
      (elements.flatMap Element.elements) := by
  revert h
  apply readChildren_induction (P := fun _ elements result =>
    (∀ c ∈ elements, ∀ inner container,
      HasSources unit (read unit inner container c).1.nodes c.elements) →
    HasSources unit (result.1.flatMap nodes) (elements.flatMap Element.elements))
  case nil =>
    intro taken _
    exact ⟨[], List.Sublist.slnil, .nil⟩
  case refused =>
    intro taken c rest fault _ ih h
    rw [List.flatMap_cons]
    exact (ih fun d hd => h d (List.mem_cons_of_mem _ hd)).behind _
  case duplicated =>
    intro taken c rest container _ _ ih h
    rw [List.flatMap_cons]
    exact (ih fun d hd => h d (List.mem_cons_of_mem _ hd)).behind _
  case kept =>
    intro taken c rest container _ _ ih h
    rw [List.flatMap_cons, List.flatMap_cons]
    exact (h c List.mem_cons_self _ container).append
      (ih fun d hd => h d (List.mem_cons_of_mem _ hd))

/-- **The nodes of a schema have sources**, which stand in the document in the same order. -/
theorem hasSources_nodes (unit : String) (e : Element) :
    ∀ scope container, HasSources unit (read unit scope container e).1.nodes e.elements := by
  induction e using Element.induction with
  | step e ih =>
    intro scope container
    have hbelow : HasSources unit ((read unit scope container e).1.children.flatMap nodes)
        (e.children.flatMap Element.elements) := by
      rw [read_eq]
      exact hasSources_readChildren ih
    obtain ⟨sources, hsub, hfrom⟩ := hbelow
    rw [nodes_eq, Element.elements_eq]
    refine ⟨e :: sources, hsub.cons_cons e, .cons ⟨scope, ?_⟩ hfrom⟩
    rw [container_read]

/-- **Members of a tree schema.** Each node of the schema of a document is read from an element of
the document, in order. Its members are the first occurrences of those that the element declares,
so none occurs twice, and neither does the name of an attribute or the tag of a child. No
annotation is an attribute, and every attribute has the type that its value names. -/
theorem membersOf_nodes (document : Element) :
    ∃ sources, sources.Sublist document.elements ∧
      List.Forall₂ (fun n e => ReadFrom document.tag n e ∧ MembersOf n e)
        (ofElement document).1.nodes sources := by
  obtain ⟨sources, hsub, hfrom⟩ := hasSources_nodes document.tag document
    (.root (Name.typeIdent document.tag)) .single
  refine ⟨sources, hsub, hfrom.imp fun n e hread => ⟨hread, ?_⟩⟩
  obtain ⟨scope, hn⟩ := hread
  rw [hn]
  exact membersOf_read document.tag scope n.container e

/-- A hero that declares a member for its text again by an attribute, one for two spellings of an
attribute, and two that a dropped attribute and a refused child leave free. -/
def crowdedHero : Element where
  tag := "Hero"
  attributes :=
    [("type", "int"), ("Type", "uint8"), ("content", "string"), ("cont_", "int"),
     ("level", "number"), ("Level", "uint8")]
  children :=
    [{ tag := "Gear", attributes := [("cont_", "array")] },
     { tag := "gear", text := some "string" }, { tag := "LEVEL" }]
  text := some "string"

example : (ofElement crowdedHero).1.members = ["content", "r#type", "level", "gear"] := by
  decide

end SchemaCompiler.ElementType
