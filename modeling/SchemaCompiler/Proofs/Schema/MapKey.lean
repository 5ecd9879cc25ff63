import SchemaCompiler.Artifact.Marshal
import SchemaCompiler.Proofs.Schema.Declared

/-!
# The key of a map

An element asks for a map by naming one of its attributes as the key, and
`SchemaCompiler.ElementType.containerOf` makes sure that the attribute is there and that its type
resolves. That does not make it a member of the element type: an attribute is dropped when its
member name is taken, by the text of the element or by an attribute before it, and the key is no
exception.

`SchemaCompiler.ElementType.keyTaken` tells from the element alone whether this happens.
`mapKey?_read` says that the key attribute is kept exactly when it does not, and
`exists_hasKey_iff` what this means for the artifacts: with the key kept, the type of keys in the
record is the type of the one member by which elements are inserted; without it there is no key
attribute, and the record falls back on text.
-/

namespace SchemaCompiler

namespace ElementType

variable {unit : String} {scope : Scope} {taken : List String} {key : String}

/-! ### Attributes before the key -/

/-- Whether an attribute of the remaining pairs that comes before the key takes its member. -/
def shadowed (key : String) (pairs : List (String × String)) : Bool :=
  (pairs.takeWhile (fun p => p.1 != key)).any (fun p =>
    !isReserved p.1 && (Primitive.resolve? p.2).isSome &&
      Name.memberIdent p.1 == Name.memberIdent key)

theorem shadowed_cons_self (typeName : String) (rest : List (String × String)) :
    shadowed key ((key, typeName) :: rest) = false := by
  simp [shadowed]

theorem shadowed_cons_of_ne {name : String} (h : name ≠ key) (typeName : String)
    (rest : List (String × String)) :
    shadowed key ((name, typeName) :: rest) =
      (!isReserved name && (Primitive.resolve? typeName).isSome &&
        Name.memberIdent name == Name.memberIdent key || shadowed key rest) := by
  simp [shadowed, h]

/-- What is looked up behind a pair of another name. -/
theorem lookup_of_lookup_cons {name value typeName : String} {rest : List (String × String)}
    (h : name ≠ key) (hlookup : ((name, value) :: rest).lookup key = some typeName) :
    rest.lookup key = some typeName := by
  rwa [List.lookup_cons, beq_eq_false_iff_ne.mpr (Ne.symm h)] at hlookup

/-- A member that is taken is no member of the attributes that are kept. -/
theorem find?_readAttributes_of_taken (h : Name.memberIdent key ∈ taken)
    (pairs : List (String × String)) :
    (readAttributes unit scope taken pairs).1.find? (fun a => a.name == key) = none := by
  refine List.find?_eq_none.mpr fun a ha hname => ?_
  have hmember : a.member = Name.memberIdent key := congrArg Name.memberIdent (beq_iff_eq.mp hname)
  have hnew := (nodup_members_readAttributes unit scope taken pairs).2 a.member
    (List.mem_map_of_mem ha)
  exact hnew (hmember ▸ h)

/-- **The key among the attributes that are kept**: it is there unless its member is taken before
the attributes are read, or by an attribute before it. -/
theorem find?_readAttributes {pairs : List (String × String)} {typeName : String} {type : Primitive}
    (hres : isReserved key = false) (hlookup : pairs.lookup key = some typeName)
    (htype : Primitive.resolve? typeName = some type) :
    (readAttributes unit scope taken pairs).1.find? (fun a => a.name == key) =
      if Name.memberIdent key ∈ taken ∨ shadowed key pairs = true then none
      else some ⟨key, type⟩ := by
  by_cases htaken : Name.memberIdent key ∈ taken
  · rw [find?_readAttributes_of_taken htaken, if_pos (Or.inl htaken)]
  revert hlookup htaken
  apply readAttributes_induction (P := fun taken pairs result =>
    pairs.lookup key = some typeName → Name.memberIdent key ∉ taken →
      result.1.find? (fun a => a.name == key) =
        if Name.memberIdent key ∈ taken ∨ shadowed key pairs = true then none else some ⟨key, type⟩)
  case nil =>
    intro taken hlookup
    cases hlookup
  case reserved =>
    intro taken name value rest hname ih hlookup htaken
    have hkey : name ≠ key := fun h => by simp [h, hres] at hname
    rw [ih (lookup_of_lookup_cons hkey hlookup) htaken, shadowed_cons_of_ne hkey]
    simp [hname]
  case unresolved =>
    intro taken name value rest d hname hr ih hlookup htaken
    have hunknown := resolve?_of_resolveMember_error hr
    -- the key itself has a type, so an attribute without one is another
    have hkey : name ≠ key := by
      rintro rfl
      rw [List.lookup_cons_self, Option.some.injEq] at hlookup
      rw [hlookup, htype] at hunknown
      cases hunknown
    rw [ih (lookup_of_lookup_cons hkey hlookup) htaken, shadowed_cons_of_ne hkey]
    simp [hunknown]
  case duplicated =>
    intro taken name value rest other hname hr hin ih hlookup htaken
    -- the member of the key is free at this point, so it is not the one that is taken
    have hne : Name.memberIdent name ≠ Name.memberIdent key := fun h => htaken (h ▸ hin)
    have hkey : name ≠ key := fun h => hne (congrArg Name.memberIdent h)
    rw [ih (lookup_of_lookup_cons hkey hlookup) htaken, shadowed_cons_of_ne hkey]
    simp [hne]
  case kept =>
    intro taken name value rest other hname hr hin ih hlookup htaken
    by_cases hkey : name = key
    · subst hkey
      rw [List.lookup_cons_self, Option.some.injEq] at hlookup
      obtain rfl : other = type := by
        rw [hlookup, resolveMember_eq_ok, htype] at hr
        exact (Option.some.inj hr).symm
      rw [shadowed_cons_self]
      simp [htaken]
    · rw [shadowed_cons_of_ne hkey, List.find?_cons_of_neg (by simpa using hkey)]
      -- the attribute before the key takes the key's member, or leaves it free
      by_cases hsame : Name.memberIdent name = Name.memberIdent key
      · rw [hsame, find?_readAttributes_of_taken List.mem_cons_self]
        simp [hname, resolveMember_eq_ok.mp hr]
      · have hfree : Name.memberIdent key ∉ Name.memberIdent name :: taken := by
          simp [htaken, Ne.symm hsame]
        rw [ih (lookup_of_lookup_cons hkey hlookup) hfree]
        simp [hsame, htaken, Ne.symm hsame]

/-! ### The key of an element -/

/-- Whether the member of an element's key is taken, by its text or by an attribute before the
key. -/
def keyTaken (e : Element) (key : String) : Bool :=
  (contentTaken (e.trimmedText?.bind Primitive.resolve?)).contains (Name.memberIdent key) ||
    shadowed key e.attributes

/-- **An element that asks for a map has its key** among its own attributes, under a name that is
not reserved and with a type that resolves. -/
theorem exists_type_of_containerOf_eq_map {e : Element} {multi : Bool}
    (h : containerOf e = .ok (.map key multi)) :
    isReserved key = false ∧ ∃ typeName type,
      e.attribute? key = some typeName ∧ Primitive.resolve? typeName = some type := by
  rw [containerOf] at h
  cases hkind : (e.attribute? "container_").or (e.attribute? "cont_") with
  | none =>
    rw [hkind] at h
    cases h
  | some raw =>
    rw [hkind] at h
    dsimp only at h
    split_ifs at h with hsequence hunknown
    · cases h
    cases hdeclared : e.attribute? "key_" with
    | none =>
      rw [hdeclared] at h
      cases h
    | some rawKey =>
      rw [hdeclared] at h
      dsimp only at h
      cases hkey : e.attribute? (Text.trim rawKey) with
      | none =>
        rw [hkey] at h
        cases h
      | some keyType =>
        rw [hkey] at h
        dsimp only at h
        split_ifs at h with hreserved hunresolved
        cases h
        rw [Option.isNone_iff_eq_none] at hunresolved
        obtain ⟨type, htype⟩ := Option.ne_none_iff_exists'.mp hunresolved
        exact ⟨Bool.eq_false_iff.mpr hreserved, keyType, type, hkey, htype⟩

/-- **The key of a map**, as it is read from an element that asks for it: kept exactly when its
member is free. -/
theorem mapKey?_read {e : Element} {multi : Bool} (h : containerOf e = .ok (.map key multi)) :
    ∃ type, (e.attribute? key).bind Primitive.resolve? = some type ∧
      (read unit scope (.map key multi) e).1.mapKey? =
        if keyTaken e key = true then none else some ⟨key, type⟩ := by
  obtain ⟨hres, typeName, type, hattribute, htype⟩ := exists_type_of_containerOf_eq_map h
  refine ⟨type, by rw [hattribute, Option.bind_some, htype], ?_⟩
  have hfind := @find?_readAttributes unit scope
    (contentTaken (e.trimmedText?.bind Primitive.resolve?)) key e.attributes typeName type hres
    hattribute htype
  rw [read_eq, mapKey?]
  dsimp only [attribute?]
  rw [readContent_fst, hfind]
  simp only [keyTaken, Bool.or_eq_true, List.contains_iff_mem]

end ElementType

namespace Artifact

open ElementType

/-! ### Members of generated types -/

theorem names_elementMembers (profile : Profile) (scope : Scope) (t : ElementType) :
    (elementMembers profile scope t).map Member.name =
      contentTaken t.content ++ t.attributes.map Attribute.member ++ t.children.map member := by
  cases hc : t.content <;> simp [elementMembers, contentTaken, hc, Function.comp_def]

/-- **No two members of a generated type have the same name.** -/
theorem nodup_names_elementMembers (profile : Profile) (scope : Scope) {unit : String}
    {inner : Scope} {container : Container} {e : Element} :
    ((elementMembers profile scope (read unit inner container e).1).map Member.name).Nodup := by
  rw [names_elementMembers]
  exact (membersOf_read unit inner container e).nodup

/-! ### Keys in the artifacts -/

/-- The type of a map child in the record, for a type of keys. -/
def keyedType (profile : Profile) (parent : Scope) (child : ElementType) (multi : Bool)
    (keyType : String) : String :=
  let element := parent.moduleIdent ++ "::" ++ child.typeName
  profile.mapType.typeName ++ "<" ++ keyType ++ ", " ++
    (if multi then "Vec<" ++ element ++ ">>" else element ++ ">")

/-- The statement that inserts an element into a map child under one of its members. -/
def insertUnder (child : ElementType) (multi : Bool) (member : String) : String :=
  "self." ++ child.member ++
    (if multi then ".entry(element." ++ member ++ ".clone()).or_default().push(element);"
     else ".insert(element." ++ member ++ ".clone(), element);")

/-- **A map with its key.** The key is an attribute of the elements; the type of keys in the record
is its type, and the elements are inserted under the one member that holds it, which has that
type. -/
structure HasKey (profile : Profile) (parent scope : Scope) (n : ElementType) (key : String)
    (multi : Bool) (a : Attribute) : Prop where
  /-- The key is one of the attributes. -/
  mem : a ∈ n.attributes
  /-- It has the name that the container asks for. -/
  name : a.name = key
  /-- The schema finds it. -/
  found : n.mapKey? = some a
  /-- The record prints its type as the type of keys. -/
  printed : childType profile parent n = keyedType profile parent n multi a.type.repr
  /-- Elements are inserted under its member. -/
  inserted : keepElement n = insertUnder n multi a.member
  /-- The generated type has that member. -/
  held : a.member ∈ (elementMembers profile scope n).map Member.name
  /-- The member has the type of keys. -/
  typed : ∀ m ∈ elementMembers profile scope n, m.name = a.member → m.type = a.type.repr

theorem childType_of_map {n : ElementType} {key : String} {multi : Bool}
    (hc : n.container = .map key multi) (profile : Profile) (parent : Scope) :
    childType profile parent n =
      keyedType profile parent n multi ((n.mapKey?.map (fun a => a.type.repr)).getD "String") := by
  rw [childType, hc]
  cases n.mapKey? <;> rfl

theorem keepElement_of_map {n : ElementType} {key : String} {multi : Bool}
    (hc : n.container = .map key multi) :
    keepElement n = insertUnder n multi (Name.memberIdent key) := by
  rw [keepElement, hc]
  cases multi <;> simp [insertUnder, String.append_assoc]

/-- **A map whose key attribute is found has its key**, if no two members of its type have the same
name. -/
theorem hasKey_of_mapKey? {n : ElementType} {key : String} {multi : Bool}
    (hc : n.container = .map key multi) {a : Attribute} (hkey : n.mapKey? = some a)
    {profile : Profile} {scope : Scope}
    (hnodup : ((elementMembers profile scope n).map Member.name).Nodup) (parent : Scope) :
    HasKey profile parent scope n key multi a := by
  have hfind : n.attributes.find? (fun a => a.name == key) = some a := by
    rw [mapKey?, hc] at hkey
    exact hkey
  have hmem := List.mem_of_find?_eq_some hfind
  have hname : a.name = key := by simpa using List.find?_some hfind
  obtain ⟨own, hown, hownName, hownType⟩ : ∃ own ∈ elementMembers profile scope n,
      own.name = a.member ∧ own.type = a.type.repr := by
    refine ⟨⟨a.member, a.type.repr, initialOf a.type⟩, ?_, rfl, rfl⟩
    refine List.mem_append_left _ (List.mem_append_right _ ?_)
    exact List.mem_map.mpr ⟨a, hmem, rfl⟩
  refine ⟨hmem, hname, hkey, ?_, ?_, List.mem_map.mpr ⟨own, hown, hownName⟩, ?_⟩
  · rw [childType_of_map hc, hkey]
    rfl
  · rw [keepElement_of_map hc, Attribute.member, hname]
  · -- a member of that name is the member of the key, since names do not repeat
    intro m hm hsame
    rw [List.inj_on_of_nodup_map hnodup hm hown (hsame.trans hownName.symm), hownType]

/-- **When a map has its key.** Every map of the schema of a document comes from an element that
asks for it. It has its key exactly when the member of the key is not taken in that element, by
its text or by an attribute before the key. If it is taken, no attribute has the name of the key,
and the record prints text as the type of keys. -/
theorem exists_hasKey_iff (document : Element) {n : ElementType}
    (hn : n ∈ (ofElement document).1.nodes) {key : String} {multi : Bool}
    (hc : n.container = .map key multi) (profile : Profile) (parent scope : Scope) :
    ∃ e ∈ document.elements, (∃ inner, n = (read document.tag inner (.map key multi) e).1) ∧
      containerOf e = .ok (.map key multi) ∧
      ((∃ a, HasKey profile parent scope n key multi a) ↔ keyTaken e key = false) ∧
      (keyTaken e key = true → (∀ a ∈ n.attributes, a.name ≠ key) ∧
        childType profile parent n = keyedType profile parent n multi "String") := by
  obtain ⟨inner, e, he, hread, hkind⟩ := exists_read_of_mem_nodes hn
  rw [hc] at hread hkind
  -- the root of a schema is held alone, so a map never is the root
  have hasked : containerOf e = .ok (.map key multi) := by
    rcases hkind with ⟨-, hroot⟩ | hasked
    · cases hroot
    · exact hasked
  obtain ⟨type, -, hkey⟩ := @mapKey?_read document.tag inner key e multi hasked
  rw [← hread] at hkey
  have hfind : n.mapKey? = n.attributes.find? (fun a => a.name == key) := by
    rw [mapKey?, hc]
    rfl
  refine ⟨e, he, ⟨inner, hread⟩, hasked, ⟨?_, ?_⟩, ?_⟩
  · rintro ⟨a, ha⟩
    rw [ha.found] at hkey
    by_contra htaken
    rw [if_pos (by simpa using htaken)] at hkey
    cases hkey
  · intro hfree
    rw [hfree, if_neg Bool.false_ne_true] at hkey
    exact ⟨_, hasKey_of_mapKey? hc hkey (hread ▸ nodup_names_elementMembers profile scope) parent⟩
  · intro htaken
    rw [if_pos htaken] at hkey
    refine ⟨fun a ha hname => ?_, ?_⟩
    · rw [hfind, List.find?_eq_none] at hkey
      exact hkey a ha (beq_iff_eq.mpr hname)
    · rw [childType_of_map hc, hkey]
      rfl

/-- Members by name, whose key comes behind an attribute with another member. -/
def membersByName : Element where
  tag := "Guild"
  children :=
    [{ tag := "Member"
       attributes := [("rank", "uint8"), ("name", "char8"), ("cont_", "map"), ("key_", " name ")]
       text := some "string" }]

/-- The type of members by name. -/
def memberByName : ElementType :=
  (ofElement membersByName).1.nodes.getLast (by decide)

/-- Members by name are a map, and the key of the map is settled by an element of the document. -/
theorem exists_hasKey_memberByName :
    memberByName ∈ (ofElement membersByName).1.nodes ∧
      memberByName.container = .map "name" false ∧
      ∃ e ∈ membersByName.elements,
        (∃ inner, memberByName = (read "Guild" inner (.map "name" false) e).1) ∧
        containerOf e = .ok (.map "name" false) ∧
        ((∃ a, HasKey {} (.root "Guild") (.root "Guild") memberByName "name" false a) ↔
          keyTaken e "name" = false) ∧
        (keyTaken e "name" = true → (∀ a ∈ memberByName.attributes, a.name ≠ "name") ∧
          childType {} (.root "Guild") memberByName =
            keyedType {} (.root "Guild") memberByName false "String") := by
  have hn : memberByName ∈ (ofElement membersByName).1.nodes := List.getLast_mem _
  have hc : memberByName.container = .map "name" false := by decide
  exact ⟨hn, hc, exists_hasKey_iff membersByName hn hc {} (.root "Guild") (.root "Guild")⟩

/-- Items by an attribute whose member is that of their text. -/
def itemsByContent : Element where
  tag := "Bag"
  children :=
    [{ tag := "Item"
       attributes := [("cont_", "map"), ("key_", "content"), ("content", "int")]
       text := some "uint8" }]

/-- **A map without its key.** The text of the items takes the member of the key, so the key is
dropped: the record has a map from text to items, while items are inserted under their text, which
is a number. -/
theorem mapKey?_itemsByContent :
    ∃ n ∈ (ofElement itemsByContent).1.nodes, n.container = .map "content" false ∧
      (∀ a ∈ n.attributes, a.name ≠ "content") ∧ n.mapKey? = none ∧
      childType {} (.root "Bag") n = "BTreeMap<String, bag::Item>" ∧
      keepElement n = "self.item.insert(element.content.clone(), element);" ∧
      (elementMembers {} (.root "Bag") n).map (fun m => (m.name, m.type)) =
        [("content", "u8")] := by
  decide

end Artifact

end SchemaCompiler
