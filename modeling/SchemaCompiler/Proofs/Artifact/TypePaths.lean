import SchemaCompiler.Proofs.Artifact.Declarations
import SchemaCompiler.Proofs.Artifact.WholeLines

/-!
# One path for each generated type

Four places in generated code say where the type of an element stands: the modules around its
declaration, the type of the member that holds it in its parent, the statement by which the parent
reads it, and the header of its own procedures. The first is read back in
`SchemaCompiler.Proofs.Artifact.Declarations`; here the procedures are read back
(`SchemaCompiler.Artifact.implementations`, `SchemaCompiler.Artifact.elementPath?`), and it is shown
that all four give the same path (`SchemaCompiler.Artifact.declaredAt_implementedAt`), which is the
one that the scope of the node spells out.

What is read back are the items that the two artifacts are laid out from. Their texts have the rows
of these items as lines, unless a tag breaks the comment that it stands in.
-/

namespace SchemaCompiler.Artifact

open Item ElementType

/-! ### Reading procedures -/

/-- The procedures that generated code gives to a type. -/
structure Implementation where
  /-- The path of the type. -/
  path : String
  /-- What stands inside. -/
  body : List Item

/-- The types that are given procedures. -/
def implementations : List Item → List Implementation
  | [] => []
  | .opening text :: rest =>
    match Text.between? "impl " " \x7b" text with
    | some path => ⟨path, upToEnd 0 rest⟩ :: implementations rest
    | none => implementations rest
  | .closing _ :: rest => implementations rest
  | .line _ :: rest => implementations rest
  | .gap :: rest => implementations rest

/-- The path of the type of which a statement makes an element, if it makes one. -/
def elementPath? : Item → Option String
  | .line text => Text.between? "let mut element = " "::default();" text
  | _ => none

theorem implementations_append {items : List Item} (h : Skips "impl " items) (rest : List Item) :
    implementations (items ++ rest) = implementations rest := by
  induction items with
  | nil => rfl
  | cons item items ih =>
    have hrest := ih fun text ht => h text (List.mem_cons_of_mem _ ht)
    cases item with
    | opening text =>
      have hnone := Text.between?_of_startsWith (h text List.mem_cons_self) " \x7b"
      simp only [List.cons_append, implementations, hnone, hrest]
    | closing text => exact hrest
    | line text => exact hrest
    | gap => exact hrest

theorem implementations_block (path : String) {body : List Item} (hbody : Apart "impl " body)
    (rest : List Item) :
    implementations (block ("impl " ++ path ++ " \x7b") body "\x7d" ++ rest) =
      ⟨path, body⟩ :: implementations rest := by
  simp only [block, List.cons_append, List.append_assoc, List.nil_append, implementations,
    Text.between?_append, upToEnd_append hbody.balanced]
  rw [implementations_append hbody.skips, implementations]

/-! ### The procedures of one type -/

theorem apart_absentItems : Apart "impl " absentItems :=
  apart_block rfl (apart_line _)

theorem apart_readChildItems (scope : Scope) (c : ElementType) :
    Apart "impl " (readChildItems scope c) := by
  rw [readChildItems]
  split
  · exact apart_line _
  · exact apart_block (by simp)
      ((apart_line _).append ((apart_line _).append (apart_line _)))

theorem apart_writeChildItems (c : ElementType) : Apart "impl " (writeChildItems c) := by
  rw [writeChildItems]
  split
  · exact apart_line _
  · exact apart_block (by simp) (apart_line _)

/-- What stands inside the procedure that reads an element. -/
def parseBody (scope : Scope) (t : ElementType) : List Item :=
  if !hasMembers t then [.line "node.is_some()"]
  else
    absentItems ++
    (if t.content.isSome then
      [.line ("node.read_content(&mut self." ++ ElementType.contentMember ++ ");")] else []) ++
    t.attributes.map (fun a =>
      .line ("node.read_attribute(" ++ Text.quote a.name ++ ", &mut self." ++ a.member ++ ");")) ++
    t.children.flatMap (readChildItems scope) ++
    [.line "true"]

theorem apart_parseBody (scope : Scope) (t : ElementType) :
    Apart "impl " (parseBody scope t) := by
  rw [parseBody]
  split
  · exact apart_line _
  · exact (((apart_absentItems.append (apart_lines (allLines_if _ _))).append
      (apart_lines (allLines_map _ _))).append
      (apart_flatMap (apart_readChildItems scope) _)).append (apart_line _)

theorem apart_parseItems (scope : Scope) (t : ElementType) :
    Apart "impl " (parseItems scope t) :=
  Apart.cons_line (apart_block rfl (apart_parseBody scope t)) _

theorem apart_writeItems (t : ElementType) : Apart "impl " (writeItems t) := by
  refine Apart.cons_line (apart_block rfl ?_) _
  split
  · exact apart_line _
  · exact (((apart_absentItems.append (apart_lines (allLines_if _ _))).append
      (apart_lines (allLines_map _ _))).append
      (apart_flatMap apart_writeChildItems _)).append (apart_line _)

theorem allLines_resetChild (types : List ElementType) : AllLines (types.map resetChild) := by
  intro item hitem
  obtain ⟨c, -, rfl⟩ := List.mem_map.mp hitem
  rw [resetChild]
  split
  · exact ⟨_, rfl⟩
  · exact ⟨_, rfl⟩

theorem apart_resetItems (t : ElementType) : Apart "impl " (resetItems t) := by
  rw [resetItems]
  refine Apart.cons_line ?_ _
  split
  · exact apart_line _
  · exact apart_block rfl (((apart_lines (allLines_map _ _)).append
      (apart_lines (allLines_map _ _))).append (apart_lines (allLines_resetChild _)))

/-- The procedures of the type at a place. -/
def implementationAt (p : Place) : Implementation where
  path := recordAlias ++ "::" ++ p.scope.typePath
  body := parseItems p.scope p.node ++ [.gap] ++ writeItems p.node ++ [.gap] ++ resetItems p.node

theorem implementations_marshalBlock (p : Place) (rest : List Item) :
    implementations (marshalBlock p.scope p.node ++ rest) =
      implementationAt p :: implementations rest := by
  have hbody : Apart "impl " (implementationAt p).body :=
    ((((apart_parseItems _ _).append apart_gap).append (apart_writeItems _)).append
      apart_gap).append (apart_resetItems _)
  have hblock := implementations_block (implementationAt p).path hbody rest
  simpa [marshalBlock, implementations, implementationAt, String.append_assoc] using hblock

/-! ### The procedures of a schema -/

theorem flatMap_marshalVisit (steps : List Visit) :
    steps.flatMap marshalVisit =
      (steps.filterMap Visit.entered?).flatMap (fun s => marshalBlock s.1 s.2) := by
  induction steps with
  | nil => rfl
  | cons step steps ih =>
    cases step with
    | enter scope t => exact congrArg (marshalBlock scope t ++ ·) ih
    | leave scope t => exact ih

theorem implementations_flatMap_marshalBlock (ps : List Place) :
    implementations (ps.flatMap (fun p => marshalBlock p.scope p.node)) =
      ps.map implementationAt := by
  induction ps with
  | nil => rfl
  | cons p ps ih => rw [List.flatMap_cons, implementations_marshalBlock, ih, List.map_cons]

/-- **The types of a schema are given their procedures at its places.** -/
theorem implementations_marshalItems (t : ElementType) (profile : Profile) :
    implementations (marshalItems t profile) = t.places.map implementationAt := by
  have hwalk : t.walk.flatMap marshalVisit =
      t.places.flatMap (fun p => marshalBlock p.scope p.node) := by
    rw [flatMap_marshalVisit, filterMap_entered_walk, List.flatMap_map]
  rw [marshalItems, hwalk, implementations_append, implementations_flatMap_marshalBlock]
  exact (((allLines_singleton _).append (allLines_if _ _)).append
    (allLines_singleton _)).skips _

/-! ### Types of elements -/

theorem elementPath?_of_startsWith {text : String}
    (h : Text.startsWith text "let mut element = " = false) : elementPath? (.line text) = none :=
  Text.between?_of_startsWith h _

theorem elementPath?_opening (text : String) : elementPath? (.opening text) = none := rfl

theorem elementPath?_closing (text : String) : elementPath? (.closing text) = none := rfl

theorem startsWith_keepElement (c : ElementType) :
    Text.startsWith (keepElement c) "let mut element = " = false := by
  rw [keepElement]
  split <;> simp

/-- Only the children in containers are read into an element of their own. -/
theorem filterMap_elementPath?_readChildItems (scope : Scope) (c : ElementType) :
    (readChildItems scope c).filterMap elementPath? =
      if c.container.isContainer then [elementPath scope c] else [] := by
  have hmake : elementPath? (.line ("let mut element = " ++ elementPath scope c ++
      "::default();")) = some (elementPath scope c) :=
    Text.between?_append _ _ _
  have hread : elementPath? (.line "element.parse(Some(child));") = none := rfl
  have hkeep := elementPath?_of_startsWith (startsWith_keepElement c)
  have hblock : ∀ first last,
      (block first [.line ("let mut element = " ++ elementPath scope c ++ "::default();"),
        .line "element.parse(Some(child));", .line (keepElement c)] last).filterMap elementPath? =
          [elementPath scope c] := by
    intro first last
    simp only [block, List.cons_append, List.nil_append, List.filterMap_cons, List.filterMap_nil,
      elementPath?_opening, elementPath?_closing, hmake, hread, hkeep]
  rw [readChildItems]
  cases c.container with
  | single =>
    have hsingle : elementPath? (.line ("self." ++ c.member ++ ".parse(node.child(" ++
        Text.quote c.tag ++ "));")) = none :=
      elementPath?_of_startsWith (by simp)
    simp only [List.filterMap_cons, List.filterMap_nil, hsingle]
    rfl
  | sequence => exact hblock _ _
  | map key multi => exact hblock _ _

theorem filterMap_elementPath?_flatMap (scope : Scope) (children : List ElementType) :
    (children.flatMap (readChildItems scope)).filterMap elementPath? =
      (children.filter (fun c => c.container.isContainer)).map (elementPath scope) := by
  induction children with
  | nil => rfl
  | cons c children ih =>
    rw [List.flatMap_cons, List.filterMap_append, filterMap_elementPath?_readChildItems, ih,
      List.filter_cons]
    split <;> rfl

/-- **The elements that are made while reading** are those of the children in containers. -/
theorem filterMap_elementPath?_parseBody (scope : Scope) (t : ElementType) :
    (parseBody scope t).filterMap elementPath? =
      (t.children.filter (fun c => c.container.isContainer)).map (elementPath scope) := by
  have hcontent : (if t.content.isSome then
      [Item.line ("node.read_content(&mut self." ++ contentMember ++ ");")] else []).filterMap
        elementPath? = [] := by
    split <;> rfl
  have hattributes : (t.attributes.map (fun a => Item.line ("node.read_attribute(" ++
      Text.quote a.name ++ ", &mut self." ++ a.member ++ ");"))).filterMap elementPath? = [] := by
    refine List.filterMap_eq_nil_iff.mpr fun item hitem => ?_
    obtain ⟨a, -, rfl⟩ := List.mem_map.mp hitem
    exact elementPath?_of_startsWith (by simp)
  rw [parseBody]
  split
  · rename_i hnone
    obtain ⟨-, hchildren⟩ : (t.content = none ∧ t.attributes = []) ∧ t.children = [] := by
      simpa [hasMembers] using hnone
    rw [hchildren]
    rfl
  · rw [List.filterMap_append, List.filterMap_append, List.filterMap_append, List.filterMap_append,
      hcontent, hattributes, filterMap_elementPath?_flatMap]
    exact List.append_nil _

/-- What stands inside the procedure that reads an element is found in front of the others. -/
theorem blockBody_parse (scope : Scope) (t : ElementType) (rest : List Item) :
    blockBody "pub fn parse(" (parseItems scope t ++ rest) = parseBody scope t := by
  rw [parseItems, List.cons_append, blockBody]
  exact blockBody_block rfl (apart_parseBody scope t).balanced rest

/-! ### One path for each type -/

/-- **How record types declare the type at a place**: in modules that are named after the types
above, the outermost first, under its own name, with one member for each child whose type leads
from these modules to the child's place. -/
structure DeclaredAt (p : Place) (d : Declaration) : Prop where
  /-- The type stands in the modules of the types above it. -/
  modules : d.modules = p.above.map (fun t => Name.memberIdent t.typeName)
  /-- It has the name of the element type. -/
  name : d.name = p.node.typeName
  /-- The members for its children lead to their places. -/
  children : ∀ c ∈ p.node.children, ∃ type, d.body.filterMap (memberType? c.member) = [type] ∧
    d.modules ++ Name.segmentsOf (Name.innermost type) = (p.child c).path

/-- **How procedures use the type at a place**: they are given to the type at its path in the
record types, and reading makes elements at the paths of the children in containers. -/
structure ImplementedAt (p : Place) (i : Implementation) : Prop where
  /-- The procedures belong to the type at the path of the place. -/
  header : Name.segmentsOf i.path = recordAlias :: p.path
  /-- Reading makes elements of the types at the places of the children. -/
  elements : ((blockBody "pub fn parse(" i.body).filterMap elementPath?).map Name.segmentsOf =
    (p.node.children.filter (fun c => c.container.isContainer)).map
      (fun c => recordAlias :: (p.child c).path)

theorem isIdent_recordAlias : Name.IsIdent recordAlias := by
  have hall : recordAlias.toList.all Name.isIdentChar = true := by decide
  exact List.all_eq_true.mp hall

theorem declaredAt_declarationAt {profile : Profile} {p : Place}
    (hnodup : ((elementMembers profile p.scope p.node).map Member.name).Nodup) :
    DeclaredAt p (declarationAt profile p) where
  modules := by rw [declarationAt]
  name := by rw [declarationAt]
  children c hc := by
    refine ⟨childType profile p.scope c, filterMap_memberType?_child hnodup hc, ?_⟩
    rw [innermost_childType, relativePath, Place.moduleIdent_scope,
      Name.segmentsOf_append (Name.isIdent_memberIdent _),
      Name.segmentsOf_of_isIdent c.isIdent_typeName, Place.path, Place.child, List.map_append,
      List.append_assoc]
    rfl

theorem implementedAt_implementationAt (p : Place) : ImplementedAt p (implementationAt p) where
  header := by
    rw [implementationAt, Name.segmentsOf_append isIdent_recordAlias, Place.segmentsOf_typePath]
  elements := by
    have hbody : blockBody "pub fn parse(" (implementationAt p).body =
        parseBody p.scope p.node := by
      rw [implementationAt]
      simp only [List.append_assoc]
      exact blockBody_parse _ _ _
    rw [hbody, filterMap_elementPath?_parseBody, List.map_map]
    refine List.map_congr_left fun c _ => ?_
    rw [Function.comp_apply, elementPath, Name.segmentsOf_append isIdent_recordAlias,
      ← Place.scope_child, Place.segmentsOf_typePath]

/-- **Record types and procedures name the same types.** The places of a document's schema are what
its traversal enters, and at each of them one type is declared and given its procedures. The modules
around the declaration, the path of the scope, the types of members in the parent, the elements that
the parent reads and the header of the procedures all lead to the same path. The items in which they
stand are those of the two artifacts, and their rows are the lines of the artifacts if no tag has a
line feed. -/
theorem declaredAt_implementedAt (document : Element) (profile : Profile) :
    let t := (ofElement document).1
    body? (.tree t) profile .record = some (render (treeItems t profile)) ∧
      body? (.tree t) profile .marshal = some (render (marshalItems t profile)) ∧
      (profile.OneLine → (∀ n ∈ t.nodes, '\n' ∉ n.tag.toList) →
        emittedLines (.tree t) profile .record = rows 0 (treeItems t profile) ∧
        emittedLines (.tree t) profile .marshal = rows 0 (marshalItems t profile)) ∧
      t.walk.filterMap Visit.entered? = t.places.map (fun p => (p.scope, p.node)) ∧
      (∀ p ∈ t.places, Name.segmentsOf p.scope.typePath = p.path ∧
        ∀ c ∈ p.node.children, p.child c ∈ t.places) ∧
      List.Forall₂ DeclaredAt t.places (declarations [] (treeItems t profile)) ∧
      List.Forall₂ ImplementedAt t.places (implementations (marshalItems t profile)) := by
  intro t
  have hrecord : items? (.tree t) profile .record = some (treeItems t profile) := rfl
  have hmarshal : items? (.tree t) profile .marshal = some (marshalItems t profile) := rfl
  refine ⟨body?_of_items? hrecord, body?_of_items? hmarshal, fun hprofile htags => ?_,
    filterMap_entered_walk t, fun p hp => ⟨p.segmentsOf_typePath, ?_⟩, ?_, ?_⟩
  · have hnodes : ∀ n ∈ t.nodes, ElementOneLine n :=
      fun n hn => elementOneLine_of_mem_nodes hn (htags n hn)
    exact ⟨emittedLines_of_items? hrecord (oneRows_treeItems hprofile hnodes),
      emittedLines_of_items? hmarshal (oneRows_marshalItems hprofile hnodes)⟩
  · exact child_mem_placesFrom t [] p hp
  · rw [declarations_treeItems, List.forall₂_map_right_iff]
    refine List.forall₂_same.mpr fun p hp => declaredAt_declarationAt ?_
    -- every node of the schema was read from an element, so its members have different names
    obtain ⟨scope, e, -, hread, -⟩ :=
      exists_read_of_mem_nodes (mem_nodes_of_mem_placesFrom t [] p hp)
    rw [hread]
    exact nodup_names_elementMembers profile p.scope
  · rw [implementations_marshalItems, List.forall₂_map_right_iff]
    exact List.forall₂_same.mpr fun p _ => implementedAt_implementationAt p

end SchemaCompiler.Artifact
