import SchemaCompiler.Proofs.Artifact.Blocks
import SchemaCompiler.Proofs.Schema.MapKey
import SchemaCompiler.Proofs.Schema.Places

/-!
# Where record types are declared

The record types of a tree schema stand in nested modules. To see where, the artifact is read back
with a list of the blocks that are open (`SchemaCompiler.Artifact.declarations`): a type is declared
in the modules among them. Entering a node declares its type and may leave a module open, leaving
the node closes it again, so behind a subtree the same modules are open as before it
(`declarations_walkFrom`), and every type is declared at its place (`declarations_treeItems`).

The types of children are written relative to the parent. What a member for a child holds in the
end, in whatever container, is the path of the child's type from there (`innermost_childType`), and
the member is the only one of its name (`filterMap_memberType?_child`).
-/

namespace SchemaCompiler.Artifact

open Item ElementType

/-! ### Reading declarations -/

/-- A type that generated code declares. -/
structure Declaration where
  /-- The modules in which it stands, outermost first. -/
  modules : List String
  /-- Its name. -/
  name : String
  /-- What stands inside it. -/
  body : List Item

/-- The modules among the blocks that are open, outermost first, from the blocks with the last one
first. -/
def modulesOf (opened : List (Option String)) : List String :=
  opened.reverse.filterMap id

/-- The types that are declared, from the blocks that are open on. A module opens with its name,
and so does a type; all other blocks are passed over. -/
def declarations (opened : List (Option String)) : List Item → List Declaration
  | [] => []
  | .opening text :: rest =>
    match Text.between? "pub mod " " \x7b" text, Text.between? "pub struct " " \x7b" text with
    | some inner, _ => declarations (some inner :: opened) rest
    | none, some name =>
      ⟨modulesOf opened, name, upToEnd 0 rest⟩ :: declarations (none :: opened) rest
    | none, none => declarations (none :: opened) rest
  | .closing _ :: rest => declarations opened.tail rest
  | .line _ :: rest => declarations opened rest
  | .gap :: rest => declarations opened rest

/-- The type of the member of a name, if an item declares it. -/
def memberType? (member : String) : Item → Option String
  | .line text => Text.between? ("pub " ++ member ++ ": ") "," text
  | _ => none

/-- Items that declare nothing and close what they open. -/
def Plain (items : List Item) : Prop :=
  ∀ opened rest, declarations opened (items ++ rest) = declarations opened rest

theorem Plain.append {items others : List Item} (h : Plain items) (h' : Plain others) :
    Plain (items ++ others) := by
  intro opened rest
  rw [List.append_assoc, h, h']

theorem plain_gap : Plain [.gap] :=
  fun _ _ => rfl

theorem plain_lines {items : List Item} (h : AllLines items) : Plain items := by
  induction items with
  | nil => exact fun _ _ => rfl
  | cons item items ih =>
    obtain ⟨text, rfl⟩ := h _ List.mem_cons_self
    intro opened rest
    exact ih (fun i hi => h i (List.mem_cons_of_mem _ hi)) opened rest

theorem plain_block {first last : String} {body : List Item}
    (hmodule : Text.startsWith first "pub mod " = false)
    (htype : Text.startsWith first "pub struct " = false) (hbody : Plain body) :
    Plain (block first body last) := by
  intro opened rest
  simp only [block, List.cons_append, List.append_assoc, declarations,
    Text.between?_of_startsWith hmodule, Text.between?_of_startsWith htype]
  rw [hbody]
  rfl

theorem declarations_struct (opened : List (Option String)) (name : String) {body : List Item}
    (hbody : AllLines body) (rest : List Item) :
    declarations opened (block ("pub struct " ++ name ++ " \x7b") body "\x7d" ++ rest) =
      ⟨modulesOf opened, name, body⟩ :: declarations opened rest := by
  have hmodule : Text.between? "pub mod " " \x7b" ("pub struct " ++ name ++ " \x7b") = none :=
    Text.between?_of_startsWith (by simp) _
  simp only [block, List.cons_append, List.append_assoc, declarations, hmodule,
    Text.between?_append, List.nil_append, upToEnd_append hbody.balanced]
  rw [plain_lines hbody]
  rfl

/-! ### The declarations of a schema -/

theorem plain_defaultItems (name : String) (members : List Member) :
    Plain (defaultItems name members) := by
  refine plain_block (by simp)
    (by simp) (plain_block rfl rfl ?_)
  split
  · exact plain_lines (allLines_singleton _)
  · exact plain_block rfl rfl (plain_lines (allLines_map _ members))

theorem allLines_deriveItems (profile : Profile) : AllLines (deriveItems profile) :=
  allLines_map id profile.deriveAttribute?.toList

/-- The declaration of the type at a place. -/
def declarationAt (profile : Profile) (p : Place) : Declaration where
  modules := p.above.map (fun t => Name.memberIdent t.typeName)
  name := p.node.typeName
  body := (elementMembers profile p.scope p.node).map memberLine

/-- The module that stays open behind a type that has children. -/
def openedBy (scope : Scope) (t : ElementType) : List (Option String) :=
  if t.children.isEmpty then [] else [some scope.moduleIdent]

/-- The items that open the module of the children. -/
def moduleItems (scope : Scope) (t : ElementType) : List Item :=
  if t.children.isEmpty then []
  else [.gap, .opening ("pub mod " ++ scope.moduleIdent ++ " \x7b"), .line "use super::*;"]

theorem declarations_moduleItems (scope : Scope) (t : ElementType) (opened : List (Option String))
    (rest : List Item) :
    declarations opened (moduleItems scope t ++ rest) =
      declarations (openedBy scope t ++ opened) rest := by
  rw [moduleItems, openedBy]
  split
  · rfl
  · simp only [List.cons_append, List.nil_append, declarations, Text.between?_append]

/-- **Entering a node declares its type**, and leaves the module of its children open. -/
theorem declarations_enterItems (profile : Profile) (scope : Scope) (t : ElementType)
    (opened : List (Option String)) (rest : List Item) :
    declarations opened (enterItems profile scope t ++ rest) =
      ⟨modulesOf opened, t.typeName, (elementMembers profile scope t).map memberLine⟩ ::
        declarations (openedBy scope t ++ opened) rest := by
  have hbefore : Plain ([Item.gap] ++ ([Item.line ("/// `<" ++ t.tag ++ ">` element")] ++
      deriveItems profile)) :=
    plain_gap.append (plain_lines ((allLines_singleton _).append (allLines_deriveItems profile)))
  have hmembers : AllLines ((elementMembers profile scope t).map memberLine) :=
    allLines_map _ _
  have hbehind : Plain ([Item.gap] ++ defaultItems t.typeName (elementMembers profile scope t)) :=
    plain_gap.append (plain_defaultItems _ _)
  have hitems : enterItems profile scope t ++ rest =
      ([Item.gap] ++ ([Item.line ("/// `<" ++ t.tag ++ ">` element")] ++ deriveItems profile)) ++
        (block ("pub struct " ++ t.typeName ++ " \x7b")
            ((elementMembers profile scope t).map memberLine) "\x7d" ++
          (([Item.gap] ++ defaultItems t.typeName (elementMembers profile scope t)) ++
            (moduleItems scope t ++ rest))) := by
    simp only [enterItems, moduleItems, List.append_assoc, List.cons_append, List.nil_append]
  rw [hitems, hbefore, declarations_struct _ _ hmembers, hbehind, declarations_moduleItems]

/-- **Leaving a node closes what entering it left open.** -/
theorem declarations_leave (profile : Profile) (scope : Scope) (t : ElementType)
    (opened : List (Option String)) (rest : List Item) :
    declarations (openedBy scope t ++ opened) (visitItems profile (.leave scope t) ++ rest) =
      declarations opened rest := by
  rw [visitItems, openedBy]
  split <;> rfl

theorem modulesOf_openedBy {t : ElementType} (ht : t.children ≠ []) (scope : Scope)
    (opened : List (Option String)) :
    modulesOf (openedBy scope t ++ opened) = modulesOf opened ++ [scope.moduleIdent] := by
  have hne : t.children.isEmpty = false := by
    rw [List.isEmpty_eq_false_iff]
    exact ht
  simp [modulesOf, openedBy, hne]

/-- **The declarations of a subtree are those of its places.** The invariant is that the modules
that are open are those of the types above; behind the subtree, the same modules are open again. -/
theorem declarations_walkFrom (profile : Profile) (t : ElementType) :
    ∀ above opened rest, modulesOf opened = above.map (fun a => Name.memberIdent a.typeName) →
      declarations opened ((walkFrom (Place.scope ⟨above, t⟩) t).flatMap (visitItems profile) ++
        rest) = (placesFrom above t).map (declarationAt profile) ++ declarations opened rest := by
  induction t using induction_lists (Q := fun types => ∀ (p : Place) opened rest,
    (types ≠ [] →
      modulesOf opened = (p.above ++ [p.node]).map (fun a => Name.memberIdent a.typeName)) →
    declarations opened ((walkListFrom p.scope types).flatMap (visitItems profile) ++ rest) =
      (placesListFrom (p.above ++ [p.node]) types).map (declarationAt profile) ++
        declarations opened rest) with
  | node t ih =>
    intro above opened rest hopened
    have hinner : t.children ≠ [] →
        modulesOf (openedBy (Place.scope ⟨above, t⟩) t ++ opened) =
          (above ++ [t]).map (fun a => Name.memberIdent a.typeName) := by
      intro ht
      rw [modulesOf_openedBy ht, hopened, Place.moduleIdent_scope, List.map_append]
      rfl
    rw [walkFrom_eq, placesFrom_eq, List.flatMap_cons, List.flatMap_append, List.flatMap_singleton,
      List.append_assoc, List.append_assoc, visitItems, declarations_enterItems,
      ih ⟨above, t⟩ _ _ hinner, declarations_leave, List.map_cons, List.cons_append,
      declarationAt, hopened]
  | nil p opened rest _ => rfl
  | cons t types ih ihtypes p opened rest hopened =>
    have hmodules := hopened (List.cons_ne_nil t types)
    rw [walkListFrom, placesListFrom, List.flatMap_append, List.map_append, List.append_assoc,
      List.append_assoc, ← Place.scope_child, Place.child, ih _ _ _ hmodules,
      ihtypes p _ _ fun _ => hmodules]

/-- **The record types of a schema are declared at its places.** -/
theorem declarations_treeItems (t : ElementType) (profile : Profile) :
    declarations [] (treeItems t profile) = t.places.map (declarationAt profile) := by
  have hwalk := declarations_walkFrom profile t [] [] [] rfl
  rw [List.append_nil] at hwalk
  rw [treeItems, plain_lines ((allLines_if _ _).append (allLines_if _ _))]
  exact hwalk.trans (List.append_nil _)

/-! ### Types of children -/

/-- The path by which a parent's scope refers to the type of a child. -/
def relativePath (parent : Scope) (child : ElementType) : String :=
  parent.moduleIdent ++ "::" ++ child.typeName

theorem isPathChar_of_mem_relativePath (parent : Scope) (child : ElementType) :
    ∀ c ∈ (relativePath parent child).toList, Name.isPathChar c = true :=
  Text.forall_mem_append
    (Text.forall_mem_append (Name.isIdent_memberIdent _).isPathChar
      (List.all_eq_true.mp (by decide)))
    child.isIdent_typeName.isPathChar

/-- **The type of a child member refers to the child's type by its path**, in whatever it is
contained. -/
theorem innermost_childType (profile : Profile) (parent : Scope) (child : ElementType) :
    Name.innermost (childType profile parent child) = relativePath parent child := by
  have hpath := isPathChar_of_mem_relativePath parent child
  cases hc : child.container with
  | single =>
    have hplain := Name.innermost_append "" (relativePath parent child) "" (Or.inl rfl) hpath rfl
    rw [childType, hc]
    simpa [relativePath] using hplain
  | sequence =>
    rw [childType, hc]
    exact Name.innermost_append "Vec<" _ ">" (Or.inr ⟨"Vec", Or.inl rfl⟩) hpath (by decide)
  | map key multi =>
    rw [childType_of_map hc, keyedType]
    generalize ((child.mapKey?.map (fun a => a.type.repr)).getD "String") = keyType
    cases multi with
    | false =>
      have hmark : profile.mapType.typeName ++ "<" ++ keyType ++ ", " =
          profile.mapType.typeName ++ "<" ++ keyType ++ "," ++ " " := by
        rw [@String.append_assoc _ "," " "]
        rfl
      have hvalues := Name.innermost_append _ _ ">" (Or.inr ⟨_, Or.inr hmark⟩) hpath (by decide)
      rw [if_neg Bool.false_ne_true]
      simpa only [relativePath, String.append_assoc] using hvalues
    | true =>
      have hmark : profile.mapType.typeName ++ "<" ++ keyType ++ ", " ++ "Vec<" =
          profile.mapType.typeName ++ "<" ++ keyType ++ ", " ++ "Vec" ++ "<" := by
        rw [@String.append_assoc _ "Vec" "<"]
        rfl
      have hvalues := Name.innermost_append _ _ ">>" (Or.inr ⟨_, Or.inl hmark⟩) hpath (by decide)
      rw [if_pos rfl]
      simpa only [relativePath, String.append_assoc] using hvalues

/-- Members are told apart by their names, in which there is no colon. -/
theorem startsWith_member {name other : String} (hname : Name.IsIdent name)
    (hother : Name.IsIdent other) (hne : other ≠ name) (rest : String) :
    Text.startsWith ("pub " ++ other ++ ": " ++ rest) ("pub " ++ name ++ ": ") = false := by
  rw [Bool.eq_false_iff]
  intro hstart
  rw [Text.startsWith, List.isPrefixOf_iff_prefix] at hstart
  obtain ⟨tail, htail⟩ := hstart
  have hchars : name.toList ++ ':' :: (' ' :: tail) =
      other.toList ++ ':' :: (' ' :: rest.toList) := by
    simpa [String.toList_append] using htail
  -- each name is what stands before the first colon
  have hbefore : ∀ {s : String} (rest : List Char), Name.IsIdent s →
      (s.toList ++ ':' :: rest).takeWhile (· != ':') = s.toList := by
    intro s rest hs
    rw [List.takeWhile_append_of_pos, List.takeWhile_cons_of_neg (by decide), List.append_nil]
    intro c hc
    rw [bne_iff_ne]
    rintro rfl
    exact hs.not_mem rfl hc
  have hnames := congrArg (List.takeWhile (· != ':')) hchars
  rw [hbefore _ hname, hbefore _ hother] at hnames
  exact hne (String.toList_inj.mp hnames.symm)

theorem memberType?_memberLine {member : String} (hmember : Name.IsIdent member) {m : Member}
    (hm : Name.IsIdent m.name) :
    memberType? member (memberLine m) = if m.name = member then some m.type else none := by
  rw [memberLine, memberType?]
  split
  · rename_i heq
    rw [heq]
    exact Text.between?_append _ _ _
  · rename_i hne
    refine Text.between?_of_startsWith ?_ _
    rw [@String.append_assoc _ m.type ","]
    exact startsWith_member hmember hm hne _

theorem isIdent_attributeMember (a : Attribute) : Name.IsIdent a.member :=
  Name.isIdent_memberIdent a.name

theorem isIdent_of_mem_elementMembers {profile : Profile} {scope : Scope} {t : ElementType}
    {m : Member} (hm : m ∈ elementMembers profile scope t) : Name.IsIdent m.name := by
  have hcontent : contentMember.toList.all Name.isIdentChar = true := by decide
  simp only [elementMembers, List.mem_append, List.mem_map] at hm
  rcases hm with (⟨type, -, rfl⟩ | ⟨a, -, rfl⟩) | ⟨c, -, rfl⟩
  · exact List.all_eq_true.mp hcontent
  · exact isIdent_attributeMember a
  · exact c.isIdent_member

/-- **A member is found by its name**, if members have different names. -/
theorem filterMap_memberType? {members : List Member}
    (hidents : ∀ m ∈ members, Name.IsIdent m.name) (hnodup : (members.map Member.name).Nodup)
    {m : Member} (hm : m ∈ members) :
    (members.map memberLine).filterMap (memberType? m.name) = [m.type] := by
  have hident := hidents m hm
  induction members with
  | nil => exact absurd hm List.not_mem_nil
  | cons first members ih =>
    rw [List.map_cons, List.nodup_cons] at hnodup
    obtain ⟨hnew, hrest⟩ := hnodup
    have hidents' : ∀ m' ∈ members, Name.IsIdent m'.name :=
      fun m' hm' => hidents m' (List.mem_cons_of_mem _ hm')
    have hfirst := memberType?_memberLine hident (hidents first List.mem_cons_self)
    rw [List.map_cons]
    rcases List.mem_cons.mp hm with rfl | hm
    · rw [List.filterMap_cons_some (hfirst.trans (if_pos rfl)), List.filterMap_eq_nil_iff.mpr]
      intro item hitem
      obtain ⟨m', hm', rfl⟩ := List.mem_map.mp hitem
      rw [memberType?_memberLine hident (hidents' m' hm'), if_neg]
      exact fun heq => hnew (List.mem_map.mpr ⟨m', hm', heq⟩)
    · rw [List.filterMap_cons_none (hfirst.trans (if_neg ?_)), ih hidents' hrest hm]
      exact fun heq => hnew (List.mem_map.mpr ⟨m, hm, heq.symm⟩)

/-- **A declared type has one member for each child**, of the child's type. -/
theorem filterMap_memberType?_child {profile : Profile} {scope : Scope} {t c : ElementType}
    (hnodup : ((elementMembers profile scope t).map Member.name).Nodup) (hc : c ∈ t.children) :
    ((elementMembers profile scope t).map memberLine).filterMap (memberType? c.member) =
      [childType profile scope c] := by
  have hmem : (⟨c.member, childType profile scope c, childInitial profile c.container⟩ : Member) ∈
      elementMembers profile scope t :=
    List.mem_append_right _ (List.mem_map.mpr ⟨c, hc, rfl⟩)
  exact (filterMap_memberType? (fun m hm => isIdent_of_mem_elementMembers hm) hnodup hmem :)

end SchemaCompiler.Artifact
