import SchemaCompiler.Artifact.Layout
import SchemaCompiler.Profile
import SchemaCompiler.Schema.Flat
import SchemaCompiler.Schema.Tree

/-!
# Record types

The types that hold the values of a schema in memory. A record schema gives one type with a member
for each field, in declaration order. A tree schema gives one type for each element type, in
depth-first order; the types of an element's children stand in a module named after the element,
right behind its own type. Every type comes with its default value.
-/

namespace SchemaCompiler.Artifact

/-- A member of a generated type. -/
structure Member where
  /-- Its name. -/
  name : String
  /-- Its type. -/
  type : String
  /-- The literal of its default value. -/
  initial : String

/-- The default of a member of a primitive type. A bounded text has no literal. -/
def initialOf (type : Primitive) : String :=
  if type.isFixedText then "Default::default()" else type.initial

/-- The default value of a type with the given members. -/
def defaultItems (name : String) (members : List Member) : List Item :=
  Item.block ("impl Default for " ++ name ++ " \x7b")
    (Item.block "fn default() -> Self \x7b"
      (if members.isEmpty then [.line "Self \x7b\x7d"]
       else Item.block "Self \x7b"
        (members.map (fun m => .line (m.name ++ ": " ++ m.initial ++ ","))) "\x7d")
      "\x7d")
    "\x7d"

/-- The line that derives traits, if there is one. -/
def deriveItems (profile : Profile) : List Item :=
  profile.deriveAttribute?.toList.map Item.line

/-! ### Records -/

/-- The member that holds a field. -/
def fieldMember (f : Field) : Member :=
  ⟨Name.memberIdent f.name, f.type.repr, initialOf f.type⟩

/-- The line that declares a member. -/
def memberLine (m : Member) : Item :=
  .line ("pub " ++ m.name ++ ": " ++ m.type ++ ",")

/-- The items of a field: its comment and its member. -/
def fieldItems (f : Field) : List Item :=
  Item.doc f.comment ++ [memberLine (fieldMember f)]

/-- The record type of a record schema. -/
def recordItems (m : FlatSchema) (profile : Profile) : List Item :=
  (if m.fields.any (fun f => f.type.isFixedText) then
    [.line ("use " ++ profile.storageRuntime ++ "::FixedText;"), .gap] else []) ++
  Item.doc m.comment ++ deriveItems profile ++
  Item.block ("pub struct " ++ m.name ++ " \x7b") (m.fields.flatMap fieldItems) "\x7d" ++
  [.gap] ++ defaultItems m.name (m.fields.map fieldMember)

/-! ### Trees -/

/-- The type of a child member, as seen from the scope of the parent. -/
def childType (profile : Profile) (parent : Scope) (child : ElementType) : String :=
  let element := parent.moduleIdent ++ "::" ++ child.typeName
  match child.container with
  | .single => element
  | .sequence => "Vec<" ++ element ++ ">"
  | .map _ multi =>
    let key := match child.mapKey? with
      | some a => a.type.repr
      | none => "String"
    profile.mapType.typeName ++ "<" ++ key ++ ", " ++
      (if multi then "Vec<" ++ element ++ ">>" else element ++ ">")

/-- The default of a child member. -/
def childInitial (profile : Profile) : Container → String
  | .single => "Default::default()"
  | .sequence => "Vec::new()"
  | .map _ _ => profile.mapType.typeName ++ "::new()"

/-- The members of an element type: content, attributes, children. -/
def elementMembers (profile : Profile) (scope : Scope) (t : ElementType) : List Member :=
  t.content.toList.map (fun type => ⟨ElementType.contentMember, type.repr, initialOf type⟩) ++
  t.attributes.map (fun a => ⟨a.member, a.type.repr, initialOf a.type⟩) ++
  t.children.map
    (fun c => ⟨c.member, childType profile scope c, childInitial profile c.container⟩)

/-- The items at which an element type is reached: its type, and the start of the module of its
children. -/
def enterItems (profile : Profile) (scope : Scope) (t : ElementType) : List Item :=
  let members := elementMembers profile scope t
  [.gap, .line ("/// `<" ++ t.tag ++ ">` element")] ++ deriveItems profile ++
  Item.block ("pub struct " ++ t.typeName ++ " \x7b") (members.map memberLine) "\x7d" ++
  [.gap] ++ defaultItems t.typeName members ++
  (if t.children.isEmpty then []
   else [.gap, .opening ("pub mod " ++ scope.moduleIdent ++ " \x7b"), .line "use super::*;"])

/-- The items of one step of a traversal. -/
def visitItems (profile : Profile) : ElementType.Visit → List Item
  | .enter scope t => enterItems profile scope t
  | .leave _ t => if t.children.isEmpty then [] else [.closing "\x7d"]

/-- Whether an element type is held in a map. -/
def isMap (t : ElementType) : Bool :=
  match t.container with
  | .map _ _ => true
  | _ => false

/-- Whether an element type has a bounded text as content or attribute. -/
def usesFixedText (t : ElementType) : Bool :=
  t.content.any Primitive.isFixedText || t.attributes.any (fun a => a.type.isFixedText)

/-- The record types of a tree schema. -/
def treeItems (root : ElementType) (profile : Profile) : List Item :=
  let types := root.numbered.map ElementType.Numbered.type
  (if types.any isMap then
    [.line ("use std::collections::" ++ profile.mapType.typeName ++ ";")] else []) ++
  (if types.any usesFixedText then
    [.line ("use " ++ profile.storageRuntime ++ "::FixedText;")] else []) ++
  root.walk.flatMap (visitItems profile)

end SchemaCompiler.Artifact
