import SchemaCompiler.Artifact.Record
import SchemaCompiler.Text.Quoted

/-!
# Reading and writing trees

For each element type three procedures: one reads an element of a document into a value, one writes
a value into an element, one brings a value back to its default. Map children are inserted under
their key attribute, so that the last of several with one key stays; multimaps and sequences append;
a single child is read from the first element with its tag.
-/

namespace SchemaCompiler.Artifact

/-- The name by which the procedures refer to the module of the record types. -/
def recordAlias : String := "record"

/-- Whether an element type has any members. -/
def hasMembers (t : ElementType) : Bool :=
  t.content.isSome || !t.attributes.isEmpty || !t.children.isEmpty

/-- The path of a child's type. -/
def elementPath (scope : Scope) (child : ElementType) : String :=
  recordAlias ++ "::" ++ (scope.child child.typeName).typePath

/-- The lines after which an absent node ends a procedure. -/
def absentItems : List Item :=
  Item.block "let Some(node) = node else \x7b" [.line "return false;"] "\x7d;"

/-- The statement that keeps an element that was read. -/
def keepElement (child : ElementType) : String :=
  match child.container with
  | .map key false =>
    "self." ++ child.member ++ ".insert(element." ++ Name.memberIdent key ++ ".clone(), element);"
  | .map key true =>
    "self." ++ child.member ++ ".entry(element." ++ Name.memberIdent key ++
      ".clone()).or_default().push(element);"
  | _ => "self." ++ child.member ++ ".push(element);"

/-- The items that read the children of one type. -/
def readChildItems (scope : Scope) (child : ElementType) : List Item :=
  match child.container with
  | .single =>
    [.line ("self." ++ child.member ++ ".parse(node.child(" ++ Text.quote child.tag ++ "));")]
  | _ =>
    Item.block ("for child in node.children_named(" ++ Text.quote child.tag ++ ") \x7b")
      [ .line ("let mut element = " ++ elementPath scope child ++ "::default();"),
        .line "element.parse(Some(child));",
        .line (keepElement child) ]
      "\x7d"

/-- The procedure that reads an element. -/
def parseItems (scope : Scope) (t : ElementType) : List Item :=
  .line ("/// Read `<" ++ t.tag ++ ">` from `node`; false when the node is absent") ::
  Item.block "pub fn parse(&mut self, node: Option<&Element>) -> bool \x7b"
    (if !hasMembers t then [.line "node.is_some()"]
     else
      absentItems ++
      (if t.content.isSome then
        [.line ("node.read_content(&mut self." ++ ElementType.contentMember ++ ");")] else []) ++
      t.attributes.map (fun a =>
        .line ("node.read_attribute(" ++ Text.quote a.name ++ ", &mut self." ++ a.member ++
          ");")) ++
      t.children.flatMap (readChildItems scope) ++
      [.line "true"])
    "\x7d"

/-- The elements of a container child, as they are iterated. -/
def elementsOf (child : ElementType) : String :=
  match child.container with
  | .map _ false => "self." ++ child.member ++ ".values()"
  | .map _ true => "self." ++ child.member ++ ".values().flatten()"
  | _ => "&self." ++ child.member

/-- The items that write the children of one type. -/
def writeChildItems (child : ElementType) : List Item :=
  let create := "write(Some(node.create_child(" ++ Text.quote child.tag ++ ")));"
  match child.container with
  | .single => [.line ("self." ++ child.member ++ "." ++ create)]
  | _ =>
    Item.block ("for element in " ++ elementsOf child ++ " \x7b")
      [.line ("element." ++ create)] "\x7d"

/-- The procedure that writes an element. -/
def writeItems (t : ElementType) : List Item :=
  .line ("/// Write `<" ++ t.tag ++ ">` into `node`; false when the node is absent") ::
  Item.block "pub fn write(&self, node: Option<&mut Element>) -> bool \x7b"
    (if !hasMembers t then [.line "node.is_some()"]
     else
      absentItems ++
      (if t.content.isSome then
        [.line ("node.write_content(&self." ++ ElementType.contentMember ++ ");")] else []) ++
      t.attributes.map (fun a =>
        .line ("node.write_attribute(" ++ Text.quote a.name ++ ", &self." ++ a.member ++ ");")) ++
      t.children.flatMap writeChildItems ++
      [.line "true"])
    "\x7d"

/-- The statement that brings a child back to its default. -/
def resetChild (child : ElementType) : Item :=
  match child.container with
  | .single => .line ("self." ++ child.member ++ ".reset();")
  | _ => .line ("self." ++ child.member ++ ".clear();")

/-- The procedure that brings a value back to its default. -/
def resetItems (t : ElementType) : List Item :=
  .line "/// Restore defaults and drop all container elements" ::
  (if !hasMembers t then [.line "pub fn reset(&mut self) \x7b\x7d"]
   else
    Item.block "pub fn reset(&mut self) \x7b"
      (t.content.toList.map (fun type =>
        .line ("self." ++ ElementType.contentMember ++ " = " ++ type.initial ++ ";")) ++
       t.attributes.map (fun a => .line ("self." ++ a.member ++ " = " ++ a.type.initial ++ ";")) ++
       t.children.map resetChild)
      "\x7d")

/-- The procedures of one element type. -/
def marshalBlock (scope : Scope) (t : ElementType) : List Item :=
  .gap ::
  Item.block ("impl " ++ recordAlias ++ "::" ++ scope.typePath ++ " \x7b")
    (parseItems scope t ++ [.gap] ++ writeItems t ++ [.gap] ++ resetItems t)
    "\x7d"

/-- The procedures that a step of a traversal gives. -/
def marshalVisit : ElementType.Visit → List Item
  | .enter scope t => marshalBlock scope t
  | .leave _ _ => []

/-- The reading and writing of a tree schema. -/
def marshalItems (root : ElementType) (profile : Profile) : List Item :=
  [.line ("use " ++ profile.documentRuntime ++ "::Element;")] ++
  (if (root.numbered.map ElementType.Numbered.type).any usesFixedText then
    [.line ("use " ++ profile.storageRuntime ++ "::FixedText;")] else []) ++
  [.line ("use " ++ profile.recordModuleFor root.tag ++ " as " ++ recordAlias ++ ";")] ++
  root.walk.flatMap marshalVisit

end SchemaCompiler.Artifact
