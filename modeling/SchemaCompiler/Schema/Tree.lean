import SchemaCompiler.Diagnostic
import SchemaCompiler.Document
import SchemaCompiler.Name
import SchemaCompiler.Primitive

/-!
# Tree schemas

A tree schema is a tree of element types, built from a document whose attribute values and texts
name primitive types. An element type says which attributes its elements have, whether they have
text, which children, and how many of each: a child is a single value, a sequence, or a map keyed by
one of its own attributes.

Three attribute names are reserved for that annotation and are no attributes of the elements. A
child whose annotation is no good is dropped with everything below it, and so is a member whose
name is taken; the others go on. `ElementType.ofElement` returns the type together with the
diagnostics, in the order in which the faults are met, so that it recurses on the document alone.

Element types are numbered in depth-first order; `ElementType.numbered` lists them so, and
`ElementType.walk` lists the steps of a depth-first traversal.
-/

namespace SchemaCompiler

/-- How a parent holds the elements of a type. -/
inductive Container where
  /-- One value. -/
  | single
  /-- Any number of values in document order. -/
  | sequence
  /-- Values under the value of their attribute `key`: the last one, or all if `multi`. -/
  | map (key : String) (multi : Bool)
deriving DecidableEq, Repr

/-- Whether a container holds any number of elements. -/
def Container.isContainer : Container → Bool
  | single => false
  | _ => true

/-- An attribute with its type. -/
structure Attribute where
  /-- The name in documents. -/
  name : String
  /-- The type of its values. -/
  type : Primitive
deriving DecidableEq, Repr

/-- The member that holds an attribute in generated code. -/
def Attribute.member (a : Attribute) : String :=
  Name.memberIdent a.name

/-- A type of elements. -/
structure ElementType where
  /-- The tag of the elements. -/
  tag : String
  /-- How a parent holds them. -/
  container : Container
  /-- Their attributes in order. -/
  attributes : List Attribute
  /-- The type of their text, if they have any. -/
  content : Option Primitive
  /-- The types of their children in order. -/
  children : List ElementType
deriving Repr

namespace ElementType

/-- The name of the type in generated code. -/
def typeName (t : ElementType) : String :=
  Name.typeIdent t.tag

/-- The member that holds the elements in the parent's type. -/
def member (t : ElementType) : String :=
  Name.memberIdent t.tag

/-- The attribute of a name. -/
def attribute? (t : ElementType) (name : String) : Option Attribute :=
  t.attributes.find? (fun a => a.name == name)

/-- The key attribute of a map. -/
def mapKey? (t : ElementType) : Option Attribute :=
  match t.container with
  | .map key _ => t.attribute? key
  | _ => none

/-! ### Reading one element -/

/-- The member that holds the text of an element. -/
def contentMember : String := "content"

/-- Whether an attribute name is reserved for annotation. -/
def isReserved (name : String) : Bool :=
  name == "container_" || name == "cont_" || name == "key_"

/-- The words for a sequence. -/
def sequenceKinds : List String :=
  ["vector", "list", "deque", "dequeue", "seq"]

/-- The container that an element's own attributes ask for. -/
def containerOf (e : Element) : Except SchemaFault Container :=
  match (e.attribute? "container_").or (e.attribute? "cont_") with
  | none => .ok .single
  | some raw =>
    let kind := Text.trim raw
    if sequenceKinds.contains kind then .ok .sequence
    else if kind != "map" && kind != "multimap" then .error (.invalidContainer e.tag kind)
    else
      match e.attribute? "key_" with
      | none => .error (.missingMapKeyDeclaration e.tag)
      | some rawKey =>
        let key := Text.trim rawKey
        match e.attribute? key with
        | none => .error (.missingMapKey e.tag key)
        | some keyType =>
          if isReserved key then .error (.missingMapKey e.tag key)
          else if (Primitive.resolve? keyType).isNone then
            .error (.unresolvedType (e.tag ++ "." ++ key) keyType (Primitive.suggest? keyType))
          else .ok (.map key (kind == "multimap"))

/-- The type of a member, or the diagnostic that its name does not resolve. -/
def resolveMember (unit : String) (scope : Scope) (member typeName : String) :
    Except Diagnostic Primitive :=
  match Primitive.resolve? typeName with
  | some type => .ok type
  | none =>
    .error (.under unit scope.display
      (.unresolvedType (scope.display ++ "." ++ member) (Text.trim typeName)
        (Primitive.suggest? typeName)))

/-- The diagnostic that a member's name is taken. -/
def duplicate (unit : String) (scope : Scope) (member : String) : Diagnostic :=
  .under unit scope.display (.duplicateMember scope.display member)

/-- The type of an element's text, and what was wrong with it. -/
def readContent (unit : String) (scope : Scope) (e : Element) :
    Option Primitive × List Diagnostic :=
  match e.trimmedText? with
  | none => (none, [])
  | some typeName =>
    match resolveMember unit scope contentMember typeName with
    | .ok type => (some type, [])
    | .error d => (none, [d])

/-- The attributes among the remaining pairs, and what was wrong with the others. `taken` holds the
members that exist already. -/
def readAttributes (unit : String) (scope : Scope) (taken : List String) :
    List (String × String) → List Attribute × List Diagnostic
  | [] => ([], [])
  | (name, typeName) :: rest =>
    if isReserved name then readAttributes unit scope taken rest
    else
      match resolveMember unit scope name typeName with
      | .error d =>
        let (attributes, ds) := readAttributes unit scope taken rest
        (attributes, d :: ds)
      | .ok type =>
        let member := Name.memberIdent name
        if taken.contains member then
          let (attributes, ds) := readAttributes unit scope taken rest
          (attributes, duplicate unit scope name :: ds)
        else
          let (attributes, ds) := readAttributes unit scope (member :: taken) rest
          (⟨name, type⟩ :: attributes, ds)

/-! ### Reading a document -/

mutual

/-- The type of an element that its parent holds in the given way, and what was wrong with it or
below it. -/
def read (unit : String) (scope : Scope) (container : Container) :
    Element → ElementType × List Diagnostic
  | ⟨tag, pairs, elements, text⟩ =>
    let (content, contentFaults) := readContent unit scope ⟨tag, pairs, [], text⟩
    let taken := if content.isSome then [contentMember] else []
    let (attributes, attributeFaults) := readAttributes unit scope taken pairs
    let (children, childFaults) :=
      readChildren unit scope (attributes.map Attribute.member ++ taken) elements
    (⟨tag, container, attributes, content, children⟩,
      contentFaults ++ attributeFaults ++ childFaults)

/-- The types of the remaining children, and what was wrong with the others or below them. A child
that is dropped leaves its name free for a later one. -/
def readChildren (unit : String) (scope : Scope) (taken : List String) :
    List Element → List ElementType × List Diagnostic
  | [] => ([], [])
  | e :: rest =>
    let inner := scope.child (Name.typeIdent e.tag)
    match containerOf e with
    | .error fault =>
      let (children, ds) := readChildren unit scope taken rest
      (children, .under unit inner.display fault :: ds)
    | .ok container =>
      let member := Name.memberIdent e.tag
      if taken.contains member then
        let (children, ds) := readChildren unit scope taken rest
        (children, duplicate unit scope e.tag :: ds)
      else
        let (child, childFaults) := read unit inner container e
        let (children, ds) := readChildren unit scope (member :: taken) rest
        (child :: children, childFaults ++ ds)

end

/-- The schema of a document, and what was wrong with it. The root is never a container. -/
def ofElement (root : Element) : ElementType × List Diagnostic :=
  read root.tag (.root (Name.typeIdent root.tag)) .single root

/-! ### Depth-first views -/

mutual

/-- The number of element types in a schema. -/
def size : ElementType → Nat
  | ⟨_, _, _, _, children⟩ => 1 + sizeList children

/-- The number of element types in several schemas. -/
def sizeList : List ElementType → Nat
  | [] => 0
  | t :: rest => size t + sizeList rest

end

/-- An element type with its number and the numbers of its children. -/
structure Numbered where
  /-- Its place in depth-first order. -/
  id : Nat
  /-- The element type. -/
  type : ElementType
  /-- The places of its children, in order. -/
  children : List Nat

/-- The numbers of neighbouring subtrees, the first of which has the number `start`. -/
def numbersFrom (start : Nat) : List ElementType → List Nat
  | [] => []
  | t :: rest => start :: numbersFrom (start + size t) rest

mutual

/-- The element types of a schema in depth-first order, numbered from `start`. -/
def numberedFrom (start : Nat) : ElementType → List Numbered
  | ⟨tag, container, attributes, content, children⟩ =>
    ⟨start, ⟨tag, container, attributes, content, children⟩, numbersFrom (start + 1) children⟩ ::
      numberedListFrom (start + 1) children

/-- The element types of several schemas in depth-first order, numbered from `start`. -/
def numberedListFrom (start : Nat) : List ElementType → List Numbered
  | [] => []
  | t :: rest => numberedFrom start t ++ numberedListFrom (start + size t) rest

end

/-- The element types of a schema in depth-first order, numbered from zero. -/
def numbered (t : ElementType) : List Numbered :=
  numberedFrom 0 t

/-- A step of a depth-first traversal. -/
inductive Visit where
  /-- A node is reached, before its children. -/
  | enter (scope : Scope) (type : ElementType)
  /-- A node is left, after its children. -/
  | leave (scope : Scope) (type : ElementType)

mutual

/-- The steps below and at a node of the given scope. -/
def walkFrom (scope : Scope) : ElementType → List Visit
  | ⟨tag, container, attributes, content, children⟩ =>
    let t : ElementType := ⟨tag, container, attributes, content, children⟩
    .enter scope t :: (walkListFrom scope children ++ [.leave scope t])

/-- The steps below and at the children of a node of the given scope. -/
def walkListFrom (scope : Scope) : List ElementType → List Visit
  | [] => []
  | t :: rest => walkFrom (scope.child t.typeName) t ++ walkListFrom scope rest

end

/-- The steps of a depth-first traversal. -/
def walk (t : ElementType) : List Visit :=
  walkFrom (.root t.typeName) t

end ElementType

end SchemaCompiler
