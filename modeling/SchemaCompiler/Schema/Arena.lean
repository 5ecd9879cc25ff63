import SchemaCompiler.Schema.Tree

/-!
# Arenas

To the outside a tree schema is an arena: a list of nodes that refer to their children by places in
the list. It is built in one pass over a document. An element gets the next free place when it is
reached, with a node that has nothing in it yet; its content and attributes are filled in as soon as
they are read; and the place of a child is added to the node when everything below the child has
been built. In the meantime the list has grown, so nodes are only ever found by their places.

A walk follows the places of the children from the root on. Places could lead in circles or out of
the list, so a walk has a bound on its depth and may fail.
-/

namespace SchemaCompiler

/-- A node of an arena. -/
structure Arena.Node where
  /-- The tag of the elements. -/
  tag : String
  /-- The name of their type in generated code. -/
  typeName : String
  /-- The member that holds them in the parent's type. -/
  member : String
  /-- How a parent holds them. -/
  container : Container
  /-- Their attributes in order. -/
  attributes : List Attribute := []
  /-- The type of their text, if they have any. -/
  content : Option Primitive := none
  /-- The places of their children, in order. -/
  children : List Nat := []
deriving DecidableEq, Repr

/-- The nodes that were built so far, and what was wrong with the document. -/
structure Arena where
  /-- The nodes, each at its place. -/
  nodes : List Arena.Node := []
  /-- What was reported. -/
  diagnostics : List Diagnostic := []

namespace Arena

/-- The key attribute of a map. -/
def Node.mapKey? (n : Node) : Option Attribute :=
  match n.container with
  | .map key _ => n.attributes.find? (fun a => a.name == key)
  | _ => none

/-! ### Building -/

/-- Puts a node at the next free place. -/
def push (a : Arena) (n : Node) : Arena :=
  { a with nodes := a.nodes ++ [n] }

/-- Changes the node at a place. -/
def patch (a : Arena) (place : Nat) (change : Node → Node) : Arena :=
  { a with nodes := a.nodes.modify place change }

/-- Reports what was wrong. -/
def report (a : Arena) (ds : List Diagnostic) : Arena :=
  { a with diagnostics := a.diagnostics ++ ds }

mutual

/-- Builds the node of an element that its parent holds in the given way, and those below it.
Returns the place of the node. -/
def addElement (unit : String) (scope : Scope) (container : Container) (a : Arena) :
    Element → Arena × Nat
  | ⟨tag, pairs, elements, text⟩ =>
    let place := a.nodes.length
    let a := a.push { tag, typeName := scope.name, member := Name.memberIdent tag, container }
    let (content, contentFaults) := ElementType.readContent unit scope ⟨tag, pairs, [], text⟩
    let taken := if content.isSome then [ElementType.contentMember] else []
    let (attributes, attributeFaults) := ElementType.readAttributes unit scope taken pairs
    let a := (a.report (contentFaults ++ attributeFaults)).patch place
      (fun n => { n with content, attributes })
    (addChildren unit scope place (attributes.map Attribute.member ++ taken) a elements, place)

/-- Builds the nodes of the remaining children of the node at a place. A child that is dropped
leaves its name free for a later one. -/
def addChildren (unit : String) (scope : Scope) (place : Nat) (taken : List String) (a : Arena) :
    List Element → Arena
  | [] => a
  | e :: rest =>
    let inner := scope.child (Name.typeIdent e.tag)
    match ElementType.containerOf e with
    | .error fault =>
      addChildren unit scope place taken (a.report [.under unit inner.display fault]) rest
    | .ok container =>
      let member := Name.memberIdent e.tag
      if taken.contains member then
        addChildren unit scope place taken
          (a.report [ElementType.duplicate unit scope e.tag]) rest
      else
        let (a, child) := addElement unit inner container a e
        addChildren unit scope place (member :: taken)
          (a.patch place (fun n => { n with children := n.children ++ [child] })) rest

end

/-- The arena of a document, and the place of the root. The root is never a container. -/
def ofElement (root : Element) : Arena × Nat :=
  addElement root.tag (.root (Name.typeIdent root.tag)) .single {} root

/-! ### Walking -/

/-- A step of a walk. -/
inductive Step where
  /-- A node is reached, before its children. -/
  | enter (scope : Scope) (place : Nat)
  /-- A node is left, after its children. -/
  | leave (scope : Scope) (place : Nat)
deriving DecidableEq, Repr

/-- The steps at several nodes, one after the other. -/
def followAll (go : Nat → Option (List Step)) : List Nat → Option (List Step)
  | [] => some []
  | place :: rest =>
    match go place, followAll go rest with
    | some first, some others => some (first ++ others)
    | _, _ => none

/-- The steps at the node of a place and below it, as the places of the children lead. There are
none if a place leads out of the list, or deeper than `depth` nodes. -/
def follow (nodes : List Node) : Nat → Scope → Nat → Option (List Step)
  | 0, _, _ => none
  | depth + 1, scope, place =>
    match nodes[place]? with
    | none => none
    | some n =>
      (followAll (fun child => (nodes[child]?).bind (fun c =>
        follow nodes depth (scope.child c.typeName) child)) n.children).map
          (fun below => .enter scope place :: (below ++ [.leave scope place]))

/-- The steps of a walk from the node at a place. There are as many levels as nodes at most. -/
def walk? (a : Arena) (root : Nat) : Option (List Step) :=
  (a.nodes[root]?).bind (fun n => follow a.nodes a.nodes.length (.root n.typeName) root)

end Arena

end SchemaCompiler
