import SchemaCompiler.Proofs.Schema.Mirror
import SchemaCompiler.Schema.Arena

/-!
# The arena of a tree schema

An arena is filled while it grows: a node is put down before anything is known of it, and is changed
again each time one of its children has been built, far behind it. Here it is shown what comes out:
the arena of a document holds the element types of the schema in depth-first order, each with the
numbers of its children (`SchemaCompiler.Arena.ofElement_eq`). What is said of a build that is under
way is that nothing changes but the node whose children are being built, which gets their numbers,
and that their subtrees are added at the end (`SchemaCompiler.Arena.addChildren_eq`).

The rest follows from the numbers (`SchemaCompiler.Arena.depthFirst_ofElement`). Every place but
that of the root is listed as a child once (`SchemaCompiler.Arena.DepthFirst`), and who follows the
children from the root on goes through the whole arena in its order, as the walk of the schema does
(`SchemaCompiler.Arena.Traversal`). That following them ends, and that the number of nodes is bound
enough, goes by induction on the schema: a subtree stands in the arena as one segment
(`SchemaCompiler.Arena.Segment`), its root in front and the subtrees of its children behind, one
after the other.
-/

namespace SchemaCompiler

namespace ElementType

/-! ### The nodes of a schema -/

/-- The node of an element type whose children stand at the given places. -/
def node (t : ElementType) (children : List Nat) : Arena.Node where
  tag := t.tag
  typeName := t.typeName
  member := t.member
  container := t.container
  attributes := t.attributes
  content := t.content
  children := children

/-- The node of a numbered element type. -/
def Numbered.node (n : Numbered) : Arena.Node :=
  n.type.node n.children

/-- The nodes of a subtree that starts at a place. -/
def nodesFrom (start : Nat) (t : ElementType) : List Arena.Node :=
  (numberedFrom start t).map Numbered.node

/-- The nodes of neighbouring subtrees, the first of which starts at a place. -/
def nodesListFrom (start : Nat) (types : List ElementType) : List Arena.Node :=
  (numberedListFrom start types).map Numbered.node

theorem nodesFrom_eq (start : Nat) (t : ElementType) :
    nodesFrom start t =
      t.node (numbersFrom (start + 1) t.children) :: nodesListFrom (start + 1) t.children := by
  rw [nodesFrom, numberedFrom_eq, List.map_cons, nodesListFrom, Numbered.node]

theorem nodesListFrom_cons (start : Nat) (t : ElementType) (types : List ElementType) :
    nodesListFrom start (t :: types) =
      nodesFrom start t ++ nodesListFrom (start + t.size) types := by
  rw [nodesListFrom, numberedListFrom, List.map_append, nodesFrom, nodesListFrom]

theorem length_numberedFrom (start : Nat) (t : ElementType) :
    (numberedFrom start t).length = t.size := by
  rw [← List.length_map, map_id_numberedFrom, List.length_range']

@[simp]
theorem typeName_node (t : ElementType) (children : List Nat) :
    (t.node children).typeName = t.typeName := by
  rw [node]

theorem length_nodesFrom (start : Nat) (t : ElementType) :
    (nodesFrom start t).length = t.size := by
  rw [nodesFrom, List.length_map, length_numberedFrom]

end ElementType

namespace Arena

open ElementType

/-! ### Building -/

/-- Adds places to the children of a node. -/
def Node.addChildren (places : List Nat) (n : Node) : Node :=
  { n with children := n.children ++ places }

/-- The arena with the nodes of several subtrees at its end, and with their places among the
children of an earlier node. -/
def extend (a : Arena) (place : Nat) (types : List ElementType) (ds : List Diagnostic) : Arena where
  nodes := a.nodes.modify place (Node.addChildren (numbersFrom a.nodes.length types)) ++
    nodesListFrom a.nodes.length types
  diagnostics := a.diagnostics ++ ds

/-- The arena with the nodes of a subtree at its end. -/
def append (a : Arena) (t : ElementType) (ds : List Diagnostic) : Arena where
  nodes := a.nodes ++ nodesFrom a.nodes.length t
  diagnostics := a.diagnostics ++ ds

theorem extend_nil (a : Arena) (place : Nat) (ds : List Diagnostic) :
    a.extend place [] ds = a.report ds := by
  have hsame : Node.addChildren [] = id := by
    funext n
    rw [Node.addChildren, List.append_nil, id_eq]
  rw [extend, report, numbersFrom, hsame, List.modify_id, nodesListFrom, numberedListFrom,
    List.map_nil, List.append_nil]

theorem extend_report (a : Arena) (place : Nat) (types : List ElementType)
    (ds others : List Diagnostic) :
    (a.report ds).extend place types others = a.extend place types (ds ++ others) := by
  rw [extend, report, extend, List.append_assoc]

/-- Changing a node leaves alone what stands behind it. -/
theorem modify_append_of_lt {place : Nat} {nodes : List Node} (h : place < nodes.length)
    (change : Node → Node) (others : List Node) :
    (nodes ++ others).modify place change = nodes.modify place change ++ others := by
  induction nodes generalizing place with
  | nil => cases h
  | cons n nodes ih =>
    cases place with
    | zero => rfl
    | succ place =>
      rw [List.cons_append, List.modify_succ_cons, List.modify_succ_cons, List.cons_append,
        ih (Nat.lt_of_succ_lt_succ h)]

/-- Changing the node at the end. -/
theorem modify_concat (nodes : List Node) (n : Node) (change : Node → Node) :
    (nodes ++ [n]).modify nodes.length change = nodes ++ [change n] := by
  induction nodes with
  | nil => rfl
  | cons first nodes ih =>
    rw [List.cons_append, List.length_cons, List.modify_succ_cons, ih, List.cons_append]

/-- A subtree that has been built and listed as a child, and then its later siblings. -/
theorem extend_patch_append {a : Arena} {place : Nat} (hplace : place < a.nodes.length)
    (t : ElementType) (types : List ElementType) (ds others : List Diagnostic) :
    ((a.append t ds).patch place (Node.addChildren [a.nodes.length])).extend place types others =
      a.extend place (t :: types) (ds ++ others) := by
  have hlength : ((a.append t ds).patch place
      (Node.addChildren [a.nodes.length])).nodes.length = a.nodes.length + t.size := by
    rw [patch, List.length_modify, append, List.length_append, length_nodesFrom]
  have hboth : Node.addChildren (numbersFrom (a.nodes.length + t.size) types) ∘
      Node.addChildren [a.nodes.length] =
        Node.addChildren (numbersFrom a.nodes.length (t :: types)) := by
    funext n
    rw [Function.comp_apply, Node.addChildren, Node.addChildren, Node.addChildren,
      List.append_assoc, numbersFrom, List.singleton_append]
  have hnodes : (a.append t ds).nodes = a.nodes ++ nodesFrom a.nodes.length t := rfl
  rw [extend, hlength, patch, List.modify_modify_eq, hboth, hnodes, modify_append_of_lt hplace,
    extend, nodesListFrom_cons, List.append_assoc, append, List.append_assoc]

/-- **What an element adds to an arena**: the nodes of its type and of those below it, at the
end. -/
def Adds (unit : String) (e : Element) : Prop :=
  ∀ scope container (a : Arena), scope.name = Name.typeIdent e.tag →
    addElement unit scope container a e =
      (a.append (read unit scope container e).1 (read unit scope container e).2, a.nodes.length)

/-- **The children of a node are built behind it.** Each adds the nodes of its subtree at the end,
and its place to the node; no other node changes. -/
theorem addChildren_eq {unit : String} {elements : List Element} (h : ∀ e ∈ elements, Adds unit e)
    (scope : Scope) (taken : List String) {place : Nat} {a : Arena}
    (hplace : place < a.nodes.length) :
    addChildren unit scope place taken a elements =
      a.extend place (readChildren unit scope taken elements).1
        (readChildren unit scope taken elements).2 := by
  induction elements generalizing taken a with
  | nil =>
    rw [addChildren, readChildren, extend_nil, report, List.append_nil]
  | cons e rest ih =>
    have hrest : ∀ c ∈ rest, Adds unit c := fun c hc => h c (List.mem_cons_of_mem _ hc)
    rw [addChildren, readChildren]
    cases hc : containerOf e with
    | error fault =>
      exact (ih hrest taken (a := a.report _) hplace).trans (extend_report a place _ _ _)
    | ok container =>
      dsimp only
      split
      · exact (ih hrest taken (a := a.report _) hplace).trans (extend_report a place _ _ _)
      · have hname : (scope.child (Name.typeIdent e.tag)).name = Name.typeIdent e.tag := by
          rw [Scope.name, Scope.child, List.getLastD_concat]
        have hgrown : place < ((a.append (read unit (scope.child (Name.typeIdent e.tag)) container
            e).1 (read unit (scope.child (Name.typeIdent e.tag)) container e).2).patch place
            (Node.addChildren [a.nodes.length])).nodes.length := by
          rw [patch, List.length_modify, append, List.length_append]
          omega
        rw [h e List.mem_cons_self _ container a hname]
        dsimp only
        exact (ih hrest _ hgrown).trans (extend_patch_append hplace _ _ _ _)

/-- The node of an element with its content and attributes, but without children yet. -/
def nodeOf (scope : Scope) (container : Container) (tag : String) (content : Option Primitive)
    (attributes : List Attribute) : Node where
  tag := tag
  typeName := scope.name
  member := Name.memberIdent tag
  container := container
  attributes := attributes
  content := content

/-- With its children, it is the node of the type that is read from the element. -/
theorem addChildren_nodeOf {scope : Scope} {tag : String} (h : scope.name = Name.typeIdent tag)
    (container : Container) (content : Option Primitive) (attributes : List Attribute)
    (children : List ElementType) (places : List Nat) :
    (nodeOf scope container tag content attributes).addChildren places =
      ElementType.node ⟨tag, container, attributes, content, children⟩ places := by
  rw [nodeOf, h, Node.addChildren, ElementType.node, List.nil_append, typeName, member]

/-- **What happens to an element**: its node is put down, filled in, and then given its children. -/
theorem addElement_eq (unit : String) (scope : Scope) (container : Container) (a : Arena)
    (e : Element) :
    addElement unit scope container a e =
      let content := readContent unit scope e
      let attributes := readAttributes unit scope (contentTaken content.1) e.attributes
      let n := nodeOf scope container e.tag content.1 attributes.1
      (addChildren unit scope a.nodes.length
        (attributes.1.map Attribute.member ++ contentTaken content.1)
        ((a.push n).report (content.2 ++ attributes.2)) e.children, a.nodes.length) := by
  cases e
  rw [addElement]
  dsimp only [patch, report, push]
  rw [modify_concat]
  rfl

/-- **An element adds the nodes of its type**, if the scope is that of the element. -/
theorem adds_element (unit : String) (e : Element) : Adds unit e := by
  induction e using Element.induction with
  | step e ih =>
    intro scope container a hname
    have hplace : ∀ n ds, a.nodes.length < ((a.push n).report ds).nodes.length := by
      intro n ds
      rw [report, push, List.length_append, List.length_singleton]
      omega
    rw [addElement_eq]
    dsimp only
    rw [addChildren_eq ih scope _ (hplace _ _), read_eq]
    dsimp only [extend, append, report, push]
    rw [modify_concat, addChildren_nodeOf hname, nodesFrom_eq, List.length_append,
      List.length_singleton, List.append_assoc, List.append_assoc, List.singleton_append]

/-- **The arena of a document holds the numbered nodes of its schema**, and the root is at the
first place. -/
theorem ofElement_eq (document : Element) :
    Arena.ofElement document =
      (⟨(ElementType.ofElement document).1.numbered.map Numbered.node,
        (ElementType.ofElement document).2⟩, 0) := by
  have hname : (Scope.root (Name.typeIdent document.tag)).name = Name.typeIdent document.tag := by
    rw [Scope.name, Scope.root, List.getLastD_cons, List.getLastD_nil]
  rw [Arena.ofElement, adds_element document.tag document _ _ _ hname, append, List.nil_append,
    List.nil_append, List.length_nil, ← ElementType.ofElement, nodesFrom, numbered]

theorem nodes_ofElement (document : Element) :
    (Arena.ofElement document).1.nodes =
      (ElementType.ofElement document).1.numbered.map Numbered.node := by
  rw [ofElement_eq]

/-! ### What is shown -/

namespace Step

/-- The place that a step enters, if it enters one. -/
def entered? : Step → Option Nat
  | enter _ place => some place
  | leave _ _ => none

end Step

/-- The nodes that are still open after some steps, the last one first. There is no answer if a step
leaves another node than the one that was entered last. -/
def openAfter (opened : List (Scope × Nat)) : List Step → Option (List (Scope × Nat))
  | [] => some opened
  | .enter scope place :: rest => openAfter ((scope, place) :: opened) rest
  | .leave scope place :: rest =>
    match opened with
    | [] => none
    | last :: others => if last = (scope, place) then openAfter others rest else none

/-- **The type names from the root down to a node**, as the places of the children lead. -/
inductive NamesTo (nodes : List Node) : Nat → List String → Prop
  /-- The root has its own name. -/
  | root {n : Node} (h : nodes[0]? = some n) : NamesTo nodes 0 [n.typeName]
  /-- A child adds its name to those of its parent. -/
  | child {n c : Node} {place child : Nat} {names : List String} (h : NamesTo nodes place names)
      (hn : nodes[place]? = some n) (hchild : child ∈ n.children) (hc : nodes[child]? = some c) :
      NamesTo nodes child (names ++ [c.typeName])

/-- **Nodes that are one tree in depth-first order.** -/
structure DepthFirst (nodes : List Node) : Prop where
  /-- The places of children go up. -/
  increasing : ∀ n ∈ nodes, n.children.Pairwise (· < ·)
  /-- A child comes behind its parent, and is in the list. -/
  later : ∀ place n, nodes[place]? = some n → ∀ c ∈ n.children, place < c ∧ c < nodes.length
  /-- Every place but the first is listed among the children of one node, and once. -/
  parents : ∀ place, 0 < place → place < nodes.length →
    (nodes.flatMap Node.children).count place = 1

/-- **The steps of a walk that goes through all nodes.** -/
structure Traversal (nodes : List Node) (scope : Scope) (steps : List Step) : Prop where
  /-- Following the places from the root on ends, and no deeper than there are nodes. -/
  ends : ∀ depth, nodes.length ≤ depth → follow nodes depth scope 0 = some steps
  /-- The nodes are entered in order, each of them once. -/
  enters : steps.filterMap Step.entered? = List.range nodes.length
  /-- What is entered is left, the last one first. -/
  nested : openAfter [] steps = some []
  /-- The scope of a node that is entered is made of the type names from the root down to it. -/
  names : ∀ inner place, .enter inner place ∈ steps → NamesTo nodes place inner.segments

/-- A step in the arena does what a step in the tree does: it has the same scope, and at its place
stands the node of the same type. -/
inductive Step.Shows (nodes : List Node) : Step → Visit → Prop
  /-- A node is reached. -/
  | enter {place : Nat} {t : ElementType} {children : List Nat} (scope : Scope)
      (h : nodes[place]? = some (t.node children)) :
      Shows nodes (.enter scope place) (.enter scope t)
  /-- A node is left. -/
  | leave {place : Nat} {t : ElementType} {children : List Nat} (scope : Scope)
      (h : nodes[place]? = some (t.node children)) :
      Shows nodes (.leave scope place) (.leave scope t)

/-! ### The steps of a subtree -/

mutual

/-- The steps at and below a node of the given scope, with places from `start` on. -/
def stepsFrom (scope : Scope) (start : Nat) : ElementType → List Step
  | ⟨_, _, _, _, children⟩ =>
    .enter scope start :: (stepsListFrom scope (start + 1) children ++ [.leave scope start])

/-- The steps at and below the children of a node of the given scope. -/
def stepsListFrom (scope : Scope) (start : Nat) : List ElementType → List Step
  | [] => []
  | t :: rest =>
    stepsFrom (scope.child t.typeName) start t ++ stepsListFrom scope (start + size t) rest

end

theorem stepsFrom_eq (scope : Scope) (start : Nat) (t : ElementType) :
    stepsFrom scope start t =
      .enter scope start ::
        (stepsListFrom scope (start + 1) t.children ++ [.leave scope start]) := by
  cases t
  rw [stepsFrom]

/-- **The places that the steps enter count up**, one by one. -/
theorem filterMap_entered_stepsFrom (t : ElementType) :
    ∀ scope start, (stepsFrom scope start t).filterMap Step.entered? =
      List.range' start t.size := by
  induction t using induction_lists (Q := fun types => ∀ scope start,
    (stepsListFrom scope start types).filterMap Step.entered? =
      List.range' start (sizeList types)) with
  | node t ih =>
    intro scope start
    rw [stepsFrom_eq, size_eq, Nat.add_comm 1, List.range'_succ, ← ih scope (start + 1)]
    simp [Step.entered?]
  | nil scope start =>
    rfl
  | cons t types ih ihtypes scope start =>
    rw [stepsListFrom, sizeList, List.filterMap_append, ih, ihtypes, List.range'_append_1]

/-- **The steps of a subtree leave what they enter**, and nothing else. -/
theorem openAfter_stepsFrom (t : ElementType) :
    ∀ scope start opened rest,
      openAfter opened (stepsFrom scope start t ++ rest) = openAfter opened rest := by
  induction t using induction_lists (Q := fun types => ∀ scope start opened rest,
    openAfter opened (stepsListFrom scope start types ++ rest) = openAfter opened rest) with
  | node t ih =>
    intro scope start opened rest
    rw [stepsFrom_eq, List.cons_append, openAfter, List.append_assoc, ih, List.singleton_append,
      openAfter, if_pos rfl]
  | nil scope start opened rest =>
    rfl
  | cons t types ih ihtypes scope start opened rest =>
    rw [stepsListFrom, List.append_assoc, ih, ihtypes]

/-! ### Subtrees as segments -/

/-- A list of nodes holds some nodes one after the other, from a place on. -/
def Segment (nodes : List Node) (start : Nat) (part : List Node) : Prop :=
  part <+: nodes.drop start

section

variable {nodes : List Node} {start : Nat}

theorem Segment.head {n : Node} {part : List Node} (h : Segment nodes start (n :: part)) :
    nodes[start]? = some n := by
  obtain ⟨rest, hrest⟩ := h
  have hget : (nodes.drop start)[0]? = some n := by rw [← hrest]; rfl
  rwa [List.getElem?_drop, Nat.add_zero] at hget

theorem Segment.tail {n : Node} {part : List Node} (h : Segment nodes start (n :: part)) :
    Segment nodes (start + 1) part := by
  obtain ⟨rest, hrest⟩ := h
  refine ⟨rest, ?_⟩
  rw [← List.drop_drop, ← hrest]
  rfl

theorem Segment.left {xs ys : List Node} (h : Segment nodes start (xs ++ ys)) :
    Segment nodes start xs :=
  (List.prefix_append xs ys).trans h

theorem Segment.right {xs ys : List Node} (h : Segment nodes start (xs ++ ys)) :
    Segment nodes (start + xs.length) ys := by
  obtain ⟨rest, hrest⟩ := h
  refine ⟨rest, ?_⟩
  rw [← List.drop_drop, ← hrest, List.append_assoc, List.drop_left]

theorem Segment.root {t : ElementType} (h : Segment nodes start (nodesFrom start t)) :
    nodes[start]? = some (t.node (numbersFrom (start + 1) t.children)) := by
  rw [nodesFrom_eq] at h
  exact h.head

theorem Segment.below {t : ElementType} (h : Segment nodes start (nodesFrom start t)) :
    Segment nodes (start + 1) (nodesListFrom (start + 1) t.children) := by
  rw [nodesFrom_eq] at h
  exact h.tail

theorem Segment.first {t : ElementType} {types : List ElementType}
    (h : Segment nodes start (nodesListFrom start (t :: types))) :
    Segment nodes start (nodesFrom start t) := by
  rw [nodesListFrom_cons] at h
  exact h.left

theorem Segment.others {t : ElementType} {types : List ElementType}
    (h : Segment nodes start (nodesListFrom start (t :: types))) :
    Segment nodes (start + t.size) (nodesListFrom (start + t.size) types) := by
  rw [nodesListFrom_cons] at h
  have hright := h.right
  rwa [length_nodesFrom] at hright

end

/-- **Following the places from the root of a subtree gives the steps of the subtree**, with its
size as bound on the depth. -/
theorem follow_of_segment {nodes : List Node} (t : ElementType) :
    ∀ scope start depth, Segment nodes start (nodesFrom start t) → t.size ≤ depth →
      follow nodes depth scope start = some (stepsFrom scope start t) := by
  induction t using induction_lists (Q := fun types => ∀ scope start depth,
    Segment nodes start (nodesListFrom start types) → sizeList types ≤ depth →
      followAll (fun child => (nodes[child]?).bind (fun c =>
        follow nodes depth (scope.child c.typeName) child)) (numbersFrom start types) =
          some (stepsListFrom scope start types)) with
  | node t ih =>
    intro scope start depth hseg hsize
    rw [size_eq] at hsize
    -- the node itself takes one unit of the bound
    obtain ⟨depth, rfl⟩ : ∃ d, depth = d + 1 := ⟨depth - 1, by omega⟩
    simp only [follow, hseg.root]
    rw [ElementType.node, ih scope (start + 1) depth hseg.below (by omega), stepsFrom_eq]
    rfl
  | nil scope start depth _ _ =>
    rfl
  | cons t types ih ihtypes scope start depth hseg hsize =>
    rw [sizeList] at hsize
    have hfirst : (nodes[start]?).bind (fun c =>
        follow nodes depth (scope.child c.typeName) start) =
          some (stepsFrom (scope.child t.typeName) start t) := by
      rw [hseg.first.root, Option.bind_some, typeName_node]
      exact ih (scope.child t.typeName) start depth hseg.first (by omega)
    simp only [numbersFrom, followAll, hfirst,
      ihtypes scope (start + t.size) depth hseg.others (by omega), stepsListFrom]

/-- **The scopes of a subtree are made of type names**, if that of its root is. -/
theorem namesTo_of_segment {nodes : List Node} (t : ElementType) :
    ∀ scope start, Segment nodes start (nodesFrom start t) →
      NamesTo nodes start scope.segments →
      ∀ inner place, .enter inner place ∈ stepsFrom scope start t →
        NamesTo nodes place inner.segments := by
  induction t using induction_lists (Q := fun types => ∀ (n : Node) place scope start,
    Segment nodes start (nodesListFrom start types) → NamesTo nodes place scope.segments →
      nodes[place]? = some n → (∀ child ∈ numbersFrom start types, child ∈ n.children) →
      ∀ inner below, .enter inner below ∈ stepsListFrom scope start types →
        NamesTo nodes below inner.segments) with
  | node t ih =>
    intro scope start hseg hnames inner place hmem
    rw [stepsFrom_eq] at hmem
    simp only [List.mem_cons, List.mem_append, Step.enter.injEq, List.not_mem_nil, or_false,
      reduceCtorEq] at hmem
    rcases hmem with ⟨rfl, rfl⟩ | hmem
    · exact hnames
    · exact ih _ start scope (start + 1) hseg.below hnames hseg.root (fun _ hchild => hchild)
        inner place hmem
  | nil n place scope start _ _ _ _ inner below hmem =>
    exact absurd hmem List.not_mem_nil
  | cons t types ih ihtypes n place scope start hseg hnames hn hsub inner below hmem =>
    rw [stepsListFrom, List.mem_append] at hmem
    rcases hmem with hmem | hmem
    · have hchild : start ∈ n.children := hsub start List.mem_cons_self
      have hfirst := NamesTo.child hnames hn hchild hseg.first.root
      rw [typeName_node] at hfirst
      exact ih (scope.child t.typeName) start hseg.first hfirst inner below hmem
    · exact ihtypes n place scope (start + t.size) hseg.others hnames hn
        (fun child hchild => hsub child (List.mem_cons_of_mem _ hchild)) inner below hmem

/-- **The steps of a subtree are those of the walk of its type.** -/
theorem shows_of_segment {nodes : List Node} (t : ElementType) :
    ∀ scope start, Segment nodes start (nodesFrom start t) →
      List.Forall₂ (Step.Shows nodes) (stepsFrom scope start t) (walkFrom scope t) := by
  induction t using induction_lists (Q := fun types => ∀ scope start,
    Segment nodes start (nodesListFrom start types) →
      List.Forall₂ (Step.Shows nodes) (stepsListFrom scope start types)
        (walkListFrom scope types)) with
  | node t ih =>
    intro scope start hseg
    rw [stepsFrom_eq, walkFrom_eq]
    exact .cons (.enter scope hseg.root)
      (List.rel_append (ih scope (start + 1) hseg.below) (.cons (.leave scope hseg.root) .nil))
  | nil scope start _ =>
    exact .nil
  | cons t types ih ihtypes scope start hseg =>
    rw [stepsListFrom, walkListFrom]
    exact List.rel_append (ih _ start hseg.first) (ihtypes scope _ hseg.others)

/-! ### The places of the children -/

/-- The numbers of neighbouring subtrees lie where the subtrees do. -/
theorem mem_numbersFrom {types : List ElementType} :
    ∀ {start id : Nat}, id ∈ numbersFrom start types →
      start ≤ id ∧ id < start + sizeList types := by
  induction types with
  | nil => exact fun h => absurd h List.not_mem_nil
  | cons t types ih =>
    intro start id hid
    have hsize := size_eq t
    rw [sizeList]
    rcases List.mem_cons.mp hid with rfl | hid
    · omega
    · have hbounds := ih hid
      omega

theorem pairwise_numbersFrom {types : List ElementType} :
    ∀ start, (numbersFrom start types).Pairwise (· < ·) := by
  induction types with
  | nil => exact fun _ => List.Pairwise.nil
  | cons t types ih =>
    intro start
    refine List.Pairwise.cons (fun id hid => ?_) (ih (start + t.size))
    have hsize := size_eq t
    have hbounds := mem_numbersFrom hid
    omega

/-- The numbers of the children of a node go up, from behind its own on and below a bound. -/
def ChildrenBelow (n : Numbered) (bound : Nat) : Prop :=
  n.children.Pairwise (· < ·) ∧ ∀ c ∈ n.children, n.id < c ∧ c < bound

theorem ChildrenBelow.mono {n : Numbered} {bound bound' : Nat} (h : ChildrenBelow n bound)
    (hle : bound ≤ bound') : ChildrenBelow n bound' :=
  ⟨h.1, fun c hc => ⟨(h.2 c hc).1, Nat.lt_of_lt_of_le (h.2 c hc).2 hle⟩⟩

/-- **The numbers of the children of a node lie in its subtree**, behind its own. -/
theorem childrenBelow_of_mem_numberedFrom (t : ElementType) :
    ∀ start, ∀ n ∈ numberedFrom start t, ChildrenBelow n (start + t.size) := by
  induction t using induction_lists (Q := fun types => ∀ start, ∀ n ∈ numberedListFrom start types,
    ChildrenBelow n (start + sizeList types)) with
  | node t ih =>
    intro start n hn
    rw [numberedFrom_eq, List.mem_cons] at hn
    rw [size_eq]
    rcases hn with rfl | hn
    · refine ⟨pairwise_numbersFrom _, fun c hc => ?_⟩
      have hbounds := mem_numbersFrom hc
      change start < c ∧ _
      omega
    · exact (ih (start + 1) n hn).mono (by omega)
  | nil start n hn =>
    exact absurd hn List.not_mem_nil
  | cons t types ih ihtypes start n hn =>
    rw [numberedListFrom, List.mem_append] at hn
    rw [sizeList]
    rcases hn with hn | hn
    · exact (ih start n hn).mono (by omega)
    · exact (ihtypes (start + t.size) n hn).mono (by omega)

/-- **The children of all nodes of a subtree are its nodes but the root**, each of them once. For
neighbouring subtrees it is their roots that are missing. -/
theorem perm_flatMap_children (t : ElementType) :
    ∀ start, ((nodesFrom start t).flatMap Node.children).Perm
      (List.range' (start + 1) (sizeList t.children)) := by
  induction t using induction_lists (Q := fun types => ∀ start,
    (numbersFrom start types ++ (nodesListFrom start types).flatMap Node.children).Perm
      (List.range' start (sizeList types))) with
  | node t ih =>
    intro start
    rw [nodesFrom_eq, List.flatMap_cons]
    exact ih (start + 1)
  | nil start =>
    exact List.Perm.refl []
  | cons t types ih ihtypes start =>
    have hrange : List.range' start (sizeList (t :: types)) =
        (start :: List.range' (start + 1) (sizeList t.children)) ++
          List.range' (start + t.size) (sizeList types) := by
      rw [← List.range'_succ, sizeList, size_eq, Nat.add_comm 1, List.range'_append_1]
    rw [hrange, numbersFrom, nodesListFrom_cons, List.flatMap_append, List.cons_append,
      List.cons_append]
    -- the numbers of the later subtrees move behind the children inside the first one
    refine List.Perm.cons start (List.Perm.trans ?_ ((ih start).append (ihtypes _)))
    rw [← List.append_assoc, ← List.append_assoc]
    exact (List.perm_append_comm).append_right _

/-! ### The whole arena -/

theorem length_nodes (t : ElementType) : (t.numbered.map Numbered.node).length = t.size := by
  rw [List.length_map, numbered, length_numberedFrom]

theorem segment_nodes (t : ElementType) :
    Segment (t.numbered.map Numbered.node) 0 (nodesFrom 0 t) :=
  List.prefix_refl _

/-- A node stands at the place of its number. -/
theorem getElem?_nodes {t : ElementType} {place : Nat} {n : Node}
    (h : (t.numbered.map Numbered.node)[place]? = some n) :
    ∃ m ∈ t.numbered, m.id = place ∧ m.node = n := by
  rw [List.getElem?_map, Option.map_eq_some_iff] at h
  obtain ⟨m, hm, hnode⟩ := h
  refine ⟨m, List.mem_of_getElem? hm, ?_, hnode⟩
  have hid : (t.numbered.map Numbered.id)[place]? = some m.id := by rw [List.getElem?_map, hm]; rfl
  have hlt : place < t.size := by
    have hlt := (List.getElem?_eq_some_iff.mp hm).1
    rwa [numbered, length_numberedFrom] at hlt
  rw [numbered, map_id_numberedFrom, List.getElem?_range' hlt, Option.some_inj] at hid
  omega

/-- **The nodes of a schema are one tree in depth-first order.** -/
theorem depthFirst_nodes (t : ElementType) : DepthFirst (t.numbered.map Numbered.node) where
  increasing n hn := by
    obtain ⟨m, hm, rfl⟩ := List.mem_map.mp hn
    exact (childrenBelow_of_mem_numberedFrom t 0 m hm).1
  later place n hn c hc := by
    obtain ⟨m, hm, rfl, rfl⟩ := getElem?_nodes hn
    have hbounds := (childrenBelow_of_mem_numberedFrom t 0 m hm).2 c hc
    rw [length_nodes]
    omega
  parents place hpos hlt := by
    rw [length_nodes, size_eq] at hlt
    rw [numbered, ← nodesFrom, (perm_flatMap_children t 0).count_eq]
    exact List.count_eq_one_of_mem List.nodup_range' (List.mem_range'_1.mpr ⟨by omega, by omega⟩)

/-- **Following the places goes through all nodes.** -/
theorem traversal_nodes (t : ElementType) :
    Traversal (t.numbered.map Numbered.node) (.root t.typeName)
      (stepsFrom (.root t.typeName) 0 t) where
  ends depth hdepth := by
    rw [length_nodes] at hdepth
    exact follow_of_segment t _ 0 depth (segment_nodes t) hdepth
  enters := by
    rw [filterMap_entered_stepsFrom, length_nodes, List.range_eq_range']
  nested := by
    rw [← List.append_nil (stepsFrom _ 0 t), openAfter_stepsFrom]
    rfl
  names := by
    have hroot := NamesTo.root (segment_nodes t).root
    rw [typeName_node] at hroot
    exact namesTo_of_segment t _ 0 (segment_nodes t) hroot

/-- **The arena of every document is a tree in depth-first order**: it holds the numbered nodes of
the schema, with the root in front and in no container. The walk from the root on follows the places
of the children: it ends, enters every node once and in order, names each by the types above it, and
shows what the walk of the schema shows. -/
theorem depthFirst_ofElement (document : Element) :
    let t := (ElementType.ofElement document).1
    let arena := (Arena.ofElement document).1
    let root := (Arena.ofElement document).2
    (arena.nodes = t.numbered.map Numbered.node ∧
      t.numbered.map Numbered.id = List.range arena.nodes.length ∧
      arena.diagnostics = (ElementType.ofElement document).2) ∧
      DepthFirst arena.nodes ∧
      (root = 0 ∧ ∃ n, arena.nodes[root]? = some n ∧ n.container = .single) ∧
      ∃ steps, arena.walk? root = some steps ∧
        Traversal arena.nodes (.root t.typeName) steps ∧
        List.Forall₂ (Step.Shows arena.nodes) steps t.walk := by
  intro t
  have hcontainer : t.container = .single := container_read _ _ _ document
  have hnode := (segment_nodes t).root
  have hids : t.numbered.map Numbered.id = List.range (t.numbered.map Numbered.node).length := by
    rw [length_nodes, numbered, map_id_numberedFrom, List.range_eq_range']
  have hwalk : walk? ⟨t.numbered.map Numbered.node, (ElementType.ofElement document).2⟩ 0 =
      some (stepsFrom (.root t.typeName) 0 t) := by
    rw [walk?]
    dsimp only
    rw [hnode, Option.bind_some, typeName_node]
    exact (traversal_nodes t).ends _ (Nat.le_refl _)
  rw [ofElement_eq]
  exact ⟨⟨rfl, hids, rfl⟩, depthFirst_nodes t, ⟨rfl, _, hnode, hcontainer⟩,
    stepsFrom (.root t.typeName) 0 t, hwalk, traversal_nodes t,
    shows_of_segment t _ 0 (segment_nodes t)⟩

end Arena

end SchemaCompiler
