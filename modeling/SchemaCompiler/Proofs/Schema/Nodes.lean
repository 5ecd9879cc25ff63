import SchemaCompiler.Schema.Tree

/-!
# The nodes of a tree schema

Documents and tree schemas are trees with any number of children at each node. Everything that is
proved about all of their nodes goes by one induction, from the children to the node
(`SchemaCompiler.Element.induction`, `SchemaCompiler.ElementType.induction`). Functions that
recurse on a type and on a list of types at once are met by
`SchemaCompiler.ElementType.induction_lists`.

`SchemaCompiler.ElementType.nodes` lists the element types of a schema in depth-first order. It is
the list that `ElementType.numbered` numbers, so a statement on all nodes is a statement on the
numbered list, and `nodes_eq` unfolds it level by level.
-/

namespace SchemaCompiler

/-! ### Documents -/

namespace Element

/-- **Induction over documents**: what holds of an element as soon as it holds of its children holds
of all elements. -/
@[elab_as_elim]
theorem induction {P : Element → Prop} (step : ∀ e, (∀ c ∈ e.children, P c) → P e) (e : Element) :
    P e := by
  refine step e fun c hc => ?_
  have hlt : sizeOf c < sizeOf e := by
    cases e with
    | mk tag attributes children text =>
      have hchild : sizeOf c < sizeOf children := List.sizeOf_lt_of_mem hc
      simp only [mk.sizeOf_spec]
      omega
  exact induction step c
termination_by e

mutual

/-- The elements of a document in depth-first order. -/
def elements : Element → List Element
  | ⟨tag, attributes, children, text⟩ => ⟨tag, attributes, children, text⟩ :: elementsList children

/-- The elements of several documents in depth-first order. -/
def elementsList : List Element → List Element
  | [] => []
  | e :: rest => elements e ++ elementsList rest

end

theorem elementsList_eq (es : List Element) : elementsList es = es.flatMap elements := by
  induction es with
  | nil => rw [elementsList, List.flatMap_nil]
  | cons e es ih => rw [elementsList, List.flatMap_cons, ih]

theorem elements_eq (e : Element) : e.elements = e :: e.children.flatMap elements := by
  cases e
  rw [elements, elementsList_eq]

theorem mem_elements_self (e : Element) : e ∈ e.elements := by
  rw [elements_eq]
  exact List.mem_cons_self

theorem mem_elements_of_mem_children {e c d : Element} (hc : c ∈ e.children)
    (hd : d ∈ c.elements) : d ∈ e.elements := by
  rw [elements_eq]
  exact List.mem_cons_of_mem _ (List.mem_flatMap.mpr ⟨c, hc, hd⟩)

end Element

namespace ElementType

/-! ### Element types -/

/-- **Induction over tree schemas**: what holds of an element type as soon as it holds of its
children holds of all element types. -/
@[elab_as_elim]
theorem induction {P : ElementType → Prop} (step : ∀ t, (∀ c ∈ t.children, P c) → P t)
    (t : ElementType) : P t := by
  refine step t fun c hc => ?_
  have hlt : sizeOf c < sizeOf t := by
    cases t with
    | mk tag container attributes content children =>
      have hchild : sizeOf c < sizeOf children := List.sizeOf_lt_of_mem hc
      simp only [mk.sizeOf_spec]
      omega
  exact induction step c
termination_by t

/-- **Induction over tree schemas with lists of them**: what is said of the children of an element
type is said of a list, from its end on. -/
theorem induction_lists {P : ElementType → Prop} {Q : List ElementType → Prop}
    (node : ∀ t, Q t.children → P t) (nil : Q [])
    (cons : ∀ t types, P t → Q types → Q (t :: types)) (t : ElementType) : P t := by
  induction t using ElementType.induction with
  | step t ih =>
    have hlist : ∀ types, (∀ c ∈ types, P c) → Q types := by
      intro types
      induction types with
      | nil => exact fun _ => nil
      | cons c types ihtypes =>
        intro h
        exact cons c types (h c List.mem_cons_self)
          (ihtypes fun d hd => h d (List.mem_cons_of_mem _ hd))
    exact node t (hlist t.children ih)

/-- The element types of a schema in depth-first order. -/
def nodes (t : ElementType) : List ElementType :=
  t.numbered.map Numbered.type

theorem numberedFrom_eq (start : Nat) (t : ElementType) :
    numberedFrom start t =
      ⟨start, t, numbersFrom (start + 1) t.children⟩ ::
        numberedListFrom (start + 1) t.children := by
  cases t
  rw [numberedFrom]

theorem walkFrom_eq (scope : Scope) (t : ElementType) :
    walkFrom scope t = .enter scope t :: (walkListFrom scope t.children ++ [.leave scope t]) := by
  cases t
  rw [walkFrom]

/-- The element types of several schemas, if for each of them the start of the counting does not
matter. -/
theorem map_type_numberedListFrom {types : List ElementType}
    (h : ∀ c ∈ types, ∀ start, (numberedFrom start c).map Numbered.type = c.nodes) (start : Nat) :
    (numberedListFrom start types).map Numbered.type = types.flatMap nodes := by
  induction types generalizing start with
  | nil => rw [numberedListFrom, List.map_nil, List.flatMap_nil]
  | cons c types ih =>
    rw [numberedListFrom, List.map_append, List.flatMap_cons, h c List.mem_cons_self,
      ih fun d hd => h d (List.mem_cons_of_mem _ hd)]

/-- The number at which the counting starts does not change the element types. -/
theorem map_type_numberedFrom (t : ElementType) :
    ∀ start, (numberedFrom start t).map Numbered.type = t.nodes := by
  induction t using ElementType.induction with
  | step t ih =>
    intro start
    rw [nodes, numbered, numberedFrom_eq, numberedFrom_eq, List.map_cons, List.map_cons,
      map_type_numberedListFrom ih, map_type_numberedListFrom ih]

/-- **The nodes of a schema are its root and the nodes of its children.** -/
theorem nodes_eq (t : ElementType) : t.nodes = t :: t.children.flatMap nodes := by
  rw [nodes, numbered, numberedFrom_eq, List.map_cons,
    map_type_numberedListFrom fun c _ => map_type_numberedFrom c]

theorem mem_nodes_self (t : ElementType) : t ∈ t.nodes := by
  rw [nodes_eq]
  exact List.mem_cons_self

theorem mem_nodes_of_mem_children {t c n : ElementType} (hc : c ∈ t.children) (hn : n ∈ c.nodes) :
    n ∈ t.nodes := by
  rw [nodes_eq]
  exact List.mem_cons_of_mem _ (List.mem_flatMap.mpr ⟨c, hc, hn⟩)

end ElementType

end SchemaCompiler
