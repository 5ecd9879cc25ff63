import SchemaCompiler.Proofs.Name.Path
import SchemaCompiler.Proofs.Schema.Nodes

/-!
# Places in a tree schema

The type that is generated for an element type stands in modules that are named after the types
above it. A *place* (`SchemaCompiler.ElementType.Place`) is an element type together with the types
above it, so it has all that is needed to say where the generated type stands: its path
(`Place.path`), a name for each module and the name of the type.

A schema has its places in depth-first order (`ElementType.places`). They are what a traversal
enters (`filterMap_entered_walkFrom`), each with its scope, and the path that generated code writes
for a scope leads to the place (`Place.segmentsOf_typePath`).
-/

namespace SchemaCompiler.ElementType

/-- An element type together with the types above it in a schema, outermost first. -/
structure Place where
  /-- The types from the root down to the parent. -/
  above : List ElementType
  /-- The element type itself. -/
  node : ElementType

namespace Place

/-- The scope of an element type. -/
def scope (p : Place) : Scope :=
  ⟨(p.above ++ [p.node]).map typeName⟩

/-- **The path of an element type**: a module for each type above it, and the name of its own
type. -/
def path (p : Place) : List String :=
  p.above.map (fun t => Name.memberIdent t.typeName) ++ [p.node.typeName]

/-- The place of a child. -/
def child (p : Place) (c : ElementType) : Place :=
  ⟨p.above ++ [p.node], c⟩

end Place

mutual

/-- The places at and below an element type, in depth-first order. -/
def placesFrom (above : List ElementType) : ElementType → List Place
  | ⟨tag, container, attributes, content, children⟩ =>
    let t : ElementType := ⟨tag, container, attributes, content, children⟩
    ⟨above, t⟩ :: placesListFrom (above ++ [t]) children

/-- The places at and below several element types with the same parent, in depth-first order. -/
def placesListFrom (above : List ElementType) : List ElementType → List Place
  | [] => []
  | t :: rest => placesFrom above t ++ placesListFrom above rest

end

/-- The places of a schema in depth-first order. -/
def places (t : ElementType) : List Place :=
  placesFrom [] t

/-- The node that a step of a traversal enters, with its scope. -/
def Visit.entered? : Visit → Option (Scope × ElementType)
  | .enter scope t => some (scope, t)
  | .leave _ _ => none

theorem placesFrom_eq (above : List ElementType) (t : ElementType) :
    placesFrom above t = ⟨above, t⟩ :: placesListFrom (above ++ [t]) t.children := by
  cases t
  rw [placesFrom]

theorem Place.scope_child (p : Place) (c : ElementType) :
    (p.child c).scope = p.scope.child c.typeName := by
  rw [scope, scope, child, Scope.child, List.map_append]
  rfl

/-- **A traversal enters the places in their order.** -/
theorem filterMap_entered_walkFrom (t : ElementType) :
    ∀ above, (walkFrom (Place.scope ⟨above, t⟩) t).filterMap Visit.entered? =
      (placesFrom above t).map (fun p => (p.scope, p.node)) := by
  induction t using induction_lists (Q := fun types => ∀ p : Place,
    (walkListFrom p.scope types).filterMap Visit.entered? =
      (placesListFrom (p.above ++ [p.node]) types).map (fun p => (p.scope, p.node))) with
  | node t ih =>
    intro above
    rw [walkFrom_eq, placesFrom_eq]
    simp [ih ⟨above, t⟩, Visit.entered?]
  | nil p => rfl
  | cons t types ih ihtypes p =>
    rw [walkListFrom, placesListFrom, List.filterMap_append, List.map_append, ihtypes,
      ← Place.scope_child]
    exact congrArg (· ++ _) (ih (p.above ++ [p.node]))

theorem filterMap_entered_walk (t : ElementType) :
    t.walk.filterMap Visit.entered? = t.places.map (fun p => (p.scope, p.node)) :=
  filterMap_entered_walkFrom t []

theorem mem_nodes_of_mem_placesFrom (t : ElementType) :
    ∀ above, ∀ p ∈ placesFrom above t, p.node ∈ t.nodes := by
  induction t using induction_lists (Q := fun types => ∀ above, ∀ p ∈ placesListFrom above types,
    p.node ∈ types.flatMap nodes) with
  | node t ih =>
    intro above p hp
    rw [placesFrom_eq] at hp
    rw [nodes_eq]
    rcases List.mem_cons.mp hp with rfl | hp
    · exact List.mem_cons_self
    · exact List.mem_cons_of_mem _ (ih _ p hp)
  | nil above p hp => exact absurd hp List.not_mem_nil
  | cons t types ih ihtypes above p hp =>
    rw [placesListFrom] at hp
    rw [List.flatMap_cons]
    rcases List.mem_append.mp hp with hp | hp
    · exact List.mem_append_left _ (ih above p hp)
    · exact List.mem_append_right _ (ihtypes above p hp)

/-- **Children of a place have places of their own.** -/
theorem child_mem_placesFrom (t : ElementType) :
    ∀ above, ∀ p ∈ placesFrom above t, ∀ c ∈ p.node.children, p.child c ∈ placesFrom above t := by
  have hfirst : ∀ (above types : List ElementType), ∀ c ∈ types,
      (⟨above, c⟩ : Place) ∈ placesListFrom above types := by
    intro above types c hc
    induction types with
    | nil => exact absurd hc List.not_mem_nil
    | cons t types ih =>
      rw [placesListFrom, List.mem_append]
      rcases List.mem_cons.mp hc with rfl | hc
      · exact Or.inl (placesFrom_eq above c ▸ List.mem_cons_self)
      · exact Or.inr (ih hc)
  induction t using induction_lists (Q := fun types => ∀ above, ∀ p ∈ placesListFrom above types,
    ∀ c ∈ p.node.children, p.child c ∈ placesListFrom above types) with
  | node t ih =>
    intro above p hp c hc
    rw [placesFrom_eq] at hp ⊢
    refine List.mem_cons_of_mem _ ?_
    rcases List.mem_cons.mp hp with rfl | hp
    · exact hfirst (above ++ [t]) t.children c hc
    · exact ih _ p hp c hc
  | nil above p hp => exact absurd hp List.not_mem_nil
  | cons t types ih ihtypes above p hp c hc =>
    rw [placesListFrom, List.mem_append] at hp ⊢
    rcases hp with hp | hp
    · exact Or.inl (ih above p hp c hc)
    · exact Or.inr (ihtypes above p hp c hc)

theorem isIdent_member (t : ElementType) : Name.IsIdent t.member :=
  Name.isIdent_memberIdent t.tag

theorem isIdent_typeName (t : ElementType) : Name.IsIdent t.typeName :=
  Name.isIdent_typeIdent t.tag

theorem isIdent_of_mem_path {p : Place} {s : String} (hs : s ∈ p.path) : Name.IsIdent s := by
  rw [Place.path] at hs
  rcases List.mem_append.mp hs with hs | hs
  · obtain ⟨t, -, rfl⟩ := List.mem_map.mp hs
    exact Name.isIdent_memberIdent _
  · rw [List.mem_singleton.mp hs]
    exact p.node.isIdent_typeName

theorem Place.name_scope (p : Place) : p.scope.name = p.node.typeName := by
  rw [Scope.name, scope, List.map_append, List.map_singleton, List.getLastD_concat]

/-- The module of the children is named after the type. -/
theorem Place.moduleIdent_scope (p : Place) :
    p.scope.moduleIdent = Name.memberIdent p.node.typeName := by
  rw [Scope.moduleIdent, name_scope]

/-- The path of a scope in generated code is the path of the place, joined by colons. -/
theorem Place.typePath_scope (p : Place) : p.scope.typePath = "::".intercalate p.path := by
  have hsegments : p.scope.segments = p.above.map typeName ++ [p.node.typeName] := by
    rw [scope, List.map_append]
    rfl
  rw [Scope.typePath]
  split
  · rename_i hnil
    rw [hsegments] at hnil
    exact absurd hnil (List.append_ne_nil_of_right_ne_nil _ (List.cons_ne_nil _ _))
  · rw [name_scope, hsegments, List.dropLast_concat, List.map_map, path, Function.comp_def]

/-- **The path of a scope is read back as the path of the place.** -/
theorem Place.segmentsOf_typePath (p : Place) : Name.segmentsOf p.scope.typePath = p.path := by
  rw [typePath_scope]
  cases h : p.path with
  | nil => exact absurd h (List.append_ne_nil_of_right_ne_nil _ (List.cons_ne_nil _ _))
  | cons first others =>
    exact Name.segmentsOf_intercalate fun s hs => isIdent_of_mem_path (h ▸ hs)

end SchemaCompiler.ElementType
