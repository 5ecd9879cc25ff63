import Mathlib.Data.List.Nodup
import SchemaCompiler.Proofs.Artifact.TypePaths
import SchemaCompiler.Proofs.Name.Capitals

/-!
# Types at different paths

The children of a node have different members. Their types stand side by side in one module and go
by other names, the type name and the name of the module for the types below, and those may be the
same where the members differ: `a1` and `a_1` both give the type `A1`, and `ab` and `a_b` give the
types `Ab` and `AB`, whose children share the module `ab`.

Two children *merge* (`SchemaCompiler.ElementType.Merge`) if this makes two types of one path out of
them or of what is below them. That is the only way in which a path can be given twice: the types of
a schema have different paths exactly when no two children of a node merge
(`SchemaCompiler.Artifact.nodup_typePaths_iff`), and the same holds of the places where types are
declared and of those to which procedures belong. Children with tidy tags never merge, because their
modules are named like their members.

The proof goes over the paths relative to a node (`SchemaCompiler.ElementType.paths`), which are
unfolded level by level (`paths_eq`): merging is sharing a relative path (`disjoint_paths_iff`).
-/

namespace SchemaCompiler

namespace ElementType

/-- The module that holds the types of the children. -/
def moduleName (t : ElementType) : String :=
  Name.memberIdent t.typeName

/-- **Two element types merge** if their types, put side by side, give two types of one path. -/
inductive Merge : ElementType → ElementType → Prop
  /-- The types themselves have one name. -/
  | here {x y : ElementType} (h : x.typeName = y.typeName) : Merge x y
  /-- The types of the children stand in one module, and two of them merge there. -/
  | inside {x y c d : ElementType} (h : x.moduleName = y.moduleName) (hc : c ∈ x.children)
      (hd : d ∈ y.children) (hmerge : Merge c d) : Merge x y

/-- **A schema is separate** if no two children of a node merge. -/
def Separate (t : ElementType) : Prop :=
  ∀ n ∈ t.nodes, n.children.Pairwise (fun x y => ¬Merge x y)

/-! ### Relative paths -/

/-- The paths of the types at and below an element type, from the module on in which its own type
stands. -/
def paths (t : ElementType) : List (List String) :=
  (placesFrom [] t).map Place.path

theorem path_eq (p : Place) : p.path = p.above.map moduleName ++ [p.node.typeName] := rfl

/-- The types above a place are modules in front of its relative path. -/
theorem map_path_placesFrom (t : ElementType) :
    (∀ above, (placesFrom above t).map Place.path =
      t.paths.map (above.map moduleName ++ ·)) ∧
    t.paths = [t.typeName] :: (t.children.flatMap paths).map (t.moduleName :: ·) := by
  induction t using induction_lists (Q := fun types => ∀ above,
    (placesListFrom above types).map Place.path =
      (types.flatMap paths).map (above.map moduleName ++ ·)) with
  | node t ih =>
    have hpaths : t.paths = [t.typeName] :: (t.children.flatMap paths).map (t.moduleName :: ·) := by
      rw [paths, placesFrom_eq, List.map_cons, List.nil_append, ih [t]]
      rfl
    refine ⟨fun above => ?_, hpaths⟩
    rw [placesFrom_eq, List.map_cons, ih (above ++ [t]), hpaths, List.map_cons, path_eq,
      List.map_map]
    congr 1
    refine List.map_congr_left fun path _ => ?_
    rw [Function.comp_apply, List.map_append, List.append_assoc]
    rfl
  | nil above => rfl
  | cons t types ih ihtypes above =>
    rw [placesListFrom, List.map_append, ih.1 above, ihtypes, List.flatMap_cons, List.map_append]

/-- **Relative paths, level by level.** -/
theorem paths_eq (t : ElementType) :
    t.paths = [t.typeName] :: t.children.flatMap (fun c => c.paths.map (t.moduleName :: ·)) := by
  rw [(map_path_placesFrom t).2, List.map_flatMap]

theorem map_path_places (t : ElementType) : t.places.map Place.path = t.paths := rfl

theorem mem_paths {t : ElementType} {path : List String} :
    path ∈ t.paths ↔ path = [t.typeName] ∨
      ∃ c ∈ t.children, ∃ inner ∈ c.paths, path = t.moduleName :: inner := by
  rw [paths_eq, List.mem_cons, List.mem_flatMap]
  simp only [List.mem_map, eq_comm (a := t.moduleName :: _)]

theorem nil_notMem_paths (t : ElementType) : [] ∉ t.paths := by
  intro h
  rcases mem_paths.mp h with h | ⟨c, -, inner, -, h⟩
  · cases h
  · cases h

/-! ### Merging -/

/-- What is common to two types that merge. -/
theorem Merge.exists_mem_paths {x y : ElementType} (h : Merge x y) :
    ∃ path, path ∈ x.paths ∧ path ∈ y.paths := by
  induction h with
  | @here x y h =>
    refine ⟨[x.typeName], mem_paths.mpr (Or.inl rfl), mem_paths.mpr (Or.inl ?_)⟩
    rw [h]
  | @inside x y c d h hc hd _ ih =>
    obtain ⟨inner, hinner, hinner'⟩ := ih
    refine ⟨x.moduleName :: inner, mem_paths.mpr (Or.inr ⟨c, hc, inner, hinner, rfl⟩), ?_⟩
    refine mem_paths.mpr (Or.inr ⟨d, hd, inner, hinner', ?_⟩)
    rw [h]

/-- Types that share a relative path merge. The induction follows the path down from the first. -/
theorem merge_of_mem_paths {x : ElementType} :
    ∀ {y : ElementType} {path : List String}, path ∈ x.paths → path ∈ y.paths → Merge x y := by
  induction x using ElementType.induction with
  | step x ih =>
    intro y path hx hy
    rcases mem_paths.mp hx with rfl | ⟨c, hc, inner, hinner, rfl⟩
    · rcases mem_paths.mp hy with hname | ⟨d, -, inner, hinner, heq⟩
      · exact .here (List.cons.inj hname).1
      · rw [← (List.cons.inj heq).2] at hinner
        exact absurd hinner d.nil_notMem_paths
    · rcases mem_paths.mp hy with hname | ⟨d, hd, inner', hinner', heq⟩
      · rw [(List.cons.inj hname).2] at hinner
        exact absurd hinner c.nil_notMem_paths
      · obtain ⟨hmodule, rfl⟩ := List.cons.inj heq
        exact .inside hmodule hc hd (ih c hc hinner hinner')

/-- **To merge is to share a relative path.** -/
theorem disjoint_paths_iff {x y : ElementType} : x.paths.Disjoint y.paths ↔ ¬Merge x y := by
  constructor
  · intro hdisjoint hmerge
    obtain ⟨path, hx, hy⟩ := hmerge.exists_mem_paths
    exact hdisjoint hx hy
  · exact fun hmerge path hx hy => hmerge (merge_of_mem_paths hx hy)

/-- Types that merge have the same module. -/
theorem Merge.moduleName_eq {x y : ElementType} (h : Merge x y) : x.moduleName = y.moduleName := by
  cases h with
  | here h => rw [moduleName, h, moduleName]
  | inside h => exact h

theorem separate_iff (t : ElementType) :
    t.Separate ↔ t.children.Pairwise (fun x y => ¬Merge x y) ∧ ∀ c ∈ t.children, c.Separate := by
  simp only [Separate, nodes_eq t, List.forall_mem_cons, List.mem_flatMap]
  refine and_congr_right fun _ => ⟨fun h c hc n hn => h n ⟨c, hc, hn⟩, ?_⟩
  rintro h n ⟨c, hc, hn⟩
  exact h c hc n hn

/-- **Relative paths are different exactly when no two children merge.** -/
theorem nodup_paths_iff (t : ElementType) : t.paths.Nodup ↔ t.Separate := by
  induction t using ElementType.induction with
  | step t ih =>
    have hinj : Function.Injective (t.moduleName :: · : List String → List String) :=
      fun _ _ h => (List.cons.inj h).2
    -- the type of the node itself stands above all modules
    have hown : [t.typeName] ∉ t.children.flatMap (fun c => c.paths.map (t.moduleName :: ·)) := by
      intro hmem
      obtain ⟨c, -, hmem⟩ := List.mem_flatMap.mp hmem
      obtain ⟨inner, hinner, heq⟩ := List.mem_map.mp hmem
      rw [(List.cons.inj heq).2] at hinner
      exact c.nil_notMem_paths hinner
    have hbeside : ∀ x y : ElementType,
        (x.paths.map (t.moduleName :: ·)).Disjoint (y.paths.map (t.moduleName :: ·)) ↔
          ¬Merge x y := by
      intro x y
      rw [← disjoint_paths_iff]
      refine ⟨fun h path hx hy => ?_, fun h => List.disjoint_map hinj h⟩
      exact h (List.mem_map_of_mem hx) (List.mem_map_of_mem hy)
    rw [paths_eq, List.nodup_cons, List.nodup_flatMap, separate_iff, and_comm (a := ∀ c ∈ _, _)]
    refine (and_iff_right hown).trans (and_congr (List.Pairwise.iff hbeside) ?_)
    refine forall₂_congr fun c hc => ?_
    rw [List.nodup_map_iff hinj, ih c hc]

/-! ### Tidy tags -/

theorem children_subset_nodes {t : ElementType} :
    ∀ n ∈ t.nodes, ∀ c ∈ n.children, c ∈ t.nodes := by
  induction t using ElementType.induction with
  | step t ih =>
    intro n hn c hc
    rw [nodes_eq] at hn
    rcases List.mem_cons.mp hn with rfl | hn
    · exact mem_nodes_of_mem_children hc c.mem_nodes_self
    · obtain ⟨d, hd, hn⟩ := List.mem_flatMap.mp hn
      exact mem_nodes_of_mem_children hd (ih d hd n hn c hc)

/-- **No two children of a node have the same member.** -/
theorem nodup_members_of_mem_nodes {unit : String} {scope : Scope} {container : Container}
    {e : Element} {n : ElementType} (h : n ∈ (read unit scope container e).1.nodes) :
    (n.children.map member).Nodup := by
  obtain ⟨scope', e', -, hn, -⟩ := exists_read_of_mem_nodes h
  rw [hn, read_eq]
  exact (nodup_members_readChildren unit scope' _ e'.children).1

/-- **Children with tidy tags never merge**: their modules are named like their members. -/
theorem separate_of_tidy {document : Element}
    (h : ∀ n ∈ (ofElement document).1.nodes, Name.Tidy n.tag) :
    (ofElement document).1.Separate := by
  intro n hn
  have hmembers := nodup_members_of_mem_nodes hn
  rw [List.Nodup, List.pairwise_map] at hmembers
  refine hmembers.imp_of_mem fun {x y} hx hy hne hmerge => hne ?_
  have hmodule : ∀ c ∈ n.children, c.moduleName = c.member :=
    fun c hc => Name.memberIdent_typeIdent (h c (children_subset_nodes n hn c hc))
  rw [← hmodule x hx, ← hmodule y hy, hmerge.moduleName_eq]

end ElementType

namespace Artifact

open ElementType

/-- The path of a type that generated code declares. -/
def Declaration.path (d : Declaration) : List String :=
  d.modules ++ [d.name]

theorem path_declarationAt (profile : Profile) (p : Place) :
    (declarationAt profile p).path = p.path := by
  rw [Declaration.path, declarationAt, Place.path]

theorem map_path_declarations (t : ElementType) (profile : Profile) :
    (declarations [] (treeItems t profile)).map Declaration.path = t.paths := by
  rw [declarations_treeItems, List.map_map, ← map_path_places]
  exact List.map_congr_left fun p _ => path_declarationAt profile p

/-- A path is as good as its segments. -/
theorem nodup_typePaths (t : ElementType) :
    (t.places.map (fun p => p.scope.typePath)).Nodup ↔ t.paths.Nodup := by
  have hread : (t.places.map (fun p => p.scope.typePath)).map Name.segmentsOf = t.paths := by
    rw [List.map_map, ← map_path_places]
    exact List.map_congr_left fun p _ => p.segmentsOf_typePath
  have hwritten : t.places.map (fun p => p.scope.typePath) = t.paths.map ("::".intercalate ·) := by
    rw [← map_path_places, List.map_map]
    exact List.map_congr_left fun p _ => p.typePath_scope
  constructor
  · intro h
    rw [hwritten] at h
    exact List.Nodup.of_map _ h
  · intro h
    rw [← hread] at h
    exact List.Nodup.of_map _ h

theorem nodup_implementations (t : ElementType) (profile : Profile) :
    ((implementations (marshalItems t profile)).map Implementation.path).Nodup ↔
      (t.places.map (fun p => p.scope.typePath)).Nodup := by
  have hpaths : (implementations (marshalItems t profile)).map Implementation.path =
      (t.places.map (fun p => p.scope.typePath)).map (recordAlias ++ "::" ++ ·) := by
    rw [implementations_marshalItems, List.map_map, List.map_map]
    rfl
  rw [hpaths]
  exact List.nodup_map_iff fun a b h => (String.append_right_inj _).mp h

/-- **When the types of a schema have different paths.** For every document, the paths that the
scopes of its nodes spell out, the paths at which record types are declared and the paths to which
procedures belong are without repetition exactly when no two children of a node merge, and no two do
if all tags are tidy. -/
theorem nodup_typePaths_iff (document : Element) (profile : Profile) :
    let t := (ofElement document).1
    ((t.places.map (fun p => p.scope.typePath)).Nodup ↔ t.Separate) ∧
      (((declarations [] (treeItems t profile)).map Declaration.path).Nodup ↔ t.Separate) ∧
      (((implementations (marshalItems t profile)).map Implementation.path).Nodup ↔ t.Separate) ∧
      ((∀ n ∈ t.nodes, Name.Tidy n.tag) → t.Separate) := by
  intro t
  have hpaths := t.nodup_paths_iff
  refine ⟨(nodup_typePaths t).trans hpaths, ?_, ?_, separate_of_tidy⟩
  · rw [map_path_declarations]
    exact hpaths
  · exact ((nodup_implementations t profile).trans (nodup_typePaths t)).trans hpaths

/-- A guild whose tags have words in different styles, keywords and reserved names. -/
def tidyGuild : Element where
  tag := "guild-hall"
  children :=
    [{ tag := "memberList", children := [{ tag := "self" }, { tag := "Type" }] },
     { tag := "member_name" }, { tag := "string" },
     { tag := "ip4", children := [{ tag := "level2Cap" }] }]

/-- The types of the guild have different paths. -/
theorem nodup_typePaths_tidyGuild :
    (∀ n ∈ (ofElement tidyGuild).1.nodes, Name.Tidy n.tag) ∧
      ((ofElement tidyGuild).1.places.map (fun p => p.scope.typePath)).Nodup := by
  have htidy : ∀ n ∈ (ofElement tidyGuild).1.nodes, Name.Tidy n.tag := by decide
  obtain ⟨hpaths, -, -, hseparate⟩ := nodup_typePaths_iff tidyGuild {}
  exact ⟨htidy, hpaths.mpr (hseparate htidy)⟩

/-- A plot with two children of one type name, and two whose modules have one name. -/
def mergingPlot : Element where
  tag := "Plot"
  children :=
    [{ tag := "y2" }, { tag := "y_2" },
     { tag := "xaxis", children := [{ tag := "label" }] },
     { tag := "x_axis", children := [{ tag := "label" }] }]

/-- **Types that merge.** Nothing is wrong with the plot, and two pairs of its types have one path:
the types of children whose names differ in an underscore before a digit, and the types below
children whose names differ in an underscore behind a single letter. -/
theorem typePaths_mergingPlot :
    (ofElement mergingPlot).2 = [] ∧
      (ofElement mergingPlot).1.places.map (fun p => p.scope.typePath) =
        ["Plot", "plot::Y2", "plot::Y2", "plot::Xaxis", "plot::xaxis::Label", "plot::XAxis",
         "plot::xaxis::Label"] ∧
      ¬((ofElement mergingPlot).1.places.map (fun p => p.scope.typePath)).Nodup := by
  decide

end Artifact

end SchemaCompiler
