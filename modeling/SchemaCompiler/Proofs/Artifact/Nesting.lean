import SchemaCompiler.Proofs.Artifact.FieldOrder
import SchemaCompiler.Proofs.Artifact.Rows
import SchemaCompiler.Proofs.Artifact.TypePaths

/-!
# Blocks are closed where they were opened

Items that open a block and items that close one are made in different places. In the record types
of a tree the module of an element type is opened when the type is reached and closed when it is
left, each under a condition of its own; elsewhere a procedure without members ends early, and a
child that is held directly has no loop. Whatever the schema, the blocks are properly nested
(`SchemaCompiler.Item.Nested`): items are put together of lines, gaps and whole blocks, and the last
line of a block starts with the bracket that closes the last one of its first line
(`SchemaCompiler.Item.closes`).

What this means on the page is `SchemaCompiler.Item.BlocksClosed`. A line that closes a block finds
at least one block open, namely the one that the matching line opened, so lowering the level never
stops at zero; and at the end no block is open.
-/

namespace SchemaCompiler

/-- What stands in a list made of two parts stands in the first part or in the second. -/
theorem eq_append_cons_cases {α : Type} {xs ys before after : List α} {a : α}
    (h : xs ++ ys = before ++ a :: after) :
    (∃ rest, xs = before ++ a :: rest) ∨ ∃ rest, before = xs ++ rest ∧ ys = rest ++ a :: after := by
  rcases List.append_eq_append_iff.mp h with ⟨rest, hbefore, hys⟩ | ⟨rest, hxs, hafter⟩
  · exact Or.inr ⟨rest, hbefore, hys⟩
  · cases rest with
    | nil => exact Or.inr ⟨[], by rw [hxs, List.append_nil, List.append_nil], hafter.symm⟩
    | cons b rest =>
      obtain ⟨rfl, -⟩ := List.cons.inj hafter
      exact Or.inl ⟨rest, hxs⟩

/-! ### Levels of a page -/

namespace Page

theorem level_opening (p : Page) (text : String) : (p.put (.opening text)).level = p.level + 1 :=
  rfl

theorem level_closing (p : Page) (text : String) : (p.put (.closing text)).level = p.level - 1 :=
  rfl

end Page

namespace Item

/-! ### Nested items -/

/-- The bracket that closes a bracket. -/
def closingBracket? : Char → Option Char
  | '\x7b' => some '\x7d'
  | '[' => some ']'
  | '(' => some ')'
  | _ => none

/-- Whether a line closes what another one opened: it starts with the bracket that closes the last
character of the other. -/
def closes (first last : String) : Bool :=
  (first.toList.getLast?.bind closingBracket?).any (fun c => last.toList.head? == some c)

/-- **Items that are properly nested.** -/
inductive Nested : List Item → Prop where
  /-- No items. -/
  | nil : Nested []
  /-- A line. -/
  | line (text : String) : Nested [.line text]
  /-- A gap. -/
  | gap : Nested [.gap]
  /-- One part behind another. -/
  | append {items others : List Item} (h : Nested items) (hothers : Nested others) :
      Nested (items ++ others)
  /-- A block between lines that match. -/
  | block {first last : String} {body : List Item} (hcloses : closes first last = true)
      (hbody : Nested body) : Nested (block first body last)

/-- The level of the page on which items have been laid out. -/
def level (items : List Item) : Nat :=
  (items.foldl Page.put {}).level

/-- **Every block is closed where it was opened.** -/
structure BlocksClosed (items : List Item) : Prop where
  /-- A line that closes a block is written when a block is open, and it closes the one that the
  matching line opened: what stands between the two is properly nested. -/
  closing : ∀ before last after, items = before ++ .closing last :: after →
    1 ≤ level before ∧ ∃ outer first body, before = outer ++ .opening first :: body ∧
      Nested body ∧ closes first last = true ∧ level before = level outer + 1
  /-- At the end no block is open. -/
  finished : level items = 0

/-! ### What nesting means on a page -/

/-- **Behind nested items the level is what it was before them.** -/
theorem Nested.level_foldl {items : List Item} (h : Nested items) (p : Page) :
    (items.foldl Page.put p).level = p.level := by
  induction h generalizing p with
  | nil => rfl
  | line text => rfl
  | gap => exact p.level_gap
  | append _ _ ih ihothers => rw [List.foldl_append, ihothers, ih]
  | block _ _ ih =>
    rw [Item.block, List.foldl_cons, List.foldl_append, List.foldl_cons, List.foldl_nil,
      Page.level_closing, ih, Page.level_opening, Nat.add_sub_cancel]

/-- **A line that closes a block has a matching line before it.** -/
theorem Nested.exists_opening {items : List Item} (h : Nested items) {before after : List Item}
    {last : String} (hitems : items = before ++ .closing last :: after) :
    ∃ outer first body, before = outer ++ .opening first :: body ∧ Nested body ∧
      closes first last = true := by
  induction h generalizing before after with
  | nil => exact absurd hitems (by simp)
  | line text => cases before <;> simp at hitems
  | gap => cases before <;> simp at hitems
  | append _ _ ih ihothers =>
    rcases eq_append_cons_cases hitems with ⟨rest, hfirst⟩ | ⟨rest, rfl, hsecond⟩
    · exact ih hfirst
    · obtain ⟨outer, first, body, rfl, hmatch⟩ := ihothers hsecond
      exact ⟨_ ++ outer, first, body, by rw [List.append_assoc], hmatch⟩
  | @block first last' body hcloses hbody ih =>
    cases before with
    | nil => cases hitems
    | cons item before =>
      obtain ⟨rfl, htail⟩ := List.cons.inj hitems
      rcases eq_append_cons_cases htail with ⟨rest, hinside⟩ | ⟨rest, rfl, hend⟩
      · -- the line closes a block inside
        obtain ⟨outer, inner, between, rfl, hmatch⟩ := ih hinside
        exact ⟨.opening first :: outer, inner, between, rfl, hmatch⟩
      · -- the line is the last one of the block itself
        cases rest with
        | nil =>
          cases hend
          exact ⟨[], first, body, by rw [List.append_nil, List.nil_append], hbody, hcloses⟩
        | cons item rest => simp at hend

theorem level_append_opening {body : List Item} (h : Nested body) (outer : List Item)
    (first : String) : level (outer ++ .opening first :: body) = level outer + 1 := by
  rw [level, List.foldl_append, List.foldl_cons, h.level_foldl, Page.level_opening, level]

/-- **Nested items have all their blocks closed.** -/
theorem Nested.blocksClosed {items : List Item} (h : Nested items) : BlocksClosed items where
  closing before last after hitems := by
    obtain ⟨outer, first, body, rfl, hbody, hcloses⟩ := h.exists_opening hitems
    have hlevel := level_append_opening hbody outer first
    exact ⟨by omega, outer, first, body, rfl, hbody, hcloses, hlevel⟩
  finished := h.level_foldl {}

/-! ### Building nested items -/

/-- What a line ends with decides what closes it. -/
theorem closes_append {first last : String} (h : closes first last = true) (start : String) :
    closes (start ++ first) last = true := by
  cases hlast : first.toList.getLast? with
  | none => simp [closes, hlast] at h
  | some c =>
    rw [closes, hlast] at h
    rw [closes, String.toList_append, List.getLast?_append, hlast]
    exact h

theorem AllLines.nested {items : List Item} (h : AllLines items) : Nested items := by
  induction items with
  | nil => exact .nil
  | cons item items ih =>
    obtain ⟨text, rfl⟩ := h _ List.mem_cons_self
    exact (Nested.line text).append (ih fun i hi => h i (List.mem_cons_of_mem _ hi))

theorem Nested.cons_line {items : List Item} (h : Nested items) (text : String) :
    Nested (.line text :: items) :=
  (Nested.line text).append h

theorem Nested.cons_gap {items : List Item} (h : Nested items) : Nested (.gap :: items) :=
  Nested.gap.append h

theorem nested_flatMap {α : Type} {f : α → List Item} (h : ∀ x, Nested (f x)) (xs : List α) :
    Nested (xs.flatMap f) := by
  induction xs with
  | nil => exact .nil
  | cons x xs ih => exact (h x).append ih

end Item

namespace Artifact

open Item ElementType

/-! ### Artifacts of records -/

theorem nested_defaultItems (name : String) (members : List Member) :
    Nested (defaultItems name members) := by
  refine .block (closes_append (by decide) _) (.block (by decide) ?_)
  split
  · exact .line _
  · exact .block (by decide) (allLines_map _ members).nested

theorem nested_recordItems (m : FlatSchema) (profile : Profile) :
    Nested (recordItems m profile) := by
  have himport : Nested (if m.fields.any (fun f => f.type.isFixedText) then
      [.line ("use " ++ profile.storageRuntime ++ "::FixedText;"), .gap] else []) := by
    split
    · exact Nested.gap.cons_line _
    · exact .nil
  have hfield : ∀ f, Nested (fieldItems f) :=
    fun f => (allLines_doc f.comment).nested.append (.line _)
  have hstruct : Nested (Item.block ("pub struct " ++ m.name ++ " \x7b")
      (m.fields.flatMap fieldItems) "\x7d") :=
    .block (closes_append (by decide) _) (nested_flatMap hfield m.fields)
  exact ((((himport.append (allLines_doc m.comment).nested).append
    (allLines_deriveItems profile).nested).append hstruct).append .gap).append
    (nested_defaultItems _ _)

theorem nested_pushItems (function record separator : String) (fields : List Field)
    (push : Field → String) : Nested (pushItems function record separator fields push) :=
  .block (closes_append (by decide) _) (allLines_separated separator push fields).nested

theorem nested_rowItems (record : String) (fields : List Field) :
    Nested (rowItems record fields) := by
  have hcheck : Nested (Item.block "if row.len() != Self::COLUMNS.len() \x7b"
      (Item.block "return Err(DecodeError::FieldCount \x7b"
        [.line "expected: Self::COLUMNS.len(),", .line "actual: row.len(),"] "\x7d);") "\x7d") :=
    .block (by decide) (.block (by decide) ((Nested.line _).cons_line _))
  exact .block (closes_append (by decide) _)
    ((hcheck.append (allLines_map _ fields.zipIdx).nested).append (.line _))

theorem nested_descriptorItems (m : FlatSchema) (profile : Profile) :
    Nested (descriptorItems m profile) := by
  have hcolumns : Nested (Item.block "const COLUMNS: &'static [Column] = &["
      (m.fields.map columnLine) "];") :=
    .block (by decide) (allLines_map _ m.fields).nested
  refine Nested.append ?_ (.block (closes_append (by decide) _) ?_)
  · exact ((((Nested.gap.cons_line _).cons_line _).cons_gap).cons_line _).cons_line _
  · refine ((((((((Nested.append ?_ hcolumns).append .gap).append ?_).append .gap).append ?_).append
      .gap).append ?_).append .gap).append (nested_rowItems _ _)
    · exact ((((Nested.line _).cons_line _).cons_line _).cons_gap).cons_line _
    · exact nested_pushItems _ _ _ _ _
    · exact nested_pushItems _ _ _ _ _
    · exact nested_pushItems _ _ _ _ _

theorem nested_messageItems (m : FlatSchema) (profile : Profile) :
    Nested (messageItems m profile) := by
  have hfield : ∀ p : Field × Nat,
      Nested (commentItems p.1.comment ++ [messageField p.1 p.2]) :=
    fun p => (allLines_commentItems p.1.comment).nested.append (.line _)
  have hstart : Nested [.line "syntax = \"proto2\";", .gap,
      .line ("package " ++ profile.protoPackage ++ ";"), .gap] :=
    ((Nested.gap.cons_line _).cons_gap).cons_line _
  exact (hstart.append (allLines_commentItems m.comment).nested).append
    (.block (closes_append (by decide) _) (nested_flatMap hfield m.fields.zipIdx))

theorem nested_toMessageItems (m : FlatSchema) : Nested (toMessageItems m) :=
  .block (closes_append (by decide) _) (.block (closes_append (by decide) _)
    (.block (by decide) (allLines_map _ m.fields).nested))

theorem nested_fromMessageItems (m : FlatSchema) : Nested (fromMessageItems m) := by
  refine .block (closes_append (by decide) _) (.block (closes_append (by decide) _) ?_)
  split
  · exact .line _
  · exact ((Nested.line _).append (allLines_map _ m.fields).nested).append (.line _)

theorem nested_messageGlueItems (m : FlatSchema) (profile : Profile) :
    Nested (messageGlueItems m profile) :=
  ((((Nested.gap.cons_line _).cons_line _).append (nested_toMessageItems m)).append .gap).append
    (nested_fromMessageItems m)

/-! ### Record types of trees -/

/-- The items of the type of an element, which stand before the module of its children. -/
def elementItems (profile : Profile) (scope : Scope) (t : ElementType) : List Item :=
  let members := elementMembers profile scope t
  [.gap, .line ("/// `<" ++ t.tag ++ ">` element")] ++ deriveItems profile ++
  Item.block ("pub struct " ++ t.typeName ++ " \x7b") (members.map memberLine) "\x7d" ++
  [.gap] ++ defaultItems t.typeName members

theorem enterItems_eq (profile : Profile) (scope : Scope) (t : ElementType) :
    enterItems profile scope t = elementItems profile scope t ++ moduleItems scope t :=
  rfl

theorem nested_elementItems (profile : Profile) (scope : Scope) (t : ElementType) :
    Nested (elementItems profile scope t) := by
  have hstruct : Nested (Item.block ("pub struct " ++ t.typeName ++ " \x7b")
      ((elementMembers profile scope t).map memberLine) "\x7d") :=
    .block (closes_append (by decide) _) (allLines_map _ _).nested
  exact (((((Nested.line _).cons_gap).append (allLines_deriveItems profile).nested).append
    hstruct).append .gap).append (nested_defaultItems _ _)

theorem moduleItems_of_children {t : ElementType} (h : t.children ≠ []) (scope : Scope) :
    moduleItems scope t =
      [.gap, .opening ("pub mod " ++ scope.moduleIdent ++ " \x7b"), .line "use super::*;"] := by
  rw [moduleItems, List.isEmpty_eq_false_iff.mpr h, if_neg Bool.false_ne_true]

theorem visitItems_leave_of_children {t : ElementType} (h : t.children ≠ []) (profile : Profile)
    (scope : Scope) : visitItems profile (.leave scope t) = [.closing "\x7d"] := by
  rw [visitItems, List.isEmpty_eq_false_iff.mpr h, if_neg Bool.false_ne_true]

/-- **The items of an element type without children** are those of its type. -/
theorem flatMap_walkFrom_leaf (profile : Profile) (scope : Scope) {t : ElementType}
    (h : t.children = []) :
    (walkFrom scope t).flatMap (visitItems profile) = elementItems profile scope t := by
  rw [walkFrom_eq, h, walkListFrom, List.nil_append, List.flatMap_cons, List.flatMap_singleton,
    visitItems, visitItems, enterItems_eq, moduleItems, h, List.isEmpty_nil, if_pos rfl, if_pos rfl,
    List.append_nil, List.append_nil]

/-- **The items of an element type with children** are those of its type and a module, with the
items of the children inside. -/
theorem flatMap_walkFrom_parent (profile : Profile) (scope : Scope) {t : ElementType}
    (h : t.children ≠ []) :
    (walkFrom scope t).flatMap (visitItems profile) =
      elementItems profile scope t ++ .gap ::
        Item.block ("pub mod " ++ scope.moduleIdent ++ " \x7b")
          (.line "use super::*;" ::
            (walkListFrom scope t.children).flatMap (visitItems profile)) "\x7d" := by
  rw [walkFrom_eq, List.flatMap_cons, List.flatMap_append, List.flatMap_singleton,
    visitItems_leave_of_children h, visitItems, enterItems_eq, moduleItems_of_children h]
  simp only [Item.block, List.append_assoc, List.cons_append, List.nil_append]

/-- The items of several subtrees are nested if those of each are. -/
theorem nested_walkListFrom {profile : Profile} {types : List ElementType}
    (h : ∀ c ∈ types, ∀ scope, Nested ((walkFrom scope c).flatMap (visitItems profile)))
    (scope : Scope) : Nested ((walkListFrom scope types).flatMap (visitItems profile)) := by
  induction types with
  | nil => exact .nil
  | cons t types ih =>
    rw [walkListFrom, List.flatMap_append]
    exact (h t List.mem_cons_self _).append (ih fun c hc => h c (List.mem_cons_of_mem _ hc))

/-- **The items of a subtree are nested.** What entering a node leaves open, leaving it closes; in
between stand the items of its children, which are nested by the induction. -/
theorem nested_walkFrom (profile : Profile) (t : ElementType) :
    ∀ scope, Nested ((walkFrom scope t).flatMap (visitItems profile)) := by
  induction t using ElementType.induction with
  | step t ih =>
    intro scope
    by_cases h : t.children = []
    · rw [flatMap_walkFrom_leaf profile scope h]
      exact nested_elementItems profile scope t
    · rw [flatMap_walkFrom_parent profile scope h]
      have hbelow := (nested_walkListFrom ih scope).cons_line "use super::*;"
      exact (nested_elementItems profile scope t).append
        (.cons_gap (.block (closes_append (by decide) _) hbelow))

theorem nested_treeItems (root : ElementType) (profile : Profile) :
    Nested (treeItems root profile) :=
  ((allLines_if _ _).append (allLines_if _ _)).nested.append (nested_walkFrom profile root _)

/-! ### Reading and writing trees -/

theorem nested_absentItems : Nested absentItems :=
  .block (by decide) (.line _)

theorem nested_readChildItems (scope : Scope) (c : ElementType) :
    Nested (readChildItems scope c) := by
  rw [readChildItems]
  split
  · exact .line _
  · exact .block (closes_append (by decide) _) (((Nested.line _).cons_line _).cons_line _)

theorem nested_writeChildItems (c : ElementType) : Nested (writeChildItems c) := by
  rw [writeChildItems]
  split
  · exact .line _
  · exact .block (closes_append (by decide) _) (.line _)

theorem nested_parseItems (scope : Scope) (t : ElementType) : Nested (parseItems scope t) := by
  refine .cons_line (.block (by decide) ?_) _
  split
  · exact .line _
  · exact (((nested_absentItems.append (allLines_if _ _).nested).append
      (allLines_map _ _).nested).append
      (nested_flatMap (nested_readChildItems scope) _)).append (.line _)

theorem nested_writeItems (t : ElementType) : Nested (writeItems t) := by
  refine .cons_line (.block (by decide) ?_) _
  split
  · exact .line _
  · exact (((nested_absentItems.append (allLines_if _ _).nested).append
      (allLines_map _ _).nested).append
      (nested_flatMap nested_writeChildItems _)).append (.line _)

theorem nested_resetItems (t : ElementType) : Nested (resetItems t) := by
  refine .cons_line ?_ _
  split
  · exact .line _
  · exact .block (by decide) (((allLines_map _ _).append (allLines_map _ _)).append
      (allLines_resetChild _)).nested

theorem nested_marshalVisit (step : Visit) : Nested (marshalVisit step) := by
  cases step with
  | enter scope t =>
    exact .cons_gap (.block (closes_append (by decide) _)
      (((((nested_parseItems scope t).append .gap).append (nested_writeItems t)).append .gap).append
        (nested_resetItems t)))
  | leave scope t => exact .nil

theorem nested_marshalItems (root : ElementType) (profile : Profile) :
    Nested (marshalItems root profile) :=
  (((allLines_singleton _).append (allLines_if _ _)).append (allLines_singleton _)).nested.append
    (nested_flatMap nested_marshalVisit root.walk)

/-! ### Modules are closed where their type is left -/

/-- **A node that is left was entered before**, and in between only its children were walked. -/
theorem exists_enter_of_leave (t : ElementType) :
    ∀ scope before left u after, walkFrom scope t = before ++ .leave left u :: after →
      ∃ outer, before = outer ++ .enter left u :: walkListFrom left u.children := by
  induction t using induction_lists (Q := fun types => ∀ scope before left u after,
    walkListFrom scope types = before ++ .leave left u :: after →
      ∃ outer, before = outer ++ .enter left u :: walkListFrom left u.children) with
  | node t ih =>
    intro scope before left u after hwalk
    rw [walkFrom_eq] at hwalk
    cases before with
    | nil => cases hwalk
    | cons step before =>
      obtain ⟨rfl, htail⟩ := List.cons.inj hwalk
      rcases eq_append_cons_cases htail with ⟨rest, hinside⟩ | ⟨rest, rfl, hend⟩
      · -- a node below is left
        obtain ⟨outer, rfl⟩ := ih scope before left u rest hinside
        exact ⟨.enter scope t :: outer, rfl⟩
      · -- the node itself is left
        cases rest with
        | nil =>
          cases hend
          exact ⟨[], by rw [List.append_nil, List.nil_append]⟩
        | cons step rest => simp at hend
  | nil scope before left u after hwalk => simp [walkListFrom] at hwalk
  | cons t types ih ihtypes scope before left u after hwalk =>
    rw [walkListFrom] at hwalk
    rcases eq_append_cons_cases hwalk with ⟨rest, hfirst⟩ | ⟨rest, rfl, hsecond⟩
    · exact ih _ before left u rest hfirst
    · obtain ⟨outer, rfl⟩ := ihtypes scope rest left u after hsecond
      exact ⟨_ ++ outer, by rw [List.append_assoc]⟩

/-- The items before the step that leaves an element type with children end with its module: the
line that opened it when the type was entered, and nested items behind it. -/
theorem exists_module_of_leave {root t : ElementType} {scope : Scope} {before after : List Visit}
    (hwalk : root.walk = before ++ .leave scope t :: after) (ht : t.children ≠ [])
    (profile : Profile) :
    ∃ outer body, before = outer ++ .enter scope t :: walkListFrom scope t.children ∧
      before.flatMap (visitItems profile) =
        outer.flatMap (visitItems profile) ++ elementItems profile scope t ++
          .gap :: .opening ("pub mod " ++ scope.moduleIdent ++ " \x7b") :: body ∧
      Nested body := by
  obtain ⟨outer, rfl⟩ := exists_enter_of_leave root _ before scope t after hwalk
  have hbelow := nested_walkListFrom (fun c (_ : c ∈ t.children) => nested_walkFrom profile c) scope
  refine ⟨outer, _, rfl, ?_, hbelow.cons_line "use super::*;"⟩
  rw [List.flatMap_append, List.flatMap_cons, visitItems, enterItems_eq, moduleItems_of_children ht]
  simp only [List.append_assoc, List.cons_append, List.nil_append]

/-- **Every artifact closes its blocks.** Whatever the schema and the profile, a line that closes a
block finds one open, and it is the one that the matching line opened; at the end none is open. Of
the record types of a tree, the module that is closed when an element type is left is the one that
was opened when this type was entered. -/
theorem artifacts_blocksClosed :
    (∀ (m : FlatSchema) (profile : Profile),
      BlocksClosed (recordItems m profile) ∧ BlocksClosed (descriptorItems m profile) ∧
        BlocksClosed (messageItems m profile) ∧ BlocksClosed (messageGlueItems m profile)) ∧
    (∀ (root : ElementType) (profile : Profile),
      BlocksClosed (treeItems root profile) ∧ BlocksClosed (marshalItems root profile)) ∧
    ∀ (root t : ElementType) (scope : Scope) (before after : List Visit) (profile : Profile),
      root.walk = before ++ .leave scope t :: after → t.children ≠ [] →
        visitItems profile (.leave scope t) = [.closing "\x7d"] ∧
        ∃ outer body, before = outer ++ .enter scope t :: walkListFrom scope t.children ∧
          before.flatMap (visitItems profile) =
            outer.flatMap (visitItems profile) ++ elementItems profile scope t ++
              .gap :: .opening ("pub mod " ++ scope.moduleIdent ++ " \x7b") :: body ∧
          Nested body := by
  refine ⟨fun m profile => ⟨(nested_recordItems m profile).blocksClosed,
      (nested_descriptorItems m profile).blocksClosed, (nested_messageItems m profile).blocksClosed,
      (nested_messageGlueItems m profile).blocksClosed⟩,
    fun root profile => ⟨(nested_treeItems root profile).blocksClosed,
      (nested_marshalItems root profile).blocksClosed⟩, ?_⟩
  intro root t scope before after profile hwalk ht
  exact ⟨visitItems_leave_of_children ht profile scope, exists_module_of_leave hwalk ht profile⟩

/-- The type of the items that a member carries. -/
def itemType : ElementType :=
  ⟨"item", .sequence, [], none, []⟩

/-- The type of members. -/
def memberType : ElementType :=
  ⟨"member", .sequence, [], none, [itemType]⟩

/-- The type of the motto of a guild. -/
def mottoType : ElementType :=
  ⟨"motto", .single, [], none, []⟩

/-- The type of guilds. -/
def guildType : ElementType :=
  ⟨"guild", .single, [], none, [memberType, mottoType]⟩

/-- The scope of guilds. -/
def guildScope : Scope :=
  .root guildType.typeName

/-- The scope of the members of a guild. -/
def memberScope : Scope :=
  guildScope.child memberType.typeName

/-- The steps of a walk before the members are left. -/
def memberSteps : List Visit :=
  [.enter guildScope guildType, .enter memberScope memberType,
    .enter (memberScope.child itemType.typeName) itemType,
    .leave (memberScope.child itemType.typeName) itemType]

/-- The steps of a walk behind the members. -/
def mottoSteps : List Visit :=
  [.enter (guildScope.child mottoType.typeName) mottoType,
    .leave (guildScope.child mottoType.typeName) mottoType, .leave guildScope guildType]

/-- Inside the module of a guild, the module of its members is closed when the members are left,
with the motto still to come. -/
theorem memberModule_closed :
    guildType.walk = memberSteps ++ .leave memberScope memberType :: mottoSteps ∧
    memberType.children ≠ [] ∧ visitItems {} (.leave memberScope memberType) = [.closing "\x7d"] ∧
    ∃ outer body,
      memberSteps = outer ++ .enter memberScope memberType ::
        walkListFrom memberScope memberType.children ∧
      memberSteps.flatMap (visitItems {}) =
        outer.flatMap (visitItems {}) ++ elementItems {} memberScope memberType ++
          .gap :: .opening ("pub mod " ++ memberScope.moduleIdent ++ " \x7b") :: body ∧
      Nested body := by
  have hwalk : guildType.walk = memberSteps ++ .leave memberScope memberType :: mottoSteps := rfl
  have hchildren : memberType.children ≠ [] := List.cons_ne_nil _ _
  exact ⟨hwalk, hchildren, artifacts_blocksClosed.2.2 guildType memberType memberScope memberSteps
    mottoSteps {} hwalk hchildren⟩

end Artifact

end SchemaCompiler
