import SchemaCompiler.Proofs.Artifact.Declarations
import SchemaCompiler.Proofs.Artifact.Forms
import SchemaCompiler.Proofs.Artifact.Rows
import SchemaCompiler.Proofs.Schema.Declared
import SchemaCompiler.Proofs.Text.OneLine

/-!
# Items that fill their lines

An item that holds a line feed falls apart when it is laid out, and what is behind the feed is read
as code. Here it is shown that no artifact has such an item as long as the texts that it takes over
as they are have no line feed; then the lines of the artifact are the rows of its items
(`SchemaCompiler.Artifact.emittedLines_of_items?`).

For flat schemas these are the name of the unit (`SchemaCompiler.Artifact.OneLine`) and, in
messages, the names of fields. For trees they are the tags
(`SchemaCompiler.Artifact.ElementOneLine`), which stand in comments. In both, the texts of the
profile come on top. All other names are shown as identifiers or quoted, and the words for types
have no line feed to begin with.
-/

namespace SchemaCompiler.Artifact

open Item

/-- The lines of an artifact that are not empty; there are none if the kind does not apply. -/
def emittedLines (schema : Schema) (profile : Profile) (kind : ArtifactKind) : List String :=
  (body? schema profile kind).elim [] Text.shownLines

theorem emittedLines_of_items? {schema : Schema} {profile : Profile} {kind : ArtifactKind}
    {items : List Item} (h : items? schema profile kind = some items) (hrows : OneRows items) :
    emittedLines schema profile kind = rows 0 items := by
  rw [emittedLines, body?_of_items? h, Option.elim_some, shownLines_render hrows]

theorem feed_notMem_of_mem_emittedLines {schema : Schema} {profile : Profile}
    {kind : ArtifactKind} {line : String} (h : line ∈ emittedLines schema profile kind) :
    '\n' ∉ line.toList := by
  rw [emittedLines] at h
  cases hbody : body? schema profile kind with
  | none =>
    rw [hbody] at h
    cases h
  | some text =>
    rw [hbody] at h
    exact Text.feed_notMem_of_mem_shownLines h

/-- **What artifacts take from a schema and a profile is of one line**, except for the names of
fields: the name of the unit, the words for the types, and the texts of the profile. -/
structure OneLine (m : FlatSchema) (profile : Profile) : Prop where
  /-- The name of the unit has no line feed. -/
  name : '\n' ∉ m.name.toList
  /-- The types are those that can be named. -/
  types : ∀ f ∈ m.fields, ∃ typeName, Primitive.resolve? typeName = some f.type
  /-- The texts of the profile have no line feeds. -/
  profile : profile.OneLine

/-! ### Flat schemas -/

section

variable {m : FlatSchema} {profile : Profile}

theorem OneLine.type (h : OneLine m profile) {f : Field} (hf : f ∈ m.fields) :
    f.type.OneLine := by
  obtain ⟨typeName, hresolve⟩ := h.types f hf
  exact Primitive.oneLine_of_resolve? hresolve

@[simp] theorem oneRows_commentItems (comment : Option String) :
    OneRows (commentItems comment) :=
  oneRows_of_isComment fun _ hi => isComment_of_mem_commentItems hi

@[simp] theorem oneRows_deriveItems (h : profile.OneLine) : OneRows (deriveItems profile) := by
  refine oneRows_map fun text htext => ?_
  have hderive := Option.mem_toList.mp htext
  rw [oneRow_line]
  refine ⟨?_, h.deriveAttribute? hderive⟩
  rintro rfl
  rw [Profile.deriveAttribute?] at hderive
  split at hderive
  · cases hderive
  · simp at hderive

theorem oneRows_defaultItems {name : String} {members : List Member} (hname : '\n' ∉ name.toList)
    (hmembers : ∀ x ∈ members, '\n' ∉ x.name.toList ∧ '\n' ∉ x.initial.toList) :
    OneRows (defaultItems name members) := by
  have hlines : OneRows (members.map (fun x => .line (x.name ++ ": " ++ x.initial ++ ","))) :=
    oneRows_map fun x hx => by simp [hmembers x hx]
  rw [defaultItems]
  split <;> simp [hname, hlines]

theorem feed_notMem_initialOf {type : Primitive} (h : type.OneLine) :
    '\n' ∉ (initialOf type).toList := by
  rw [initialOf]
  split
  · decide
  · exact h.initial

theorem oneRows_recordItems (h : OneLine m profile) : OneRows (recordItems m profile) := by
  have hfields : OneRows (m.fields.flatMap fieldItems) :=
    oneRows_flatMap fun f hf => by
      simp [fieldItems, memberLine, fieldMember, (h.type hf).repr]
  have hdefault : OneRows (defaultItems m.name (m.fields.map fieldMember)) := by
    refine oneRows_defaultItems h.name fun x hx => ?_
    obtain ⟨f, hf, rfl⟩ := List.mem_map.mp hx
    dsimp only [fieldMember]
    exact ⟨Name.feed_notMem_memberIdent f.name, feed_notMem_initialOf (h.type hf)⟩
  rw [recordItems]
  split <;>
    simp [h.profile.storageRuntime, oneRows_deriveItems h.profile, h.name, hfields, hdefault]

theorem oneRows_messageItems (h : OneLine m profile)
    (hnames : ∀ f ∈ m.fields, '\n' ∉ f.name.toList) : OneRows (messageItems m profile) := by
  have hfields : OneRows (m.fields.zipIdx.flatMap
      (fun p => commentItems p.1.comment ++ [messageField p.1 p.2])) := by
    refine oneRows_flatMap fun p hp => ?_
    have hf : p.1 ∈ m.fields := List.fst_mem_of_mem_zipIdx hp
    simp [oneRows_commentItems, messageField, hnames p.1 hf, (h.type hf).wire]
  simp [messageItems, oneRows_commentItems, hfields, h.name, h.profile.protoPackage]

theorem feed_notMem_memberValue (f : Field) : '\n' ∉ (memberValue f).toList := by
  rw [memberValue]
  split <;> simp

theorem feed_notMem_valueStatement (f : Field) : '\n' ∉ (valueStatement f).toList := by
  rw [valueStatement]
  split <;> simp [feed_notMem_memberValue]

theorem feed_notMem_assignStatement (f : Field) : '\n' ∉ (assignStatement f).toList := by
  rw [assignStatement]
  split <;> simp [feed_notMem_memberValue]

theorem feed_notMem_rowStatement (f : Field) (place : Nat) :
    '\n' ∉ (rowStatement f place).toList := by
  rw [rowStatement]
  split <;> simp

theorem oneRows_pushItems {record : String} (hrecord : '\n' ∉ record.toList)
    {function separator : String} (hfunction : '\n' ∉ function.toList)
    (hseparator : '\n' ∉ separator.toList) (fields : List Field) {push : Field → String}
    (hpush : ∀ f, OneRow (.line (push f))) :
    OneRows (pushItems function record separator fields push) := by
  have hbody : OneRows (separated (.line ("query." ++ separator ++ "();"))
      (fields.map (fun f => .line (push f)))) := by
    intro item hitem
    rcases mem_separated hitem with rfl | hin
    · simp [hseparator]
    · obtain ⟨f, -, rfl⟩ := List.mem_map.mp hin
      exact hpush f
  have hparameter : ∀ name : String, '\n' ∉ name.toList →
      '\n' ∉ (parameter name fields).toList := by
    intro name hname
    rw [parameter]
    split <;> simp [hname]
  simp [pushItems, hbody, hrecord, hfunction, hparameter]

theorem oneRow_pushValue (f : Field) : OneRow (.line (pushValue f)) := by
  rw [oneRow_line, pushValue_eq]
  refine ⟨?_, feed_notMem_valueStatement f⟩
  rw [valueStatement]
  split <;> simp

theorem oneRow_pushAssign (f : Field) : OneRow (.line (pushAssign f)) := by
  rw [oneRow_line, pushAssign_eq]
  refine ⟨?_, feed_notMem_assignStatement f⟩
  rw [assignStatement]
  split <;> simp

theorem oneRows_rowItems {record : String} (hrecord : '\n' ∉ record.toList)
    (fields : List Field) : OneRows (rowItems record fields) := by
  have hreads : OneRows (fields.zipIdx.map (fun p => .line (readStatement p.1 p.2))) := by
    refine oneRows_map fun p _ => ?_
    rw [oneRow_line, readStatement_eq]
    refine ⟨?_, feed_notMem_rowStatement p.1 p.2⟩
    rw [rowStatement]
    split <;> simp
  have hparameter : '\n' ∉ (parameter "object" fields).toList := by
    rw [parameter]
    split <;> decide
  simp [rowItems, hreads, hrecord, hparameter]

theorem oneRows_descriptorItems (h : OneLine m profile) : OneRows (descriptorItems m profile) := by
  have hquoted : ∀ fields : List Field, '\n' ∉ (quotedColumns fields).toList := by
    intro fields
    refine Text.feed_notMem_intercalate (by decide) fun s hs => ?_
    obtain ⟨f, -, rfl⟩ := List.mem_map.mp hs
    exact Text.feed_notMem_quote _
  have hindexes : '\n' ∉ (", ".intercalate ((indexFields m).map
      (fun fields => "&[" ++ quotedColumns fields ++ "]"))).toList := by
    refine Text.feed_notMem_intercalate (by decide) fun s hs => ?_
    obtain ⟨fields, -, rfl⟩ := List.mem_map.mp hs
    simp [hquoted]
  have hcolumns : OneRows (m.fields.map columnLine) :=
    oneRows_map fun f _ => by simp [columnLine]
  have hmodule := h.profile.recordModuleFor m.name
  have hvalues := @oneRows_pushItems m.name h.name "object_to_query" "push_separator" (by decide)
    (by decide) m.fields pushValue oneRow_pushValue
  have hassigns := @oneRows_pushItems m.name h.name "pairs_to_query" "push_separator" (by decide)
    (by decide) m.fields pushAssign oneRow_pushAssign
  have hkeys := @oneRows_pushItems m.name h.name "keys_to_query" "push_key_separator" (by decide)
    (by decide) m.keyFields pushAssign oneRow_pushAssign
  simp [-String.toList_intercalate, descriptorItems, descriptorName, hcolumns, hquoted, hindexes,
    hmodule, h.name, h.profile.storageRuntime, hvalues, hassigns, hkeys, oneRows_rowItems h.name]

end

/-! ### Trees -/

section

open ElementType

variable {profile : Profile}

/-- **What generated code takes from an element type is of one line**: its tag, and the words for
its types. -/
structure ElementOneLine (t : ElementType) : Prop where
  /-- The tag has no line feed. -/
  tag : '\n' ∉ t.tag.toList
  /-- The type of the content. -/
  content : ∀ type ∈ t.content, type.OneLine
  /-- The types of the attributes. -/
  attributes : ∀ a ∈ t.attributes, a.type.OneLine

/-- **Only the tags of a document can break lines**: types are those that can be named. -/
theorem elementOneLine_of_mem_nodes {document : Element} {n : ElementType}
    (hn : n ∈ (ofElement document).1.nodes) (htag : '\n' ∉ n.tag.toList) : ElementOneLine n := by
  obtain ⟨scope, e, -, hread, -⟩ := exists_read_of_mem_nodes hn
  refine ⟨htag, fun type htype => ?_, fun a ha => ?_⟩
  · rw [hread, read_eq] at htype
    have hcontent := (readContent_fst _ scope e).symm.trans htype
    obtain ⟨typeName, -, hresolve⟩ := Option.bind_eq_some_iff.mp hcontent
    exact Primitive.oneLine_of_resolve? hresolve
  · rw [hread] at ha
    obtain ⟨before, value, after, -, hresolve, -⟩ := (membersOf_read _ scope _ e).resolved a ha
    exact Primitive.oneLine_of_resolve? hresolve

theorem feed_notMem_mapType (profile : Profile) : '\n' ∉ profile.mapType.typeName.toList := by
  cases profile.mapType <;> decide

@[simp] theorem feed_notMem_typeName (t : ElementType) : '\n' ∉ t.typeName.toList :=
  t.isIdent_typeName.feed_notMem

@[simp] theorem feed_notMem_member (t : ElementType) : '\n' ∉ t.member.toList :=
  t.isIdent_member.feed_notMem

@[simp] theorem feed_notMem_attributeMember (a : Attribute) : '\n' ∉ a.member.toList := by
  rw [Attribute.member]
  exact Name.feed_notMem_memberIdent a.name

@[simp] theorem feed_notMem_moduleIdent (p : Place) : '\n' ∉ p.scope.moduleIdent.toList := by
  rw [p.moduleIdent_scope]
  exact Name.feed_notMem_memberIdent _

theorem feed_notMem_typePath (p : Place) : '\n' ∉ p.scope.typePath.toList := by
  rw [p.typePath_scope]
  exact Text.feed_notMem_intercalate (by decide) fun s hs => (isIdent_of_mem_path hs).feed_notMem

theorem feed_notMem_childType (p : Place) {c : ElementType} (hc : ElementOneLine c) :
    '\n' ∉ (childType profile p.scope c).toList := by
  have hmap := feed_notMem_mapType profile
  have hkey : ∀ a, c.mapKey? = some a → '\n' ∉ a.type.repr.toList := by
    intro a ha
    rw [mapKey?] at ha
    split at ha
    · exact (hc.attributes a (List.mem_of_find?_eq_some ha)).repr
    · cases ha
  rw [childType]
  split
  · simp
  · simp
  · simp only [String.toList_append, List.mem_append, not_or]
    refine ⟨⟨⟨⟨hmap, by decide⟩, ?_⟩, by decide⟩, ?_⟩
    · split
      · exact hkey _ (by assumption)
      · decide
    · split <;> simp

theorem feed_notMem_childInitial (profile : Profile) (container : Container) :
    '\n' ∉ (childInitial profile container).toList := by
  cases container with
  | single => simp [childInitial]
  | sequence => simp [childInitial]
  | map key multi => simp [childInitial, feed_notMem_mapType]

/-- The members of an element type are of one line. -/
theorem feed_notMem_of_mem_elementMembers {p : Place} (h : ElementOneLine p.node)
    (hchildren : ∀ c ∈ p.node.children, ElementOneLine c) {x : Member}
    (hx : x ∈ elementMembers profile p.scope p.node) :
    '\n' ∉ x.name.toList ∧ '\n' ∉ x.type.toList ∧ '\n' ∉ x.initial.toList := by
  rw [elementMembers, List.mem_append, List.mem_append] at hx
  rcases hx with (hcontent | hattribute) | hchild
  · obtain ⟨type, htype, rfl⟩ := List.mem_map.mp hcontent
    have hline := h.content type (Option.mem_toList.mp htype)
    dsimp only
    exact ⟨by simp [contentMember], hline.repr, feed_notMem_initialOf hline⟩
  · obtain ⟨a, ha, rfl⟩ := List.mem_map.mp hattribute
    have hline := h.attributes a ha
    dsimp only
    exact ⟨feed_notMem_attributeMember a, hline.repr, feed_notMem_initialOf hline⟩
  · obtain ⟨c, hc, rfl⟩ := List.mem_map.mp hchild
    dsimp only
    exact ⟨feed_notMem_member c, feed_notMem_childType p (hchildren c hc),
      feed_notMem_childInitial profile c.container⟩

theorem oneRows_enterItems {p : Place} (hprofile : profile.OneLine) (h : ElementOneLine p.node)
    (hchildren : ∀ c ∈ p.node.children, ElementOneLine c) :
    OneRows (enterItems profile p.scope p.node) := by
  have hmembers : OneRows ((elementMembers profile p.scope p.node).map memberLine) := by
    refine oneRows_map fun x hx => ?_
    obtain ⟨hname, htype, -⟩ := feed_notMem_of_mem_elementMembers h hchildren hx
    simp [memberLine, hname, htype]
  have hdefault : OneRows (defaultItems p.node.typeName
      (elementMembers profile p.scope p.node)) :=
    oneRows_defaultItems (feed_notMem_typeName _) fun x hx =>
      ⟨(feed_notMem_of_mem_elementMembers h hchildren hx).1,
        (feed_notMem_of_mem_elementMembers h hchildren hx).2.2⟩
  rw [enterItems]
  split <;> simp [oneRows_deriveItems hprofile, hmembers, hdefault, h.tag]

theorem oneRows_readChildItems (p : Place) (c : ElementType) :
    OneRows (readChildItems p.scope c) := by
  have hpath : '\n' ∉ (elementPath p.scope c).toList := by
    rw [elementPath, ← p.scope_child]
    simp [recordAlias, feed_notMem_typePath]
  have hkeep : keepElement c ≠ "" ∧ '\n' ∉ (keepElement c).toList := by
    rw [keepElement]
    split <;> simp
  rw [readChildItems]
  split <;> simp [hpath, hkeep]

theorem oneRows_parseItems {p : Place} (h : ElementOneLine p.node) :
    OneRows (parseItems p.scope p.node) := by
  have hattributes : OneRows (p.node.attributes.map (fun a => .line ("node.read_attribute(" ++
      Text.quote a.name ++ ", &mut self." ++ a.member ++ ");"))) :=
    oneRows_map fun a _ => by simp
  have hchildren : OneRows (p.node.children.flatMap (readChildItems p.scope)) :=
    oneRows_flatMap fun c _ => oneRows_readChildItems p c
  have hcontent : OneRows (if p.node.content.isSome then
      [.line ("node.read_content(&mut self." ++ contentMember ++ ");")] else []) := by
    split <;> simp [contentMember]
  rw [parseItems]
  split <;> simp [absentItems, h.tag, hattributes, hchildren, hcontent]

theorem oneRows_writeItems {t : ElementType} (h : ElementOneLine t) : OneRows (writeItems t) := by
  have hattributes : OneRows (t.attributes.map (fun a => .line ("node.write_attribute(" ++
      Text.quote a.name ++ ", &self." ++ a.member ++ ");"))) :=
    oneRows_map fun a _ => by simp
  have hchildren : OneRows (t.children.flatMap writeChildItems) := by
    refine oneRows_flatMap fun c _ => ?_
    have helements : '\n' ∉ (elementsOf c).toList := by
      rw [elementsOf]
      split <;> simp
    rw [writeChildItems]
    split <;> simp [helements]
  have hcontent : OneRows (if t.content.isSome then
      [.line ("node.write_content(&self." ++ contentMember ++ ");")] else []) := by
    split <;> simp [contentMember]
  rw [writeItems]
  split <;> simp [absentItems, h.tag, hattributes, hchildren, hcontent]

theorem oneRows_resetItems {t : ElementType} (h : ElementOneLine t) : OneRows (resetItems t) := by
  have hcontent : OneRows (t.content.toList.map (fun type =>
      .line ("self." ++ contentMember ++ " = " ++ type.initial ++ ";"))) :=
    oneRows_map fun type htype => by
      simp [contentMember, (h.content type (Option.mem_toList.mp htype)).initial]
  have hattributes : OneRows (t.attributes.map (fun a =>
      .line ("self." ++ a.member ++ " = " ++ a.type.initial ++ ";"))) :=
    oneRows_map fun a ha => by simp [(h.attributes a ha).initial]
  have hchildren : OneRows (t.children.map resetChild) := by
    refine oneRows_map fun c _ => ?_
    rw [resetChild]
    split <;> simp
  rw [resetItems]
  split <;> simp [hcontent, hattributes, hchildren]

theorem oneRows_marshalBlock {p : Place} (h : ElementOneLine p.node) :
    OneRows (marshalBlock p.scope p.node) := by
  simp [marshalBlock, recordAlias, feed_notMem_typePath, oneRows_parseItems h,
    oneRows_writeItems h, oneRows_resetItems h]

theorem exists_place_of_enter_mem_walk {t n : ElementType} {scope : Scope}
    (h : .enter scope n ∈ t.walk) : ∃ p ∈ t.places, p.scope = scope ∧ p.node = n := by
  have hentered : (scope, n) ∈ t.walk.filterMap Visit.entered? :=
    List.mem_filterMap.mpr ⟨_, h, rfl⟩
  rw [filterMap_entered_walk] at hentered
  obtain ⟨p, hp, heq⟩ := List.mem_map.mp hentered
  exact ⟨p, hp, (Prod.mk.inj heq).1, (Prod.mk.inj heq).2⟩

section

variable {t : ElementType} (hprofile : profile.OneLine) (hnodes : ∀ n ∈ t.nodes, ElementOneLine n)

include hnodes in
theorem elementOneLine_of_mem_places {p : Place} (hp : p ∈ t.places) :
    ElementOneLine p.node ∧ ∀ c ∈ p.node.children, ElementOneLine c :=
  ⟨hnodes _ (mem_nodes_of_mem_placesFrom t [] p hp), fun c hc =>
    hnodes c (mem_nodes_of_mem_placesFrom t [] _ (child_mem_placesFrom t [] p hp c hc))⟩

include hprofile hnodes in
theorem oneRows_treeItems : OneRows (treeItems t profile) := by
  have hwalk : OneRows (t.walk.flatMap (visitItems profile)) := by
    refine oneRows_flatMap fun v hv => ?_
    cases v with
    | enter scope n =>
      obtain ⟨p, hp, rfl, rfl⟩ := exists_place_of_enter_mem_walk hv
      obtain ⟨hnode, hchildren⟩ := elementOneLine_of_mem_places hnodes hp
      exact oneRows_enterItems hprofile hnode hchildren
    | leave scope n =>
      rw [visitItems]
      split <;> simp
  rw [treeItems]
  simp only [oneRows_append, hwalk, and_true]
  constructor
  · split <;> simp [feed_notMem_mapType]
  · split <;> simp [hprofile.storageRuntime]

include hprofile hnodes in
theorem oneRows_marshalItems : OneRows (marshalItems t profile) := by
  have hwalk : OneRows (t.walk.flatMap marshalVisit) := by
    refine oneRows_flatMap fun v hv => ?_
    cases v with
    | enter scope n =>
      obtain ⟨p, hp, rfl, rfl⟩ := exists_place_of_enter_mem_walk hv
      exact oneRows_marshalBlock (elementOneLine_of_mem_places hnodes hp).1
    | leave scope n => exact oneRows_nil
  rw [marshalItems]
  split <;> simp [hwalk, recordAlias, hprofile.documentRuntime, hprofile.storageRuntime,
    hprofile.recordModuleFor]

end

end

end SchemaCompiler.Artifact
