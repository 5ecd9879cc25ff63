import SchemaCompiler.Proofs.Artifact.Forms
import SchemaCompiler.Proofs.Artifact.Rows
import SchemaCompiler.Proofs.Text.Trim

/-!
# Comments in generated code

A record schema and its fields carry comments of any text, and two artifacts show them. Whatever
the comments say, they do not change the code: the lines of an artifact that are not comments are
those of the schema without its comments (`SchemaCompiler.FlatSchema.bare`), and the artifacts that
show no comments are those of that schema to the letter.

The items of a schema are those of the bare schema with comment lines put in
(`SchemaCompiler.Item.Commented`). Both lists are laid out side by side. The two pages keep showing
the same code (`SchemaCompiler.Page.SameCode`), but whether a gap is due goes by the last two
characters of a page, and behind a comment these differ. So the pages are *in step*
(`SchemaCompiler.Page.InStep`) only when what came last is on both of them, and comments stand right
before a line that brings the pages back in step.
-/

namespace SchemaCompiler

namespace Text

/-- Whether a line is a comment: behind its blanks it starts with two strokes. -/
def isComment (blank : Char → Bool) (line : List Char) : Bool :=
  ['/', '/'].isPrefixOf (line.dropWhile blank)

/-- The lines of a text that are not comments. -/
def codeLines (blank : Char → Bool) (cs : List Char) : List (List Char) :=
  (splitLines cs).filter (fun line => !isComment blank line)

section

variable {blank : Char → Bool}

/-- A comment that is indented is a comment. -/
theorem isComment_indented (hspace : blank ' ' = true) (hstroke : blank '/' = false) (width : Nat)
    (text : String) :
    isComment blank (List.replicate width ' ' ++ ("//" ++ text).toList) = true := by
  have htext : ("//" ++ text).toList = '/' :: '/' :: text.toList := String.toList_append
  have hblanks : ∀ c ∈ List.replicate width ' ', blank c = true := by
    intro c hc
    rw [List.eq_of_mem_replicate hc, hspace]
  rw [isComment, htext, List.dropWhile_append_of_pos hblanks,
    List.dropWhile_cons_of_neg (by simp [hstroke])]
  rfl

/-- **A line that is a comment adds no code** to a text of whole lines. -/
theorem codeLines_append_comment {cs line : List Char} (hcs : ∀ c ∈ cs.getLast?, c = '\n')
    (hline : isComment blank line = true) (hfeed : '\n' ∉ line) (rest : List Char) :
    codeLines blank (cs ++ (line ++ '\n' :: rest)) = codeLines blank (cs ++ rest) := by
  have hpiece : codeLines blank (line ++ '\n' :: rest) = codeLines blank rest := by
    rw [codeLines, splitLines_append_feed, splitLines_of_notMem hfeed, List.singleton_append,
      List.filter_cons_of_neg (by simp [hline]), codeLines]
  rcases List.eq_nil_or_concat' cs with rfl | ⟨front, last, rfl⟩
  · exact hpiece
  · obtain rfl : last = '\n' := hcs last (by simp)
    have hcut : ∀ tail, codeLines blank (front ++ ['\n'] ++ tail) =
        codeLines blank front ++ codeLines blank tail := by
      intro tail
      rw [List.append_assoc, List.singleton_append, codeLines, splitLines_append_feed,
        List.filter_append, codeLines, codeLines]
    rw [hcut, hcut, hpiece]

end

end Text

/-! ### Items with comments -/

namespace Item

/-- An item that shows characters, and so settles whether a gap behind it is due. -/
def HasText (item : Item) : Prop :=
  item.text ≠ ""

/-- The first list is the second one with comments put in, right before items with a text. -/
inductive Commented : List Item → List Item → Prop where
  /-- No comments. -/
  | same (items : List Item) : Commented items items
  /-- Comments before an item. -/
  | before {comments : List Item} {item : Item} (hcomments : ∀ i ∈ comments, i.IsComment)
      (hitem : item.HasText) : Commented (comments ++ [item]) [item]
  /-- One part behind another. -/
  | append {first first' second second' : List Item} :
      Commented first first' → Commented second second' →
        Commented (first ++ second) (first' ++ second')

theorem Commented.cons {items others : List Item} (h : Commented items others) (item : Item) :
    Commented (item :: items) (item :: others) :=
  (same [item]).append h

theorem Commented.before_cons {comments items others : List Item} {item : Item}
    (hcomments : ∀ i ∈ comments, i.IsComment) (hitem : item.HasText) (h : Commented items others) :
    Commented (comments ++ item :: items) (item :: others) := by
  have happend := (before hcomments hitem).append h
  rwa [List.append_assoc, List.singleton_append] at happend

theorem Commented.block {body body' : List Item} (h : Commented body body') (first last : String) :
    Commented (Item.block first body last) (Item.block first body' last) :=
  (h.append (same [.closing last])).cons (.opening first)

theorem Commented.flatMap {α : Type} {f g : α → List Item} (h : ∀ x, Commented (f x) (g x))
    (xs : List α) : Commented (xs.flatMap f) (xs.flatMap g) := by
  induction xs with
  | nil => exact same []
  | cons x xs ih => exact (h x).append ih

end Item

/-! ### Pages -/

namespace Page

/-- Two pages that show the same code, the first one in whole lines. -/
structure SameCode (blank : Char → Bool) (p q : Page) : Prop where
  /-- The same number of blocks is open. -/
  level : p.level = q.level
  /-- The last line of the first page is ended. -/
  ended : ∀ c ∈ p.reversed.head?, c = '\n'
  /-- The code is the same, whatever follows. -/
  code : ∀ rest, Text.codeLines blank (p.reversed.reverse ++ rest) =
    Text.codeLines blank (q.reversed.reverse ++ rest)

/-- Two pages that show the same code and agree on whether a gap is due. -/
structure InStep (blank : Char → Bool) (p q : Page) : Prop extends SameCode blank p q where
  /-- The last two characters are the same. -/
  recent : p.reversed.take 2 = q.reversed.take 2

section

variable {blank : Char → Bool} {p q : Page}

theorem SameCode.atLevel (h : SameCode blank p q) (f : Nat → Nat) :
    SameCode blank { p with level := f p.level } { q with level := f q.level } :=
  ⟨congrArg f h.level, h.ended, h.code⟩

theorem InStep.atLevel (h : InStep blank p q) (f : Nat → Nat) :
    InStep blank { p with level := f p.level } { q with level := f q.level } :=
  ⟨h.toSameCode.atLevel f, h.recent⟩

/-- A line keeps the code the same. -/
theorem SameCode.line (h : SameCode blank p q) (text : String) :
    SameCode blank (p.line text) (q.line text) where
  level := h.level
  ended c hc := (Option.some.inj hc).symm
  code rest := by rw [line_shown, line_shown, h.code, h.level]

/-- **A line that is not empty brings two pages back in step.** -/
theorem SameCode.inStep_line (h : SameCode blank p q) {text : String} (htext : text ≠ "") :
    InStep blank (p.line text) (q.line text) where
  toSameCode := h.line text
  recent := by
    obtain ⟨c, cs, hcs⟩ : ∃ c cs, text.toList.reverse = c :: cs :=
      List.exists_cons_of_ne_nil (by simpa using htext)
    rw [line_reversed, line_reversed, hcs]
    rfl

theorem InStep.last (h : InStep blank p q) : p.reversed.take 1 = q.reversed.take 1 := by
  have htake := congrArg (List.take 1) h.recent
  rwa [List.take_take, List.take_take] at htake

/-- A line keeps two pages in step. -/
theorem InStep.line (h : InStep blank p q) (text : String) :
    InStep blank (p.line text) (q.line text) := by
  by_cases htext : text = ""
  · subst htext
    exact ⟨h.toSameCode.line "", congrArg ('\n' :: ·) h.last⟩
  · exact h.toSameCode.inStep_line htext

/-- A gap keeps two pages in step. -/
theorem InStep.gap (h : InStep blank p q) : InStep blank p.gap q.gap := by
  rw [gap_eq, gap_eq, h.recent]
  split
  · refine ⟨⟨h.level, fun c hc => (Option.some.inj hc).symm, fun rest => ?_⟩, ?_⟩
    · simpa using h.code ('\n' :: rest)
    · exact congrArg ('\n' :: ·) h.last
  · exact h

/-- **What both pages get keeps them in step.** -/
theorem InStep.put (h : InStep blank p q) (item : Item) :
    InStep blank (p.put item) (q.put item) := by
  cases item with
  | line text => exact h.line text
  | gap => exact h.gap
  | opening text => exact (h.line text).atLevel (· + 1)
  | closing text => exact (h.atLevel (· - 1)).line text

theorem InStep.foldl (h : InStep blank p q) (items : List Item) :
    InStep blank (items.foldl Page.put p) (items.foldl Page.put q) := by
  induction items generalizing p q with
  | nil => exact h
  | cons item items ih => exact ih (h.put item)

/-- **An item with a text brings two pages back in step.** -/
theorem SameCode.inStep_put (h : SameCode blank p q) {item : Item} (hitem : item.HasText) :
    InStep blank (p.put item) (q.put item) := by
  cases item with
  | line text => exact h.inStep_line hitem
  | gap => exact absurd rfl hitem
  | opening text => exact (h.inStep_line hitem).atLevel (· + 1)
  | closing text => exact (h.atLevel (· - 1)).inStep_line hitem

/-- **A comment keeps the code the same.** -/
theorem SameCode.put_comment (h : SameCode blank p q) (hspace : blank ' ' = true)
    (hstroke : blank '/' = false) {item : Item} (hitem : item.IsComment) :
    SameCode blank (p.put item) q := by
  obtain ⟨text, rfl, hfeed⟩ := hitem
  have hlast : ∀ c ∈ p.reversed.reverse.getLast?, c = '\n' := by
    rw [List.getLast?_reverse]
    exact h.ended
  have hindent : (indent p.level ("//" ++ text)).reverse = List.replicate (4 * p.level) ' ' := by
    rw [indent, if_neg (by simp), List.reverse_replicate]
  refine ⟨h.level, fun c hc => (Option.some.inj hc).symm, fun rest => ?_⟩
  rw [put, line_shown, hindent, Text.codeLines_append_comment hlast
    (Text.isComment_indented hspace hstroke _ _) (by simp [hfeed]), h.code]

theorem SameCode.foldl_comments (h : SameCode blank p q) (hspace : blank ' ' = true)
    (hstroke : blank '/' = false) {comments : List Item} (hc : ∀ item ∈ comments, item.IsComment) :
    SameCode blank (comments.foldl Page.put p) q := by
  induction comments generalizing p with
  | nil => exact h
  | cons item items ih =>
    obtain ⟨hitem, hitems⟩ := List.forall_mem_cons.mp hc
    exact ih (h.put_comment hspace hstroke hitem) hitems

/-- **A list of items and the same list with comments keep two pages in step.** -/
theorem InStep.foldl_commented (h : InStep blank p q) (hspace : blank ' ' = true)
    (hstroke : blank '/' = false) {items others : List Item}
    (hitems : Item.Commented items others) :
    InStep blank (items.foldl Page.put p) (others.foldl Page.put q) := by
  induction hitems generalizing p q with
  | same items => exact h.foldl items
  | before hc hitem =>
    rw [List.foldl_append]
    exact (h.toSameCode.foldl_comments hspace hstroke hc).inStep_put hitem
  | append _ _ ihfirst ihsecond =>
    rw [List.foldl_append, List.foldl_append]
    exact ihsecond (ihfirst h)

end

end Page

/-- **Comments put into a list of items do not change the code** that it is laid out to. -/
theorem Item.Commented.codeLines_render {items others : List Item} (h : Commented items others)
    {blank : Char → Bool} (hspace : blank ' ' = true) (hstroke : blank '/' = false) :
    Text.codeLines blank (render items).toList = Text.codeLines blank (render others).toList := by
  have hstart : Page.InStep blank {} {} := ⟨⟨rfl, nofun, fun _ => rfl⟩, rfl⟩
  have hcode := (hstart.foldl_commented hspace hstroke h).code []
  rw [List.append_nil, List.append_nil] at hcode
  rw [render, render, String.toList_ofList, String.toList_ofList, hcode]

/-! ### Schemas without comments -/

/-- A field without its comment. -/
def Field.bare (f : Field) : Field :=
  { f with comment := none }

/-- A record schema without its comments. -/
def FlatSchema.bare (m : FlatSchema) : FlatSchema :=
  { m with comment := none, fields := m.fields.map Field.bare }

namespace Field

theorem bare_name (f : Field) : f.bare.name = f.name := rfl

theorem bare_type (f : Field) : f.bare.type = f.type := rfl

theorem bare_column (f : Field) : f.bare.column = f.column := rfl

end Field

namespace FlatSchema

theorem bare_name (m : FlatSchema) : m.bare.name = m.name := rfl

theorem bare_fields (m : FlatSchema) : m.bare.fields = m.fields.map Field.bare := rfl

theorem bare_table (m : FlatSchema) : m.bare.table = m.table := rfl

theorem fieldsNamed_bare (m : FlatSchema) (names : List String) :
    m.bare.fieldsNamed names = (m.fieldsNamed names).map Field.bare := by
  have hfield : ∀ name, m.bare.field? name = (m.field? name).map Field.bare := by
    intro name
    exact List.find?_map
  rw [fieldsNamed, fieldsNamed, List.map_filterMap]
  exact congrArg (names.filterMap ·) (funext hfield)

theorem keyFields_bare (m : FlatSchema) : m.bare.keyFields = m.keyFields.map Field.bare :=
  m.fieldsNamed_bare m.keys

end FlatSchema

namespace Artifact

open Item

theorem indexFields_bare (m : FlatSchema) :
    indexFields m.bare = (indexFields m).map (List.map Field.bare) := by
  have hnamed : m.bare.fieldsNamed = List.map Field.bare ∘ m.fieldsNamed :=
    funext m.fieldsNamed_bare
  rw [indexFields, indexFields, hnamed, ← List.map_map, List.filter_map]
  congr 2
  funext fields
  simp

/-! ### Artifacts that show comments -/

/-- **A record type is that of the bare schema** with comments put in. -/
theorem commented_recordItems (m : FlatSchema) (profile : Profile) :
    Commented (recordItems m profile) (recordItems m.bare profile) := by
  have hmembers : m.bare.fields.map fieldMember = m.fields.map fieldMember :=
    List.map_map
  have hfixed : m.bare.fields.any (fun f => f.type.isFixedText) =
      m.fields.any (fun f => f.type.isFixedText) := List.any_map
  have hfields : Commented (m.fields.flatMap fieldItems) (m.bare.fields.flatMap fieldItems) := by
    rw [FlatSchema.bare, List.flatMap_map]
    refine Commented.flatMap (fun f => ?_) m.fields
    exact .before (fun i hi => isComment_of_mem_doc hi) (by simp [HasText, Item.text, memberLine])
  have hdoc : ∀ i ∈ doc m.comment, i.IsComment := fun i hi => isComment_of_mem_doc hi
  -- The comment on the record stands before the line that derives traits, or before the type.
  have hstruct : ∀ rest, Commented
      (doc m.comment ++ (deriveItems profile ++
        (block ("pub struct " ++ m.name ++ " \x7b") (m.fields.flatMap fieldItems) "\x7d" ++ rest)))
      (deriveItems profile ++
        (block ("pub struct " ++ m.name ++ " \x7b") (m.bare.fields.flatMap fieldItems) "\x7d" ++
          rest)) := by
    intro rest
    rw [deriveItems, Profile.deriveAttribute?]
    split
    · exact .before_cons hdoc (by simp [HasText, Item.text])
        ((hfields.append (.same _)).append (.same rest))
    · exact .before_cons hdoc (by simp [HasText, Item.text])
        ((hfields.block _ _).append (.same rest))
  rw [recordItems, recordItems, hmembers, hfixed]
  simp only [List.append_assoc]
  exact (Commented.same _).append (hstruct _)

/-- **A message is that of the bare schema** with comments put in. -/
theorem commented_messageItems (m : FlatSchema) (profile : Profile) :
    Commented (messageItems m profile) (messageItems m.bare profile) := by
  have hfields : Commented
      (m.fields.zipIdx.flatMap (fun p => commentItems p.1.comment ++ [messageField p.1 p.2]))
      (m.bare.fields.zipIdx.flatMap
        (fun p => commentItems p.1.comment ++ [messageField p.1 p.2])) := by
    rw [FlatSchema.bare, List.zipIdx_map, List.flatMap_map]
    refine Commented.flatMap (fun p => ?_) m.fields.zipIdx
    exact .before (fun i hi => isComment_of_mem_commentItems hi)
      (by simp [HasText, Item.text, messageField])
  rw [messageItems, messageItems, List.append_assoc, List.append_assoc]
  exact (Commented.same _).append (.before_cons (fun i hi => isComment_of_mem_commentItems hi)
    (by simp [HasText, Item.text]) (hfields.append (.same _)))

/-! ### Artifacts that show no comments -/

section

variable (fields : List Field)

theorem quotedColumns_bare : quotedColumns (fields.map Field.bare) = quotedColumns fields := by
  rw [quotedColumns, List.map_map, quotedColumns]
  rfl

theorem keyParts_bare : keyParts (fields.map Field.bare) = keyParts fields := by
  rw [keyParts, List.map_map, keyParts]
  rfl

theorem parameter_bare (name : String) :
    parameter name (fields.map Field.bare) = parameter name fields := by
  rw [parameter, List.isEmpty_map, parameter]

theorem pushItems_bare (function record separator : String) {push : Field → String}
    (hpush : ∀ f, push f.bare = push f) :
    pushItems function record separator (fields.map Field.bare) push =
      pushItems function record separator fields push := by
  simp only [pushItems, parameter_bare, List.map_map, Function.comp_def, hpush]

theorem rowItems_bare (record : String) :
    rowItems record (fields.map Field.bare) = rowItems record fields := by
  simp only [rowItems, parameter_bare, List.zipIdx_map, List.map_map]
  rfl

end

/-- **The descriptor is that of the bare schema.** -/
theorem descriptorItems_bare (m : FlatSchema) (profile : Profile) :
    descriptorItems m.bare profile = descriptorItems m profile := by
  have hassign : ∀ f : Field, pushAssign f.bare = pushAssign f := fun _ => rfl
  have hvalue : ∀ f : Field, pushValue f.bare = pushValue f := fun _ => rfl
  have hcolumn : ∀ f : Field, columnLine f.bare = columnLine f := fun _ => rfl
  simp only [descriptorItems, descriptorName, FlatSchema.bare_name, FlatSchema.bare_fields,
    FlatSchema.bare_table, FlatSchema.keyFields_bare, indexFields_bare, List.map_map,
    Function.comp_def, hcolumn, quotedColumns_bare, pushItems_bare _ _ _ _ hassign,
    pushItems_bare _ _ _ _ hvalue, rowItems_bare]

theorem tableDefinitions_bare (m : FlatSchema) : tableDefinitions m.bare = tableDefinitions m := by
  have hcolumn : ∀ f : Field, columnDefinition f.bare = columnDefinition f := by
    intro f
    rw [columnDefinition, Field.bare_column, Field.bare_type, columnDefinition]
  have hindex : ∀ fields, indexDefinition m.bare (fields.map Field.bare) =
      indexDefinition m fields := by
    intro fields
    rw [indexDefinition, indexName, List.map_map, keyParts_bare, indexDefinition, indexName]
    rfl
  simp only [tableDefinitions, primaryKeyDefinition, FlatSchema.bare_fields,
    FlatSchema.keyFields_bare, indexFields_bare, List.map_map, Function.comp_def, List.isEmpty_map,
    hcolumn, hindex, keyParts_bare]

/-- **The table is that of the bare schema.** -/
theorem tableStatement_bare (m : FlatSchema) (profile : Profile) :
    tableStatement m.bare profile = tableStatement m profile := by
  unfold tableStatement
  rw [tableDefinitions_bare, FlatSchema.bare_table]

/-- **The conversions to and from messages are those of the bare schema.** -/
theorem messageGlueItems_bare (m : FlatSchema) (profile : Profile) :
    messageGlueItems m.bare profile = messageGlueItems m profile := by
  have hto : ∀ f : Field, toMessage f.bare = toMessage f := fun _ => rfl
  have hfrom : ∀ f : Field, fromMessage f.bare = fromMessage f := fun _ => rfl
  simp only [messageGlueItems, toMessageItems, fromMessageItems, FlatSchema.bare_name,
    FlatSchema.bare_fields, List.map_map, Function.comp_def, List.isEmpty_map, Field.bare_name, hto,
    hfrom]

/-! ### Two schemas -/

/-- **Comments do not get into code.** Two record schemas that differ in nothing but comments have
the same code in each of their artifacts: record types and messages agree in all lines that are not
comments, whatever characters count as blank at the start of a line besides the space, and the other
artifacts are the same. -/
theorem code_eq_of_bare_eq {m m' : FlatSchema} (h : m.bare = m'.bare) (profile : Profile)
    {blank : Char → Bool} (hspace : blank ' ' = true) (hstroke : blank '/' = false) :
    (∀ kind ∈ [ArtifactKind.record, .message], ∃ text text',
      body? (.flat m) profile kind = some text ∧ body? (.flat m') profile kind = some text' ∧
        Text.codeLines blank text.toList = Text.codeLines blank text'.toList) ∧
    ∀ kind ∈ [ArtifactKind.storage, .table, .messageGlue], ∃ text,
      body? (.flat m) profile kind = some text ∧ body? (.flat m') profile kind = some text := by
  have hrecord := fun m => (commented_recordItems m profile).codeLines_render hspace hstroke
  have hmessage := fun m => (commented_messageItems m profile).codeLines_render hspace hstroke
  constructor
  · intro kind hkind
    simp only [List.mem_cons, List.not_mem_nil, or_false] at hkind
    rcases hkind with rfl | rfl
    · exact ⟨_, _, rfl, rfl, by rw [hrecord m, h, ← hrecord m']⟩
    · exact ⟨_, _, rfl, rfl, by rw [hmessage m, h, ← hmessage m']⟩
  · intro kind hkind
    simp only [List.mem_cons, List.not_mem_nil, or_false] at hkind
    rcases hkind with rfl | rfl | rfl
    · refine ⟨_, rfl, ?_⟩
      rw [← descriptorItems_bare m, h, descriptorItems_bare m']
      rfl
    · refine ⟨_, rfl, ?_⟩
      rw [← tableStatement_bare m, h, tableStatement_bare m']
      rfl
    · refine ⟨_, rfl, ?_⟩
      rw [← messageGlueItems_bare m, h, messageGlueItems_bare m']
      rfl

/-- A record without comments. -/
def plainUser : FlatSchema :=
  { name := "User", fields := [⟨"id", .bounded 8, some 8, none⟩], keys := ["id"] }

/-- The same record with comments that hold quotes, line breaks of both sorts and code. -/
def commentedUser : FlatSchema :=
  { name := "User", fields := [⟨"id", .bounded 8, some 8, some "*/\n  pub three: u8,\n"⟩]
    keys := ["id"], comment := some "one\r\n\x7d\n\npub struct \"Two\";" }

/-- The comments show in the message, and none of them as code. -/
theorem code_eq_of_bare_eq_user :
    commentedUser.bare = plainUser.bare ∧
      body? (.flat commentedUser) {} .message ≠ body? (.flat plainUser) {} .message ∧
      (∀ kind ∈ [ArtifactKind.record, .message], ∃ text text',
        body? (.flat commentedUser) {} kind = some text ∧
          body? (.flat plainUser) {} kind = some text' ∧
          Text.codeLines Text.isBlank text.toList = Text.codeLines Text.isBlank text'.toList) ∧
      ∀ kind ∈ [ArtifactKind.storage, .table, .messageGlue], ∃ text,
        body? (.flat commentedUser) {} kind = some text ∧
          body? (.flat plainUser) {} kind = some text := by
  have hbare : commentedUser.bare = plainUser.bare := by decide
  exact ⟨hbare, by decide +kernel, code_eq_of_bare_eq hbare {} (by decide) (by decide)⟩

end Artifact

end SchemaCompiler
