import SchemaCompiler.Proofs.Value.WellTyped
import SchemaCompiler.Proofs.Value.Writing

/-!
# Tree values read back

Writing a tree value as a document and reading that document into a fresh value gives the value back
(`SchemaCompiler.TreeValue.read_toDocument_run`), whatever was done to the value before.

The argument has two halves. A written element is known completely (`write_eq`): it has one
attribute for each attribute of the type, and for each child of the type the elements of what is
held, in order. Since no two attributes of a type share a name and no two children a tag, looking up
a name or a tag in it finds exactly what was written for it (`attribute?_write`,
`filter_flatMap_toDocument`). The other half reads the parts back: exact values by
`FieldValue.read?_display`, containers by `Held.foldl_keep_elements`, and children by induction over
the schema (`read_toDocument`).
-/

namespace SchemaCompiler

namespace TreeValue

/-! ### What is found again -/

/-- Picking the elements with the tag of a child finds what was written for it. -/
theorem filter_flatMap_toDocument {types : List ElementType} {helds : List (Held TreeValue)}
    (hnodup : (types.map ElementType.tag).Nodup) {t : ElementType} {held : Held TreeValue}
    (hmem : (t, held) ∈ types.zip helds) :
    ((types.zip helds).flatMap (fun p => p.2.elements.map (toDocument p.1))).filter
        (fun c => c.tag == t.tag) = held.elements.map (toDocument t) := by
  induction types generalizing helds with
  | nil => simp at hmem
  | cons s types ih =>
    cases helds with
    | nil => simp at hmem
    | cons kept rest =>
      obtain ⟨hout, hrest⟩ := List.nodup_cons.mp hnodup
      rw [List.zip_cons_cons, List.flatMap_cons, List.filter_append]
      rcases List.mem_cons.mp hmem with heq | hlater
      · obtain ⟨rfl, rfl⟩ := Prod.mk.inj heq
        have hown : (held.elements.map (toDocument t)).filter (fun c => c.tag == t.tag) =
            held.elements.map (toDocument t) := by
          refine List.filter_eq_self.mpr fun c hc => ?_
          obtain ⟨v, -, rfl⟩ := List.mem_map.mp hc
          rw [tag_toDocument, beq_self_eq_true]
        have hothers :
            ((types.zip rest).flatMap (fun p => p.2.elements.map (toDocument p.1))).filter
              (fun c => c.tag == t.tag) = [] := by
          refine List.filter_eq_nil_iff.mpr fun c hc htag => ?_
          obtain ⟨⟨t', kept⟩, hp, hc'⟩ := List.mem_flatMap.mp hc
          obtain ⟨v, -, rfl⟩ := List.mem_map.mp hc'
          rw [tag_toDocument, beq_iff_eq] at htag
          exact hout (htag ▸ List.mem_map_of_mem (List.of_mem_zip hp).1)
        rw [hown, hothers, List.append_nil]
      · have hfirst : (kept.elements.map (toDocument s)).filter (fun c => c.tag == t.tag) = [] := by
          refine List.filter_eq_nil_iff.mpr fun c hc htag => ?_
          obtain ⟨v, -, rfl⟩ := List.mem_map.mp hc
          rw [tag_toDocument, beq_iff_eq] at htag
          exact hout (htag ▸ List.mem_map_of_mem (List.of_mem_zip hlater).1)
        rw [hfirst, List.nil_append, ih hrest hlater]

/-! ### Reading the parts back -/

theorem readContent_display {type : Option Primitive} {content : Option FieldValue}
    (h : ContentExact type content) {e : Element} (he : e.text = content.map FieldValue.display) :
    readContent type (type.map (fun type => .initial type.kind)) e = content := by
  cases h with
  | none => rfl
  | some hexact htrim =>
    rw [Option.map_some] at he
    rw [Option.map_some, readContent, he, Option.bind_some, htrim, FieldValue.read?_display hexact,
      Option.getD_some]

theorem readAttribute_display {a : Attribute} {v : FieldValue} (h : AttributeExact a v)
    {e : Element} (he : e.attribute? a.name = some v.display) (old : FieldValue) :
    readAttribute e a old = v := by
  rw [readAttribute, he, Option.bind_some, FieldValue.read?_display h, Option.getD_some]

theorem readHeld_of_container {t : ElementType} (hc : t.container ≠ .single) (e : Element) :
    readHeld e t (Held.empty (initial t) t.container) =
      ((e.childrenNamed t.tag).map (fun child => read t (initial t) child)).foldl
        (Held.keep (key t)) (Held.empty (initial t) t.container) := by
  cases hcont : t.container with
  | single => exact absurd hcont hc
  | sequence => rfl
  | map name multi => cases multi <;> rfl

/-- **A child is read back** from an element that has exactly what was written for it. -/
theorem readHeld_empty {t : ElementType} {held : Held TreeValue} (h : ChildWellTyped t held)
    (hback : ∀ v, WellTyped t v → read t (initial t) (toDocument t v) = v) {e : Element}
    (he : e.childrenNamed t.tag = held.elements.map (toDocument t)) :
    readHeld e t (Held.empty (initial t) t.container) = held := by
  by_cases hc : t.container = .single
  · rw [ChildWellTyped, hc] at h
    cases h with
    | @single v hv =>
      have hfound : e.child? t.tag = some (toDocument t v) := by
        rw [Element.child?, ← List.head?_filter]
        exact congrArg List.head? he
      rw [hc, Held.empty, readHeld, hfound]
      exact congrArg Held.single (hback v hv)
  · -- each element that was written gives its value back, and keeping them again in order gives
    -- back what was held
    have hagain : (e.childrenNamed t.tag).map (fun child => read t (initial t) child) =
        held.elements := by
      rw [he, List.map_map]
      refine (List.map_congr_left fun v hv => ?_).trans (List.map_id _)
      exact hback v (h.good_of_mem_elements hv)
    rw [readHeld_of_container hc, hagain, Held.foldl_keep_elements h hc]

/-! ### Reading a value back -/

/-- Two lists that go together by a function are its image. -/
theorem map_eq_of_zip {α β : Type} {f : α → β} {as : List α} {bs : List β}
    (hlen : as.length = bs.length) (h : ∀ a b, (a, b) ∈ as.zip bs → f a = b) : as.map f = bs := by
  have hall : List.Forall₂ (fun a b => f a = b) as bs :=
    List.forall₂_iff_zip.mpr ⟨hlen, fun {a b} hab => h a b hab⟩
  rwa [← List.forall₂_map_left_iff, List.forall₂_eq_eq_eq] at hall

/-- **A well-typed value is read back from its document.** -/
theorem read_toDocument {t : ElementType}
    (hnames : ∀ n ∈ t.nodes, (n.attributes.map Attribute.name).Nodup)
    (htags : ∀ n ∈ t.nodes, (n.children.map ElementType.tag).Nodup) {v : TreeValue}
    (h : WellTyped t v) : read t (initial t) (toDocument t v) = v := by
  induction t using ElementType.induction generalizing v with
  | step t ih =>
    obtain ⟨hcontent, hattributes, hchildren⟩ := (wellTyped_iff t v).mp h
    have hname := hnames t t.mem_nodes_self
    have hattribute : ∀ a x, (a, x) ∈ t.attributes.zip v.attributes →
        readAttribute (toDocument t v) a (.initial a.type.kind) = x := by
      intro a x hax
      exact readAttribute_display (List.forall₂_zip hattributes hax)
        (attribute?_write hname hax _) _
    have hchild : ∀ c held, (c, held) ∈ t.children.zip v.children →
        readHeld (toDocument t v) c (Held.empty (initial c) c.container) = held := by
      intro c held hch
      have hc := (List.of_mem_zip hch).1
      refine readHeld_empty (List.forall₂_zip hchildren hch) (fun w hw => ih c hc ?_ ?_ hw) ?_
      · exact fun n hn => hnames n (ElementType.mem_nodes_of_mem_children hc hn)
      · exact fun n hn => htags n (ElementType.mem_nodes_of_mem_children hc hn)
      · rw [Element.childrenNamed, children_toDocument]
        exact filter_flatMap_toDocument (htags t t.mem_nodes_self) hch
    rw [read_eq (by rw [initial_eq, List.length_map]), initial_eq]
    -- all three parts of a fresh value are determined by the type alone
    rw [List.zipWith_map_right, List.zipWith_map_right, List.zipWith_self, List.zipWith_self,
      map_eq_of_zip hattributes.length_eq hattribute, map_eq_of_zip hchildren.length_eq hchild,
      readContent_display hcontent (text_toDocument t v)]
    cases v
    rfl

/-! ### Equality of values -/

theorem sameList_self {α : Type} {same : α → α → Bool} {xs : List α}
    (h : ∀ x ∈ xs, same x x = true) : sameList same xs xs = true := by
  rw [sameList, beq_self_eq_true, Bool.true_and, List.all_eq_true]
  intro p hp
  obtain ⟨i, hi, rfl⟩ := List.mem_iff_getElem.mp hp
  rw [List.getElem_zip]
  exact h _ (List.getElem_mem _)

theorem sameContent_self {type : Option Primitive} {content : Option FieldValue}
    (h : ContentExact type content) : sameContent content content = true := by
  cases h with
  | none => rfl
  | some hexact _ => exact FieldValue.same_of_exact hexact

theorem sameHeld_self {α : Type} {same : α → α → Bool} {key : α → FieldValue} {good : α → Prop}
    {c : Container} {held : Held α} (h : Held.Kept key good c held)
    (hsame : ∀ v, good v → same v v = true) : sameHeld same held held = true := by
  have hkey : ∀ k : FieldValue, (k.compareKeys k == .eq) = true := fun k =>
    beq_iff_eq.mpr Std.ReflCmp.compare_self
  cases h with
  | single hv => exact hsame _ hv
  | sequence hvs => exact sameList_self fun v hv => hsame v (hvs v hv)
  | map ho hvs =>
    rw [sameHeld]
    refine sameList_self fun p hp => ?_
    rw [hkey, Bool.true_and]
    exact hsame _ (hvs p hp).1
  | multimap ho hvs =>
    rw [sameHeld]
    refine sameList_self fun p hp => ?_
    rw [hkey, Bool.true_and]
    exact sameList_self fun v hv => hsame v ((hvs p hp).2 v hv).1

theorem sameChildren_self {types : List ElementType} {helds : List (Held TreeValue)}
    (h : List.Forall₂ ChildWellTyped types helds)
    (hsame : ∀ t ∈ types, ∀ v, WellTyped t v → same t v v = true) :
    sameChildren types helds helds = true := by
  induction h with
  | nil => rw [sameChildren]
  | cons hheld _ ih =>
    rw [sameChildren, Bool.and_eq_true]
    exact ⟨sameHeld_self hheld (hsame _ List.mem_cons_self),
      ih fun t ht => hsame t (List.mem_cons_of_mem _ ht)⟩

/-- **A well-typed value is equal to itself as a value.** -/
theorem same_self {t : ElementType} {v : TreeValue} (h : WellTyped t v) : same t v v = true := by
  induction t using ElementType.induction generalizing v with
  | step t ih =>
    obtain ⟨hcontent, hattributes, hchildren⟩ := (wellTyped_iff t v).mp h
    have hvalues : sameList FieldValue.same v.attributes v.attributes = true := by
      refine sameList_self fun x hx => ?_
      obtain ⟨i, hi, rfl⟩ := List.mem_iff_getElem.mp hx
      have hi' : i < t.attributes.length := hattributes.length_eq ▸ hi
      exact FieldValue.same_of_exact (hattributes.get hi' hi)
    have hhelds := sameChildren_self hchildren fun c hc w hw => ih c hc hw
    cases t
    rw [same, sameContent_self hcontent, hvalues, hhelds]
    rfl

/-! ### The round trip -/

/-- **The round trip of tree values.** Whatever is done to a value of the schema of a document by
reading elements, setting attributes and resetting, the document that is written for it reads back
as the same value. -/
theorem read_toDocument_run (document : Element)
    (hexact : ∀ n ∈ (ElementType.ofElement document).1.nodes, n.IsExact)
    (operations : List Operation) :
    let t := (ElementType.ofElement document).1
    let v := run t operations
    read t (initial t) (toDocument t v) = v ∧
      same t (read t (initial t) (toDocument t v)) v = true := by
  intro t v
  have htyped : WellTyped t v := wellTyped_run hexact operations
  have hback : read t (initial t) (toDocument t v) = v :=
    read_toDocument (fun n hn => ElementType.nodup_names_of_mem_nodes hn)
      (fun n hn => ElementType.nodup_tags_of_mem_nodes hn) htyped
  refine ⟨hback, ?_⟩
  rw [hback]
  exact same_self htyped

/-- A guild with a motto, members by name, trophies in order and quests by their level. -/
def guild : Element where
  tag := "Guild"
  attributes := [("name", "string"), ("founded", "uint16")]
  children :=
    [{ tag := "Motto", text := some "string" },
     { tag := "Member"
       attributes := [("cont_", "map"), ("key_", "name"), ("name", "char8"), ("rank", "uint8")] },
     { tag := "Trophy", attributes := [("cont_", "list")], text := some "int32" },
     { tag := "Quest"
       attributes := [("cont_", "multimap"), ("key_", "level"), ("level", "int8")] }]

/-- Two readings of a guild, with members out of order and one of them twice, a number that is out
of range and blanks around the motto, and between them an absent element and two changes of an
attribute. -/
def guildHistory : List Operation :=
  [.read (some
    { tag := "Guild"
      attributes := [("name", "Round Table"), ("founded", "70000")]
      children :=
        [{ tag := "Member", attributes := [("name", "b"), ("rank", "2")] },
         { tag := "Member", attributes := [("name", "a"), ("rank", "1")] },
         { tag := "Motto", text := some " Loyalty " },
         { tag := "Quest", attributes := [("level", "-3")] }] }),
   .setAttribute "founded" "512", .setAttribute "founded" "soon", .read none,
   .read (some
    { tag := "Guild"
      children :=
        [{ tag := "Trophy", text := some "7" },
         { tag := "Quest", attributes := [("level", "-3")] },
         { tag := "Member", attributes := [("name", "a"), ("rank", "7")] }] })]

/-- The guild after its history holds two members, and reads back from its document. -/
theorem read_toDocument_guild :
    let t := (ElementType.ofElement guild).1
    let v := run t guildHistory
    (∀ n ∈ t.nodes, n.IsExact) ∧
      v.children.map Held.count = [1, 2, 1, 2] ∧
      read t (initial t) (toDocument t v) = v ∧
      same t (read t (initial t) (toDocument t v)) v = true := by
  have hexact : ∀ n ∈ (ElementType.ofElement guild).1.nodes, n.IsExact := by decide
  exact ⟨hexact, by decide, read_toDocument_run guild hexact guildHistory⟩

end TreeValue

end SchemaCompiler
