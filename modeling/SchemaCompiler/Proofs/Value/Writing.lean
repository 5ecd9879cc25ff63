import SchemaCompiler.Proofs.Schema.Members
import SchemaCompiler.Proofs.Value.WellFormed

/-!
# Writing into an element

A value need not be written into a fresh element. The element may have attributes of its own, some
of them twice, children with the same tags, and text. This file says what becomes of all this
(`SchemaCompiler.TreeValue.WrittenOver`): of what was there, writing changes the text, if the type
has content, and for each attribute of the type the first occurrence of its name. All else it adds,
behind what was there.

Attributes are put one after the other (`SchemaCompiler.Element.putPairs`). What putting one pair
does is told in three ways, by the names, by looking up a name and by places, and each of them goes
through a run of pairs: the names in order (`map_fst_putPairs`), what is looked up afterwards
(`lookup_putPairs_of_mem`) and the places that are left alone (`getElem?_putPairs`). Everything else
is in `SchemaCompiler.TreeValue.write_eq`.
-/

namespace SchemaCompiler

namespace Element

/-! ### Putting one pair -/

/-- The names stay in their order, and a new one comes last. -/
theorem map_fst_putPair (name value : String) (pairs : List (String × String)) :
    (putPair name value pairs).map Prod.fst =
      pairs.map Prod.fst ++ if name ∈ pairs.map Prod.fst then [] else [name] := by
  induction pairs with
  | nil => rfl
  | cons p pairs ih =>
    rw [putPair]
    by_cases hp : p.1 = name
    · subst hp
      simp
    · have hmem : name ∈ (p :: pairs).map Prod.fst ↔ name ∈ pairs.map Prod.fst := by
        rw [List.map_cons, List.mem_cons, or_iff_right (Ne.symm hp)]
      rw [if_neg (by simpa using hp), if_congr hmem rfl rfl, List.map_cons, ih, List.map_cons,
        List.cons_append]

theorem lookup_putPair_self (name value : String) (pairs : List (String × String)) :
    (putPair name value pairs).lookup name = some value := by
  induction pairs with
  | nil => exact List.lookup_cons_self
  | cons p pairs ih =>
    rw [putPair]
    split
    · exact List.lookup_cons_self
    · next hp =>
      have hne : (name == p.1) = false := by simpa using fun h => hp (by simpa using h.symm)
      rw [List.lookup_cons, hne, ih]

theorem lookup_putPair_of_ne {name other : String} (h : other ≠ name) (value : String)
    (pairs : List (String × String)) :
    (putPair name value pairs).lookup other = pairs.lookup other := by
  induction pairs with
  | nil =>
    rw [putPair, List.lookup_cons, beq_eq_false_iff_ne.mpr h]
  | cons p pairs ih =>
    rw [putPair]
    split
    · next hp =>
      have hother : (other == p.1) = false := by
        rw [beq_iff_eq.mp hp]
        exact beq_eq_false_iff_ne.mpr h
      rw [List.lookup_cons, List.lookup_cons, hother, beq_eq_false_iff_ne.mpr h]
    · rw [List.lookup_cons, List.lookup_cons, ih]

/-- **The places that are left alone**: those of other names, and those behind the first of the
name. -/
theorem getElem?_putPair {name : String} {pairs : List (String × String)} {i : Nat}
    {p : String × String} (hp : pairs[i]? = some p)
    (h : p.1 ≠ name ∨ p.1 ∈ (pairs.take i).map Prod.fst) (value : String) :
    (putPair name value pairs)[i]? = some p := by
  induction pairs generalizing i with
  | nil => cases hp
  | cons q pairs ih =>
    rw [putPair]
    cases i with
    | zero =>
      obtain rfl : q = p := Option.some.inj hp
      have hne : q.1 ≠ name := h.resolve_right List.not_mem_nil
      rw [if_neg (by simpa using hne)]
      rfl
    | succ i =>
      split
      · exact hp
      · next hq =>
        refine ih hp ?_
        -- an earlier place of the same name is the first one, or behind it
        rcases h with hne | hmem
        · exact Or.inl hne
        · rcases List.mem_cons.mp hmem with hfirst | hlater
          · exact Or.inl (hfirst ▸ by simpa using hq)
          · exact Or.inr hlater

/-! ### Putting many pairs -/

/-- The pairs after others are put among them, one after the other. -/
def putPairs (news pairs : List (String × String)) : List (String × String) :=
  news.foldl (fun pairs new => putPair new.1 new.2 pairs) pairs

theorem putPairs_cons (new : String × String) (news pairs : List (String × String)) :
    putPairs (new :: news) pairs = putPairs news (putPair new.1 new.2 pairs) := rfl

/-- **New names come last, in order**, and the names that were there stay where they were. -/
theorem map_fst_putPairs {news : List (String × String)} (hnodup : (news.map Prod.fst).Nodup)
    (pairs : List (String × String)) :
    (putPairs news pairs).map Prod.fst =
      pairs.map Prod.fst ++ (news.map Prod.fst).filter (fun name => name ∉ pairs.map Prod.fst) := by
  induction news generalizing pairs with
  | nil => exact (List.append_nil _).symm
  | cons new news ih =>
    obtain ⟨hout, hrest⟩ := List.nodup_cons.mp hnodup
    rw [putPairs_cons, ih hrest, map_fst_putPair]
    -- the name that was just put is none of those behind it
    have hsame : (news.map Prod.fst).filter (fun name => name ∉ pairs.map Prod.fst ++
          if new.1 ∈ pairs.map Prod.fst then [] else [new.1]) =
        (news.map Prod.fst).filter (fun name => name ∉ pairs.map Prod.fst) := by
      refine List.filter_congr fun name hname => ?_
      have hne : name ≠ new.1 := fun heq => hout (heq ▸ hname)
      split <;> simp [hne]
    rw [hsame, List.map_cons, List.append_assoc]
    by_cases hnew : new.1 ∈ pairs.map Prod.fst
    · rw [if_pos hnew, List.filter_cons_of_neg (by simpa using hnew), List.nil_append]
    · rw [if_neg hnew, List.filter_cons_of_pos (by simpa using hnew), List.singleton_append]

theorem lookup_putPairs_of_notMem {news : List (String × String)} {name : String}
    (h : name ∉ news.map Prod.fst) (pairs : List (String × String)) :
    (putPairs news pairs).lookup name = pairs.lookup name := by
  induction news generalizing pairs with
  | nil => rfl
  | cons new news ih =>
    obtain ⟨hne, hrest⟩ := not_or.mp (fun hor => h (List.mem_cons.mpr hor))
    rw [putPairs_cons, ih hrest, lookup_putPair_of_ne hne]

/-- **What was put under a name is found under it.** -/
theorem lookup_putPairs_of_mem {news : List (String × String)} (hnodup : (news.map Prod.fst).Nodup)
    {new : String × String} (h : new ∈ news) (pairs : List (String × String)) :
    (putPairs news pairs).lookup new.1 = some new.2 := by
  induction news generalizing pairs with
  | nil => exact absurd h List.not_mem_nil
  | cons first news ih =>
    obtain ⟨hout, hrest⟩ := List.nodup_cons.mp hnodup
    rw [putPairs_cons]
    rcases List.mem_cons.mp h with rfl | hlater
    · rw [lookup_putPairs_of_notMem hout, lookup_putPair_self]
    · exact ih hrest hlater _

/-- **The places that a run leaves alone**: those whose names are not put, and those behind the
first of a name. -/
theorem getElem?_putPairs {news pairs : List (String × String)} {i : Nat} {p : String × String}
    (hp : pairs[i]? = some p)
    (h : p.1 ∉ news.map Prod.fst ∨ p.1 ∈ (pairs.take i).map Prod.fst) :
    (putPairs news pairs)[i]? = some p := by
  induction news generalizing pairs with
  | nil => exact hp
  | cons new news ih =>
    have hfirst : p.1 ≠ new.1 ∨ p.1 ∈ (pairs.take i).map Prod.fst :=
      h.imp_left fun hout heq => hout (heq ▸ List.mem_cons_self)
    refine ih (getElem?_putPair hp hfirst new.2) ?_
    -- the names before the place are still the same
    have hbefore : ((putPair new.1 new.2 pairs).take i).map Prod.fst =
        (pairs.take i).map Prod.fst := by
      have hi : i ≤ (pairs.map Prod.fst).length := by
        rw [List.length_map]
        exact (List.getElem?_eq_some_iff.mp hp).1.le
      rw [List.map_take, List.map_take, map_fst_putPair, List.take_append_of_le_length hi]
    rw [hbefore]
    exact h.imp_left fun hout hmem => hout (List.mem_cons_of_mem _ hmem)

end Element

namespace TreeValue

open Element

/-! ### Writing a value -/

/-- The name and the written form of an attribute. -/
def attributePair (a : Attribute) (v : FieldValue) : String × String :=
  (a.name, v.display)

/-- Writing attributes changes the attributes only. -/
theorem writeAttributes_eq (attributes : List Attribute) (values : List FieldValue) (e : Element) :
    writeAttributes attributes values e =
      { e with
        attributes := putPairs (List.zipWith attributePair attributes values) e.attributes } := by
  induction attributes generalizing values e with
  | nil =>
    cases e
    rfl
  | cons a attributes ih =>
    cases values with
    | nil =>
      cases e
      rfl
    | cons v values =>
      rw [writeAttributes, ih, List.zipWith_cons_cons, putPairs_cons]
      rfl

theorem writeContent_eq (content : Option FieldValue) (e : Element) :
    writeContent content e = { e with text := (content.map FieldValue.display).or e.text } := by
  cases content with
  | none =>
    cases e
    rfl
  | some value => rfl

theorem writtenChildren_eq (types : List ElementType) (helds : List (Held TreeValue)) :
    writtenChildren types helds =
      (types.zip helds).flatMap (fun p => p.2.elements.map (toDocument p.1)) := by
  induction types generalizing helds with
  | nil => simp [writtenChildren]
  | cons t types ih =>
    cases helds with
    | nil => simp [writtenChildren]
    | cons held rest =>
      rw [writtenChildren, List.zip_cons_cons, List.flatMap_cons, ih]
      rfl

/-- **An element after a value is written into it**, part by part. -/
theorem write_eq (t : ElementType) (v : TreeValue) (e : Element) :
    write t v e =
      { tag := e.tag
        attributes := putPairs (List.zipWith attributePair t.attributes v.attributes) e.attributes
        children := e.children ++
          (t.children.zip v.children).flatMap (fun p => p.2.elements.map (toDocument p.1))
        text := (v.content.map FieldValue.display).or e.text } := by
  cases t
  rw [write, writeAttributes_eq, writeContent_eq, writtenChildren_eq]

@[simp] theorem tag_toDocument (t : ElementType) (v : TreeValue) :
    (toDocument t v).tag = t.tag := by
  rw [toDocument, write_eq]

@[simp] theorem text_toDocument (t : ElementType) (v : TreeValue) :
    (toDocument t v).text = v.content.map FieldValue.display := by
  rw [toDocument, write_eq, Option.or_none]

theorem children_toDocument (t : ElementType) (v : TreeValue) :
    (toDocument t v).children =
      (t.children.zip v.children).flatMap (fun p => p.2.elements.map (toDocument p.1)) := by
  rw [toDocument, write_eq, List.nil_append]

/-- The names that are written are those of the attributes, as far as there are values. -/
theorem map_fst_zipWith_attributePair (attributes : List Attribute) (values : List FieldValue) :
    (List.zipWith attributePair attributes values).map Prod.fst =
      (attributes.map Attribute.name).take values.length := by
  induction attributes generalizing values with
  | nil => simp
  | cons a attributes ih =>
    cases values with
    | nil => rfl
    | cons v values =>
      rw [List.zipWith_cons_cons, List.map_cons, ih]
      rfl

/-- **An attribute that was written is found under its name**, whatever the element had before. -/
theorem attribute?_write {t : ElementType} (hnodup : (t.attributes.map Attribute.name).Nodup)
    {v : TreeValue} {a : Attribute} {x : FieldValue} (h : (a, x) ∈ t.attributes.zip v.attributes)
    (e : Element) : (write t v e).attribute? a.name = some x.display := by
  have hput : attributePair a x ∈ List.zipWith attributePair t.attributes v.attributes := by
    rw [← List.map_uncurry_zip_eq_zipWith]
    exact List.mem_map_of_mem (f := Function.uncurry attributePair) h
  have hnames : ((List.zipWith attributePair t.attributes v.attributes).map Prod.fst).Nodup := by
    rw [map_fst_zipWith_attributePair]
    exact hnodup.sublist (List.take_sublist _ _)
  rw [write_eq]
  exact lookup_putPairs_of_mem hnames hput e.attributes

/-! ### What is left of the element -/

/-- **An element before and after a value is written into it.** -/
structure WrittenOver (t : ElementType) (v : TreeValue) (before after : Element) : Prop where
  /-- The tag stays. -/
  tag : after.tag = before.tag
  /-- The children stay, and those of the value's own document come behind them. -/
  children : after.children = before.children ++ (toDocument t v).children
  /-- These are, for each child of the type, the documents of the values that are held for it. -/
  written : (toDocument t v).children =
    (t.children.zip v.children).flatMap (fun p => p.2.elements.map (toDocument p.1))
  /-- The names of the attributes stay in their order, and new ones come behind them in the order of
  the type. -/
  names : after.attributes.map Prod.fst = before.attributes.map Prod.fst ++
    (t.attributes.map Attribute.name).filter (fun name => name ∉ before.attributes.map Prod.fst)
  /-- Every attribute of the type reads as its value is displayed. -/
  declared : List.Forall₂ (fun a x => after.attribute? a.name = some x.display)
    t.attributes v.attributes
  /-- An attribute that the type does not have stays at its place, and so does one whose name stands
  at an earlier place too. -/
  others : ∀ (i : Nat) (p : String × String), before.attributes[i]? = some p →
    (p.1 ∉ t.attributes.map Attribute.name ∨ p.1 ∈ (before.attributes.take i).map Prod.fst) →
    after.attributes[i]? = some p
  /-- The text of a type with content is the content as it is displayed. -/
  content : ∀ type, t.content = some type → ∃ x, v.content = some x ∧ after.text = some x.display
  /-- The text of a type without content stays. -/
  noContent : t.content = none → after.text = before.text

/-- What is written over an element, if no two attributes of the type have the same name. -/
theorem writtenOver_write {s : Standard} {t : ElementType} {v : TreeValue} (h : Conforms s t v)
    (hnodup : (t.attributes.map Attribute.name).Nodup) (e : Element) :
    WrittenOver t v e (write t v e) := by
  obtain ⟨-, hattributes, -⟩ := (conforms_iff t v).mp h
  have hnames : (List.zipWith attributePair t.attributes v.attributes).map Prod.fst =
      t.attributes.map Attribute.name := by
    rw [map_fst_zipWith_attributePair, ← hattributes.length_eq]
    exact List.take_of_length_le (List.length_map _).le
  have hafter := write_eq t v e
  exact
    { tag := by rw [hafter]
      children := by rw [hafter, children_toDocument]
      written := children_toDocument t v
      names := by rw [hafter, map_fst_putPairs (hnames ▸ hnodup), hnames]
      declared := List.forall₂_iff_zip.mpr
        ⟨hattributes.length_eq, fun hax => attribute?_write hnodup hax e⟩
      others := by
        intro i p hp hother
        rw [hafter]
        exact getElem?_putPairs hp (hnames ▸ hother)
      content := by
        intro type htype
        have hsome : v.content.isSome := by rw [h.isSome_content, htype, Option.isSome_some]
        obtain ⟨x, hx⟩ := Option.isSome_iff_exists.mp hsome
        exact ⟨x, hx, by rw [hafter, hx]; rfl⟩
      noContent := by
        intro htype
        have hnone : v.content = none := by
          rw [← Option.not_isSome_iff_eq_none, h.isSome_content, htype]
          exact Bool.false_ne_true
        rw [hafter, hnone]
        rfl }

/-- **Writing only adds, and updates what the type declares.** Whatever was done to a value of a
node of a schema, and whatever an element has, writing the one into the other leaves the tag, the
children and all that the type does not declare as they were. -/
theorem write_over_of_reachable {document : Element} {t : ElementType}
    (ht : t ∈ (ElementType.ofElement document).1.nodes) {v : TreeValue} (h : Reachable t v)
    (e : Element) : WrittenOver t v e (write t v e) :=
  writtenOver_write (h.conforms metAt_typedStandard) (ElementType.nodup_names_of_mem_nodes ht) e

/-- A shelf with a label, a width, a remark and books in order. -/
def shelf : Element where
  tag := "Shelf"
  attributes := [("label", "string"), ("width", "uint8")]
  children := [{ tag := "Book", attributes := [("cont_", "list"), ("title", "string")] }]
  text := some "string"

/-- The element type of shelves. -/
def shelfType : ElementType :=
  (ElementType.ofElement shelf).1

/-- A shelf with one book. -/
def shelfValue : TreeValue :=
  perform shelfType (initial shelfType)
    (.read (some
      { tag := "Shelf"
        attributes := [("width", "12"), ("label", "A")]
        children := [{ tag := "Book", attributes := [("title", "Logic")] }]
        text := some " oak " }))

/-- A rack that has a width twice, no label, a colour, a book and a lamp. -/
def rack : Element where
  tag := "Rack"
  attributes := [("width", "wide"), ("colour", "red"), ("width", "9")]
  children := [{ tag := "Book", attributes := [("title", "Sets")] }, { tag := "Lamp" }]
  text := some "old"

/-- The shelf is written into the rack: its first width is replaced, the label comes last, the book
comes behind the lamp, and colour, second width and the book that was there stay. -/
theorem write_over_rack :
    shelfType ∈ (ElementType.ofElement shelf).1.nodes ∧ Reachable shelfType shelfValue ∧
      (write shelfType shelfValue rack).attributes =
        [("width", "12"), ("colour", "red"), ("width", "9"), ("label", "A")] ∧
      (write shelfType shelfValue rack).children.map (Element.attribute? · "title") =
        [some "Sets", none, some "Logic"] ∧
      (write shelfType shelfValue rack).text = some "oak" ∧
      WrittenOver shelfType shelfValue rack (write shelfType shelfValue rack) := by
  have hroot : shelfType ∈ (ElementType.ofElement shelf).1.nodes := shelfType.mem_nodes_self
  have hvalue : Reachable shelfType shelfValue := .perform (.initial shelfType) _
  exact ⟨hroot, hvalue, by decide, by decide, by decide,
    write_over_of_reachable hroot hvalue rack⟩

end TreeValue

end SchemaCompiler
