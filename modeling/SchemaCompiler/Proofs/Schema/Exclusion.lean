import SchemaCompiler.Proofs.Schema.Arena
import SchemaCompiler.Proofs.Schema.Members

/-!
# Children that are left out

A child of an element is left out of the schema when its annotation is refused or when its member
is taken. Then it is left out whole: the schema and the other diagnostics are what they would be if
the child did not stand in the document at all (`SchemaCompiler.ElementType.ofElement_without`).
Nothing of it is read, no number is used up for it, and its name stays free for a child behind it.

A child is found by a *route*, the places of the children to enter one after the other, and its
own place at the end. `Element.without` takes the child at that place out of a document, and
`Element.upTo` cuts the document off right before it, so that the diagnostics of what is left are
those that were reported before the child was met. That the reading of the document comes to the
child and leaves it out is `SchemaCompiler.ElementType.Excluded`, which follows the route: every
child that it enters is kept, and the last one is not.

The children of one element are cut at the place in question (`readChildren_append`). What comes
behind it is read with the members that are taken so far, and these are the same whether the child
stands there or not (`readChildren_of_leavesOut`), or whether something was taken out inside of it
(`readChildren_of_kept`).
-/

namespace SchemaCompiler

/-! ### Documents without a child -/

namespace Element

/-- The document without the child at place `i` of the element at the end of the route. -/
def without (i : Nat) : List Nat → Element → Element
  | [], e => { e with children := e.children.eraseIdx i }
  | j :: route, e => { e with children := e.children.modify j (without i route) }

/-- The document up to the child at place `i` of the element at the end of the route, that child
not included. -/
def upTo (i : Nat) : List Nat → Element → Element
  | [], e => { e with children := e.children.take i }
  | j :: route, e => { e with children := (e.children.take (j + 1)).modify j (upTo i route) }

@[simp] theorem tag_without (i : Nat) (route : List Nat) (e : Element) :
    (e.without i route).tag = e.tag := by
  cases route <;> rfl

@[simp] theorem attributes_without (i : Nat) (route : List Nat) (e : Element) :
    (e.without i route).attributes = e.attributes := by
  cases route <;> rfl

@[simp] theorem tag_upTo (i : Nat) (route : List Nat) (e : Element) :
    (e.upTo i route).tag = e.tag := by
  cases route <;> rfl

@[simp] theorem attributes_upTo (i : Nat) (route : List Nat) (e : Element) :
    (e.upTo i route).attributes = e.attributes := by
  cases route <;> rfl

/-- A child stands between those before it and those behind it. -/
theorem eq_around {e c : Element} {i : Nat} (h : e.children[i]? = some c) :
    e = { e with children := e.children.take i ++ c :: e.children.drop (i + 1) } := by
  obtain ⟨hi, rfl⟩ := List.getElem?_eq_some_iff.mp h
  rw [List.getElem_cons_drop, List.take_append_drop]
  cases e
  rfl

theorem without_nil (i : Nat) (e : Element) :
    e.without i [] = { e with children := e.children.take i ++ e.children.drop (i + 1) } := by
  rw [without, List.eraseIdx_eq_take_drop_succ]

theorem without_cons {e c : Element} {j : Nat} (h : e.children[j]? = some c) (i : Nat)
    (route : List Nat) :
    e.without i (j :: route) =
      { e with
        children := e.children.take j ++ c.without i route :: e.children.drop (j + 1) } := by
  obtain ⟨hj, rfl⟩ := List.getElem?_eq_some_iff.mp h
  rw [without, List.modify_eq_take_cons_drop hj]

theorem upTo_nil (i : Nat) (e : Element) :
    e.upTo i [] = { e with children := e.children.take i ++ [] } := by
  rw [upTo, List.append_nil]

theorem upTo_cons {e c : Element} {j : Nat} (h : e.children[j]? = some c) (i : Nat)
    (route : List Nat) :
    e.upTo i (j :: route) = { e with children := e.children.take j ++ [c.upTo i route] } := by
  obtain ⟨hj, rfl⟩ := List.getElem?_eq_some_iff.mp h
  have hlen : j < (e.children.take (j + 1)).length := by
    rw [List.length_take]
    omega
  rw [upTo, List.modify_eq_take_cons_drop hlen, List.take_take, List.getElem_take,
    List.drop_eq_nil_of_le (by rw [List.length_take]; omega), Nat.min_eq_left (Nat.le_succ j)]

end Element

namespace ElementType

variable {unit : String} {scope : Scope} {taken : List String}

/-! ### Members of an element -/

/-- The members of a type: its content, its attributes and its children. -/
def members (t : ElementType) : List String :=
  contentTaken t.content ++ t.attributes.map Attribute.member ++ t.children.map member

/-- The members that an element takes before its children are read. -/
def ownMembers (unit : String) (scope : Scope) (e : Element) : List String :=
  let content := contentTaken (readContent unit scope e).1
  (readAttributes unit scope content e.attributes).1.map Attribute.member ++ content

/-- What is wrong with an element before its children are read. -/
def ownFaults (unit : String) (scope : Scope) (e : Element) : List Diagnostic :=
  let content := readContent unit scope e
  content.2 ++ (readAttributes unit scope (contentTaken content.1) e.attributes).2

/-- The type of an element that is held in the given way and has children of the given types. -/
def ownType (unit : String) (scope : Scope) (container : Container) (e : Element)
    (types : List ElementType) : ElementType :=
  let content := (readContent unit scope e).1
  ⟨e.tag, container, (readAttributes unit scope (contentTaken content) e.attributes).1, content,
    types⟩

/-- The annotation of an element is made by its tag and its attributes. -/
theorem containerOf_congr {e e' : Element} (htag : e'.tag = e.tag)
    (hattributes : e'.attributes = e.attributes) : containerOf e' = containerOf e := by
  cases e
  cases e'
  subst htag hattributes
  rfl

/-! ### One child -/

/-- **A child is left out**, with the diagnostic for it, where some members are taken: its
annotation is refused, or its own member is among those that are taken. -/
inductive LeavesOut (unit : String) (scope : Scope) (taken : List String) (c : Element) :
    Diagnostic → Prop
  /-- The annotation is refused. -/
  | refused {fault : SchemaFault} (h : containerOf c = .error fault) :
      LeavesOut unit scope taken c
        (.under unit (scope.child (Name.typeIdent c.tag)).display fault)
  /-- The member is taken. -/
  | duplicated {container : Container} (h : containerOf c = .ok container)
      (htaken : Name.memberIdent c.tag ∈ taken) :
      LeavesOut unit scope taken c (duplicate unit scope c.tag)

theorem LeavesOut.congr {taken' : List String} {c : Element} {d : Diagnostic}
    (h : LeavesOut unit scope taken c d) (hsame : ∀ m, m ∈ taken ↔ m ∈ taken') :
    LeavesOut unit scope taken' c d := by
  cases h with
  | refused h => exact .refused h
  | duplicated h htaken => exact .duplicated h ((hsame _).mp htaken)

/-- **A child that is left out adds its diagnostic and nothing else.** -/
theorem readChildren_of_leavesOut {c : Element} {d : Diagnostic}
    (h : LeavesOut unit scope taken c d) (rest : List Element) :
    readChildren unit scope taken (c :: rest) =
      ((readChildren unit scope taken rest).1, d :: (readChildren unit scope taken rest).2) := by
  rw [readChildren]
  cases h with
  | refused h => rw [h]
  | duplicated h htaken =>
    rw [h]
    simp only [List.contains_iff_mem, htaken, if_true]

/-- **A child that is kept is read**, and takes its member. -/
theorem readChildren_of_kept {c : Element} {container : Container}
    (h : containerOf c = .ok container) (hfree : Name.memberIdent c.tag ∉ taken)
    (rest : List Element) :
    readChildren unit scope taken (c :: rest) =
      let child := read unit (scope.child (Name.typeIdent c.tag)) container c
      let others := readChildren unit scope (Name.memberIdent c.tag :: taken) rest
      (child.1 :: others.1, child.2 ++ others.2) := by
  rw [readChildren, h]
  simp only [List.contains_iff_mem, hfree, if_false]

/-! ### All children -/

/-- **Children are read one part after the other**: the second part meets the members that the
first one takes. -/
theorem readChildren_append (unit : String) (scope : Scope) (taken : List String)
    (elements others : List Element) :
    readChildren unit scope taken (elements ++ others) =
      let first := readChildren unit scope taken elements
      let second := readChildren unit scope ((first.1.map member).reverse ++ taken) others
      (first.1 ++ second.1, first.2 ++ second.2) := by
  apply readChildren_induction (P := fun taken elements result =>
    readChildren unit scope taken (elements ++ others) =
      let second := readChildren unit scope ((result.1.map member).reverse ++ taken) others
      (result.1 ++ second.1, result.2 ++ second.2))
  case nil =>
    intro taken
    rfl
  case refused =>
    intro taken e rest fault h ih
    rw [List.cons_append, readChildren_of_leavesOut (.refused h), ih]
    rfl
  case duplicated =>
    intro taken e rest container h htaken ih
    rw [List.cons_append, readChildren_of_leavesOut (.duplicated h htaken), ih]
    rfl
  case kept =>
    intro taken e rest container h hfree ih
    rw [List.cons_append, readChildren_of_kept h hfree, ih]
    simp [member]

/-- The members that are taken behind the first children of an element. -/
def takenBehind (unit : String) (scope : Scope) (e : Element) (first : List Element) :
    List String :=
  ((readChildren unit scope (ownMembers unit scope e) first).1.map member).reverse ++
    ownMembers unit scope e

/-- **What is read from an element with other children**: what the element has of its own stays,
and the children are read in two parts. -/
theorem read_of_children_eq {e e' : Element} {first others : List Element}
    (h : e' = { e with children := first ++ others }) (container : Container) :
    read unit scope container e' =
      (ownType unit scope container e
        ((readChildren unit scope (ownMembers unit scope e) first).1 ++
          (readChildren unit scope (takenBehind unit scope e first) others).1),
        ownFaults unit scope e ++
          ((readChildren unit scope (ownMembers unit scope e) first).2 ++
            (readChildren unit scope (takenBehind unit scope e first) others).2)) := by
  subst h
  rw [read_eq]
  exact congrArg (fun children => (ownType unit scope container e children.1,
    ownFaults unit scope e ++ children.2)) (readChildren_append unit scope _ first others)

/-- The members that are taken when the child at place `i` of an element is met: those of the type
that is read up to there. -/
def takenBefore (unit : String) (scope : Scope) (e : Element) (i : Nat) : List String :=
  (read unit scope .single (e.upTo i [])).1.members

theorem mem_takenBefore {e : Element} {i : Nat} {m : String} :
    m ∈ takenBefore unit scope e i ↔ m ∈ takenBehind unit scope e (e.children.take i) := by
  rw [takenBefore, read_of_children_eq (e.upTo_nil i)]
  simp only [members, ownType, takenBehind, ownMembers, readChildren, List.append_nil,
    List.mem_append, List.mem_reverse]
  tauto

/-! ### Children at any depth -/

/-- **The child at the end of a route is reached and left out**, and `d` is the diagnostic for it.
Every child on the route is kept: its annotation is good and its member is free. -/
inductive Excluded (unit : String) : Scope → Element → List Nat → Nat → Diagnostic → Prop
  /-- A child of the element itself is left out. -/
  | here {scope : Scope} {e c : Element} {i : Nat} {d : Diagnostic} (hc : e.children[i]? = some c)
      (h : LeavesOut unit scope (takenBefore unit scope e i) c d) : Excluded unit scope e [] i d
  /-- A child is left out below a child that is kept. -/
  | inside {scope : Scope} {e c : Element} {j : Nat} {container : Container} {route : List Nat}
      {i : Nat} {d : Diagnostic} (hc : e.children[j]? = some c)
      (hkind : containerOf c = .ok container)
      (hfree : Name.memberIdent c.tag ∉ takenBefore unit scope e j)
      (h : Excluded unit (scope.child (Name.typeIdent c.tag)) c route i d) :
      Excluded unit scope e (j :: route) i d

/-- **A child that is left out leaves nothing behind but its diagnostic**, whatever scope and
container the document is read with. -/
theorem read_without {e : Element} {route : List Nat} {i : Nat} {d : Diagnostic}
    (h : Excluded unit scope e route i d) (container : Container) :
    (read unit scope container (e.without i route)).1 = (read unit scope container e).1 ∧
      ∃ after,
        (read unit scope container e).2 =
          (read unit scope container (e.upTo i route)).2 ++ d :: after ∧
        (read unit scope container (e.without i route)).2 =
          (read unit scope container (e.upTo i route)).2 ++ after := by
  induction h generalizing container with
  | @here scope e c i d hc h =>
    have hleft := h.congr fun m => mem_takenBefore
    rw [read_of_children_eq (e.without_nil i), read_of_children_eq (e.upTo_nil i),
      read_of_children_eq (Element.eq_around hc), readChildren_of_leavesOut hleft]
    refine ⟨rfl, (readChildren unit scope (takenBehind unit scope e (e.children.take i))
      (e.children.drop (i + 1))).2, ?_, ?_⟩ <;> simp [readChildren]
  | @inside scope e c j kind route i d hc hkind hfree h ih =>
    rw [mem_takenBefore] at hfree
    obtain ⟨htype, after, hall, hothers⟩ := ih kind
    -- what is taken out inside of the child changes neither its annotation nor its member
    have hwithout : containerOf (c.without i route) = .ok kind := by
      rw [containerOf_congr (c.tag_without i route) (c.attributes_without i route), hkind]
    have hupTo : containerOf (c.upTo i route) = .ok kind := by
      rw [containerOf_congr (c.tag_upTo i route) (c.attributes_upTo i route), hkind]
    rw [read_of_children_eq (Element.without_cons hc i route),
      read_of_children_eq (Element.upTo_cons hc i route),
      read_of_children_eq (Element.eq_around hc), readChildren_of_kept hkind hfree,
      readChildren_of_kept hwithout (by rwa [c.tag_without i route]),
      readChildren_of_kept hupTo (by rwa [c.tag_upTo i route])]
    simp only [Element.tag_without, Element.tag_upTo, htype, hall, hothers]
    refine ⟨trivial, after ++ (readChildren unit scope (Name.memberIdent c.tag ::
      takenBehind unit scope e (e.children.take j)) (e.children.drop (j + 1))).2, ?_, ?_⟩ <;>
      simp [readChildren]

/-- **Leaving out is exact.** A child at any depth that is reached and left out can be taken out of
the document: the schema stays the same, with the same numbers and the same arena, and of the
diagnostics exactly the one for this child is gone, from behind those that are reported before the
child is met. -/
theorem ofElement_without {document : Element} {route : List Nat} {i : Nat} {d : Diagnostic}
    (h : Excluded document.tag (.root (Name.typeIdent document.tag)) document route i d) :
    (ofElement (document.without i route)).1 = (ofElement document).1 ∧
      (ofElement (document.without i route)).1.numbered = (ofElement document).1.numbered ∧
      (Arena.ofElement (document.without i route)).1.nodes = (Arena.ofElement document).1.nodes ∧
      ∃ after,
        (ofElement document).2 = (ofElement (document.upTo i route)).2 ++ d :: after ∧
        (ofElement (document.without i route)).2 =
          (ofElement (document.upTo i route)).2 ++ after := by
  obtain ⟨htype, hfaults⟩ := read_without h .single
  rw [Arena.nodes_ofElement, Arena.nodes_ofElement]
  simp only [ofElement, Element.tag_without, Element.tag_upTo]
  exact ⟨htype, congrArg numbered htype, congrArg (·.numbered.map Numbered.node) htype, hfaults⟩

/-- A guild in which a member without a good annotation comes before a good one, and in which the
rank of a member, its second note and an attribute of a note are no good. -/
def faultyGuild : Element where
  tag := "Guild"
  children :=
    [{ tag := "Member", attributes := [("cont_", "map"), ("key_", "id")],
       children := [{ tag := "Rank", attributes := [("cont_", "array")] }] },
     { tag := "Member"
       attributes := [("cont_", "map"), ("key_", "name"), ("name", "string")]
       children :=
        [{ tag := "Rank", attributes := [("cont_", "array")] },
         { tag := "Note", attributes := [("size", "integer")], text := some "string" },
         { tag := "note", children := [{ tag := "Line", text := some "words" }] },
         { tag := "rank", attributes := [("level", "uint8")] }] },
     { tag := "Motto", text := some "words" }]

/-- The second note of the second member is left out, and the guild without it has the same schema
and one diagnostic less. -/
theorem ofElement_without_note :
    Excluded "Guild" (.root "Guild") faultyGuild [1] 2
        (duplicate "Guild" ⟨["Guild", "Member"]⟩ "note") ∧
      (ofElement faultyGuild).2.map Diagnostic.code =
        [.missingMapKey, .invalidContainer, .unresolvedType, .duplicateMember, .unresolvedType] ∧
      (ofElement (faultyGuild.upTo 2 [1])).2.length = 3 ∧
      (ofElement (faultyGuild.without 2 [1])).1 = (ofElement faultyGuild).1 ∧
      (ofElement (faultyGuild.without 2 [1])).1.numbered = (ofElement faultyGuild).1.numbered ∧
      (Arena.ofElement (faultyGuild.without 2 [1])).1.nodes =
        (Arena.ofElement faultyGuild).1.nodes ∧
      ∃ after,
        (ofElement faultyGuild).2 = (ofElement (faultyGuild.upTo 2 [1])).2 ++
          duplicate "Guild" ⟨["Guild", "Member"]⟩ "note" :: after ∧
        (ofElement (faultyGuild.without 2 [1])).2 =
          (ofElement (faultyGuild.upTo 2 [1])).2 ++ after := by
  have hmember : containerOf faultyGuild.children[1] = .ok (.map "name" false) := by decide
  have hnote : containerOf faultyGuild.children[1].children[2] = .ok .single := by decide
  have h : Excluded "Guild" (.root "Guild") faultyGuild [1] 2
      (duplicate "Guild" ⟨["Guild", "Member"]⟩ "note") :=
    .inside rfl hmember (by decide) (.here rfl (.duplicated hnote (by decide)))
  exact ⟨h, by decide, by decide, ofElement_without h⟩

end ElementType

end SchemaCompiler
