import Mathlib.Data.List.Forall2
import SchemaCompiler.Proofs.Schema.Nodes
import SchemaCompiler.Proofs.Value.Held
import SchemaCompiler.Value.Tree

/-!
# Tree values that conform to a standard

A tree value follows its element type: it has content exactly when the type has, one value for each
attribute, and for each child what the container of the child keeps, with the entries of maps in
order and each under its key. What the values themselves look like depends on what one wants to
know about them, so it is left to a *standard* (`SchemaCompiler.TreeValue.Standard`), which says
what is asked of the content and of an attribute of a type. A value conforms to a standard
(`SchemaCompiler.TreeValue.Conforms`) if it follows its type and meets the standard at every depth.

All that an operation can put into a value is an initial value or one that was read from text. So
if these meet the standard (`SchemaCompiler.TreeValue.Standard.MetAt`), then every operation keeps
a value conforming: reading an element of any shape (`conforms_read`), setting an attribute
(`conforms_setAttribute?`) and resetting, which gives the fresh value back (`reset_eq_initial`).
`conforms_run` is the statement for a whole history of operations.
-/

namespace SchemaCompiler.TreeValue

/-! ### Standards -/

/-- What is asked of the values in a tree value, by their types. -/
structure Standard where
  /-- What is asked of the content. -/
  ofContent : Primitive → FieldValue → Prop
  /-- What is asked of an attribute. -/
  ofAttribute : Primitive → FieldValue → Prop

/-- **A standard that is met at an element type** by the values that its elements start from and by
those that are read from text. -/
structure Standard.MetAt (s : Standard) (t : ElementType) : Prop where
  /-- Fresh content meets it. -/
  initialContent : ∀ type ∈ t.content, s.ofContent type (.initial type.kind)
  /-- Fresh attributes meet it. -/
  initialAttribute : ∀ a ∈ t.attributes, s.ofAttribute a.type (.initial a.type.kind)
  /-- Content that was read meets it. -/
  readContent : ∀ type ∈ t.content, ∀ text v,
    FieldValue.read? type.kind (Text.trim text) = some v → s.ofContent type v
  /-- Attributes that were read meet it. -/
  readAttribute : ∀ a ∈ t.attributes, ∀ raw v,
    FieldValue.read? a.type.kind raw = some v → s.ofAttribute a.type v

variable {s : Standard}

mutual

/-- **A value that follows its element type and meets a standard**, at every depth. -/
def Conforms (s : Standard) : ElementType → TreeValue → Prop
  | ⟨_, _, attributes, content, children⟩, v =>
    Option.Rel s.ofContent content v.content ∧
      List.Forall₂ (fun a x => s.ofAttribute a.type x) attributes v.attributes ∧
      ConformingChildren s children v.children

/-- Held values that follow the types of the children. -/
def ConformingChildren (s : Standard) : List ElementType → List (Held TreeValue) → Prop
  | [], [] => True
  | t :: types, held :: rest =>
    Held.Kept (key t) (fun v => Conforms s t v) t.container held ∧ ConformingChildren s types rest
  | _, _ => False

end

/-- What a conforming value holds for a child. -/
def ChildConforms (s : Standard) (t : ElementType) (held : Held TreeValue) : Prop :=
  Held.Kept (key t) (Conforms s t) t.container held

theorem conformingChildren_iff (types : List ElementType) (helds : List (Held TreeValue)) :
    ConformingChildren s types helds ↔ List.Forall₂ (ChildConforms s) types helds := by
  induction types generalizing helds with
  | nil => cases helds <;> simp [ConformingChildren]
  | cons t types ih =>
    cases helds with
    | nil => simp [ConformingChildren]
    | cons held rest => rw [ConformingChildren, List.forall₂_cons, ih]; rfl

/-- **A conforming value**, part by part. -/
theorem conforms_iff (t : ElementType) (v : TreeValue) :
    Conforms s t v ↔ Option.Rel s.ofContent t.content v.content ∧
      List.Forall₂ (fun a x => s.ofAttribute a.type x) t.attributes v.attributes ∧
      List.Forall₂ (ChildConforms s) t.children v.children := by
  cases t
  rw [Conforms, conformingChildren_iff]

/-- A conforming value has content exactly if its type has. -/
theorem Conforms.isSome_content {t : ElementType} {v : TreeValue} (h : Conforms s t v) :
    v.content.isSome = t.content.isSome := by
  obtain ⟨hcontent, -, -⟩ := (conforms_iff t v).mp h
  generalize t.content = type at hcontent
  generalize v.content = content at hcontent
  cases hcontent with
  | some _ => rfl
  | none => rfl

/-! ### Fresh values -/

theorem initialChildren_eq (types : List ElementType) :
    initialChildren types = types.map (fun t => Held.empty (initial t) t.container) := by
  induction types with
  | nil => rw [initialChildren, List.map_nil]
  | cons t types ih => rw [initialChildren, ih, List.map_cons]

theorem initial_eq (t : ElementType) :
    initial t =
      ⟨t.content.map (fun type => .initial type.kind),
       t.attributes.map (fun a => .initial a.type.kind),
       t.children.map (fun c => Held.empty (initial c) c.container)⟩ := by
  cases t
  rw [initial, initialChildren_eq]

theorem rel_initialContent {t : ElementType} (ht : s.MetAt t) :
    Option.Rel s.ofContent t.content (t.content.map (fun type => .initial type.kind)) := by
  have hinitial := ht.initialContent
  cases hc : t.content with
  | none => exact .none
  | some type => exact .some (hinitial type hc)

/-- **A fresh value conforms.** -/
theorem conforms_initial {t : ElementType} (ht : ∀ n ∈ t.nodes, s.MetAt n) :
    Conforms s t (initial t) := by
  induction t using ElementType.induction with
  | step t ih =>
    rw [conforms_iff, initial_eq]
    have hroot := ht t t.mem_nodes_self
    refine ⟨rel_initialContent hroot, ?_, ?_⟩
    · rw [List.forall₂_map_right_iff, List.forall₂_same]
      exact hroot.initialAttribute
    · rw [List.forall₂_map_right_iff, List.forall₂_same]
      intro c hc
      exact Held.kept_empty
        (ih c hc fun n hn => ht n (ElementType.mem_nodes_of_mem_children hc hn)) _

/-! ### Reading -/

/-- What is held for one child after the element around it is read. -/
def readHeld (e : Element) (t : ElementType) (held : Held TreeValue) : Held TreeValue :=
  match held with
  | .single v =>
    match e.child? t.tag with
    | some child => .single (read t v child)
    | none => .single v
  | _ =>
    ((e.childrenNamed t.tag).map (fun child => read t (initial t) child)).foldl
      (Held.keep (key t)) held

/-- The children are read side by side. -/
theorem readChildren_eq {types : List ElementType} {helds : List (Held TreeValue)}
    (hlen : types.length = helds.length) (e : Element) :
    readChildren types helds e = List.zipWith (readHeld e) types helds := by
  induction types generalizing helds with
  | nil =>
    obtain rfl : helds = [] := List.eq_nil_of_length_eq_zero hlen.symm
    rw [readChildren, List.zipWith_nil_left]
    exact fun t types held rest hcons => nomatch hcons
  | cons t types ih =>
    cases helds with
    | nil => exact absurd hlen (by simp)
    | cons held rest =>
      rw [List.zipWith_cons_cons, ← ih (Nat.succ.inj hlen)]
      cases held with
      | single v => cases hchild : e.child? t.tag <;> simp only [readChildren, readHeld, hchild]
      | sequence vs => simp only [readChildren, readHeld]
      | map entries => simp only [readChildren, readHeld]
      | multimap entries => simp only [readChildren, readHeld]

theorem read_eq {t : ElementType} {v : TreeValue} (hlen : t.children.length = v.children.length)
    (e : Element) :
    read t v e =
      ⟨readContent t.content v.content e, List.zipWith (readAttribute e) t.attributes v.attributes,
        List.zipWith (readHeld e) t.children v.children⟩ := by
  cases t
  rw [read, readChildren_eq hlen]

theorem rel_readContent {t : ElementType} (ht : s.MetAt t) {content : Option FieldValue}
    (h : Option.Rel s.ofContent t.content content) (e : Element) :
    Option.Rel s.ofContent t.content (readContent t.content content e) := by
  have hmet := ht.readContent
  cases hc : t.content with
  | none =>
    rw [hc] at h
    cases h
    exact .none
  | some type =>
    rw [hc] at h
    cases h with
    | @some _ old hold =>
      rw [readContent]
      -- a text that cannot be read leaves the old content
      cases hread : e.text.bind (fun text => FieldValue.read? type.kind (Text.trim text)) with
      | none => exact .some hold
      | some v =>
        obtain ⟨text, -, hv⟩ := Option.bind_eq_some_iff.mp hread
        exact .some (hmet type hc text v hv)

theorem ofAttribute_readAttribute {t : ElementType} (ht : s.MetAt t) {a : Attribute}
    (ha : a ∈ t.attributes) {old : FieldValue} (h : s.ofAttribute a.type old) (e : Element) :
    s.ofAttribute a.type (readAttribute e a old) := by
  rw [readAttribute]
  cases hread : (e.attribute? a.name).bind (FieldValue.read? a.type.kind) with
  | none => exact h
  | some v =>
    obtain ⟨raw, -, hv⟩ := Option.bind_eq_some_iff.mp hread
    exact ht.readAttribute a ha raw v hv

theorem childConforms_readHeld {t : ElementType} {held : Held TreeValue}
    (h : ChildConforms s t held) (hread : ∀ v e, Conforms s t v → Conforms s t (read t v e))
    (hinitial : Conforms s t (initial t)) (e : Element) :
    ChildConforms s t (readHeld e t held) := by
  have hall : ∀ v ∈ (e.childrenNamed t.tag).map (fun child => read t (initial t) child),
      Conforms s t v := by
    intro v hv
    obtain ⟨child, -, rfl⟩ := List.mem_map.mp hv
    exact hread _ _ hinitial
  cases held with
  | single v =>
    rw [readHeld]
    cases e.child? t.tag with
    | none => exact h
    | some child =>
      obtain ⟨hcont, hv⟩ := Held.kept_single_iff.mp h
      exact Held.kept_single_iff.mpr ⟨hcont, hread v child hv⟩
  | sequence vs => exact Held.kept_foldl_keep h hall
  | map entries => exact Held.kept_foldl_keep h hall
  | multimap entries => exact Held.kept_foldl_keep h hall

/-- Lists that go together still do after one of them is changed place by place. -/
theorem forall₂_zipWith {α β : Type} {R : α → β → Prop} {f : α → β → β} {as : List α} {bs : List β}
    (h : List.Forall₂ R as bs) (hf : ∀ a ∈ as, ∀ b, R a b → R a (f a b)) :
    List.Forall₂ R as (List.zipWith f as bs) := by
  induction h with
  | nil => exact .nil
  | cons hab _ ih =>
    exact .cons (hf _ List.mem_cons_self _ hab) (ih fun a ha => hf a (List.mem_cons_of_mem _ ha))

/-- **Reading an element keeps a value conforming**, whatever the element has. -/
theorem conforms_read {t : ElementType} (ht : ∀ n ∈ t.nodes, s.MetAt n) {v : TreeValue}
    (h : Conforms s t v) (e : Element) : Conforms s t (read t v e) := by
  induction t using ElementType.induction generalizing v e with
  | step t ih =>
    have hroot := ht t t.mem_nodes_self
    obtain ⟨hcontent, hattributes, hchildren⟩ := (conforms_iff t v).mp h
    rw [read_eq hchildren.length_eq, conforms_iff]
    refine ⟨rel_readContent hroot hcontent e, ?_, ?_⟩
    · exact forall₂_zipWith hattributes fun a ha _ hold => ofAttribute_readAttribute hroot ha hold e
    · refine forall₂_zipWith hchildren fun c hc held hheld => ?_
      have hbelow : ∀ n ∈ c.nodes, s.MetAt n := fun n hn =>
        ht n (ElementType.mem_nodes_of_mem_children hc hn)
      exact childConforms_readHeld hheld (fun v e hv => ih c hc hbelow hv e)
        (conforms_initial hbelow) e

/-! ### Setting an attribute -/

theorem forall₂_replace {R : Attribute → FieldValue → Prop} {attributes : List Attribute}
    {values : List FieldValue} (h : List.Forall₂ R attributes values) {name : String}
    {value : FieldValue}
    (hvalue : ∀ a, attributes.find? (fun a => a.name == name) = some a → R a value) :
    List.Forall₂ R attributes (replace name value attributes values) := by
  induction h with
  | nil => exact .nil
  | @cons a v as vs hav hrest ih =>
    rw [replace]
    cases hname : a.name == name with
    | true =>
      rw [if_pos rfl]
      exact .cons (hvalue a (by rw [List.find?_cons, hname])) hrest
    | false =>
      rw [if_neg Bool.false_ne_true]
      refine .cons hav (ih fun b hb => hvalue b ?_)
      rw [List.find?_cons, hname, hb]

/-- **Setting an attribute keeps a value conforming.** -/
theorem conforms_setAttribute? {t : ElementType} (ht : s.MetAt t) {v w : TreeValue}
    (h : Conforms s t v) {name raw : String} (hset : setAttribute? t v name raw = some w) :
    Conforms s t w := by
  obtain ⟨hcontent, hattributes, hchildren⟩ := (conforms_iff t v).mp h
  rw [setAttribute?] at hset
  cases ha : t.attribute? name with
  | none =>
    rw [ha] at hset
    cases hset
  | some a =>
    rw [ha, Option.map_eq_some_iff] at hset
    obtain ⟨value, hread, rfl⟩ := hset
    refine (conforms_iff t _).mpr ⟨hcontent, forall₂_replace hattributes ?_, hchildren⟩
    intro b hb
    obtain rfl : a = b := Option.some.inj (ha.symm.trans hb)
    exact ht.readAttribute a (List.mem_of_find?_eq_some ha) raw value hread

/-! ### Resetting -/

/-- What is held for one child after the value around it is reset. -/
def resetHeld (t : ElementType) (held : Held TreeValue) : Held TreeValue :=
  match held with
  | .single v => .single (reset t v)
  | .sequence _ => .sequence []
  | .map _ => .map []
  | .multimap _ => .multimap []

theorem resetChildren_eq {types : List ElementType} {helds : List (Held TreeValue)}
    (hlen : types.length = helds.length) :
    resetChildren types helds = List.zipWith resetHeld types helds := by
  induction types generalizing helds with
  | nil =>
    obtain rfl : helds = [] := List.eq_nil_of_length_eq_zero hlen.symm
    rw [resetChildren, List.zipWith_nil_left]
    exact fun t types held rest hcons => nomatch hcons
  | cons t types ih =>
    cases helds with
    | nil => exact absurd hlen (by simp)
    | cons held rest =>
      rw [List.zipWith_cons_cons, ← ih (Nat.succ.inj hlen)]
      cases held <;> simp only [resetChildren, resetHeld]

/-- A change place by place that looks at one of two lists only. -/
theorem zipWith_eq_map {α β : Type} {R : α → β → Prop} {f : α → β → β} {g : α → β} {as : List α}
    {bs : List β} (h : List.Forall₂ R as bs) (hf : ∀ a ∈ as, ∀ b, R a b → f a b = g a) :
    List.zipWith f as bs = as.map g := by
  induction h with
  | nil => rfl
  | cons hab _ ih =>
    rw [List.zipWith_cons_cons, List.map_cons, hf _ List.mem_cons_self _ hab,
      ih fun a ha => hf a (List.mem_cons_of_mem _ ha)]

theorem resetHeld_eq_empty {t : ElementType} {held : Held TreeValue} (h : ChildConforms s t held)
    (hreset : ∀ v, Conforms s t v → reset t v = initial t) :
    resetHeld t held = Held.empty (initial t) t.container := by
  rw [ChildConforms] at h
  generalize t.container = c at h
  cases h with
  | single hv => rw [resetHeld, hreset _ hv, Held.empty]
  | sequence => rfl
  | map => rfl
  | multimap => rfl

/-- **Resetting a conforming value gives the fresh value**, so nothing of its history is left. -/
theorem reset_eq_initial {t : ElementType} {v : TreeValue} (h : Conforms s t v) :
    reset t v = initial t := by
  induction t using ElementType.induction generalizing v with
  | step t ih =>
    obtain ⟨hcontent, hattributes, hchildren⟩ := (conforms_iff t v).mp h
    have hheld : resetChildren t.children v.children =
        t.children.map (fun c => Held.empty (initial c) c.container) := by
      rw [resetChildren_eq hchildren.length_eq]
      exact zipWith_eq_map hchildren fun c hc _ hkept =>
        resetHeld_eq_empty hkept fun w hw => ih c hc hw
    have hvalues : List.zipWith (fun a _ => .initial a.type.kind) t.attributes v.attributes =
        t.attributes.map (fun a => FieldValue.initial a.type.kind) :=
      zipWith_eq_map hattributes fun _ _ _ _ => rfl
    rw [initial_eq, ← hheld, ← hvalues]
    -- content is reset only where there is some, which the type and the value agree on
    cases t
    cases v
    cases hcontent <;> simp only [reset, Option.map_none, Option.map_some]

/-! ### Whole histories -/

/-- What can be done to a value. -/
inductive Operation where
  /-- An element is read, or there is none. -/
  | read (e : Option Element)
  /-- An attribute is set from text. -/
  | setAttribute (name raw : String)
  /-- The value is reset. -/
  | reset

/-- The value after an operation. Where an operation is refused, the value stays as it is. -/
def perform (t : ElementType) (v : TreeValue) : Operation → TreeValue
  | .read e => (e.map (TreeValue.read t v)).getD v
  | .setAttribute name raw => (setAttribute? t v name raw).getD v
  | .reset => TreeValue.reset t v

/-- The value after a history of operations on a fresh value. -/
def run (t : ElementType) (operations : List Operation) : TreeValue :=
  operations.foldl (perform t) (initial t)

/-- **Every operation keeps a value conforming.** -/
theorem conforms_perform {t : ElementType} (ht : ∀ n ∈ t.nodes, s.MetAt n) {v : TreeValue}
    (h : Conforms s t v) (operation : Operation) : Conforms s t (perform t v operation) := by
  cases operation with
  | read e =>
    cases e with
    | none => exact h
    | some e => exact conforms_read ht h e
  | setAttribute name raw =>
    rw [perform]
    cases hset : setAttribute? t v name raw with
    | none => exact h
    | some w => exact conforms_setAttribute? (ht t t.mem_nodes_self) h hset
  | reset =>
    rw [perform, reset_eq_initial h]
    exact conforms_initial ht

/-- **Every value that any history leads to conforms.** -/
theorem conforms_run {t : ElementType} (ht : ∀ n ∈ t.nodes, s.MetAt n)
    (operations : List Operation) : Conforms s t (run t operations) := by
  -- the induction is on the history, for an arbitrary value that it starts from
  have hall : ∀ v, Conforms s t v → Conforms s t (operations.foldl (perform t) v) := by
    induction operations with
    | nil => exact fun v hv => hv
    | cons operation operations ih =>
      exact fun v hv => ih _ (conforms_perform ht hv operation)
  exact hall _ (conforms_initial ht)

end SchemaCompiler.TreeValue
