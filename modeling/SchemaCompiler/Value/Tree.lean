import SchemaCompiler.Value.Held

/-!
# Tree values

The value of an element type: its content, one value for each attribute, and the held values of each
child. It carries out what the artifacts of a tree schema generate. Reading takes what a document
has and leaves the rest as it is; writing fills in what the schema declares and appends the
children; resetting goes back to the initial value at every depth.

Every operation follows the element type. A value lists its attributes and children in the order of
the type, so the two are gone through side by side.
-/

namespace SchemaCompiler

/-- A value of an element type. -/
structure TreeValue where
  /-- The content, if the type has one. -/
  content : Option FieldValue
  /-- One value for each attribute, in order. -/
  attributes : List FieldValue
  /-- What is held for each child, in order. -/
  children : List (Held TreeValue)
deriving Repr

namespace TreeValue

/-! ### Initial values -/

mutual

/-- The value in which every member has its initial value. -/
def initial : ElementType → TreeValue
  | ⟨_, _, attributes, content, children⟩ =>
    ⟨content.map (fun type => .initial type.kind),
     attributes.map (fun a => .initial a.type.kind),
     initialChildren children⟩

/-- What a fresh value holds for each child. -/
def initialChildren : List ElementType → List (Held TreeValue)
  | [] => []
  | t :: rest => Held.empty (initial t) t.container :: initialChildren rest

end

/-! ### Access -/

/-- The value of an attribute. -/
def attribute? (t : ElementType) (v : TreeValue) (name : String) : Option FieldValue :=
  ((t.attributes.zip v.attributes).find? (fun p => p.1.name == name)).map Prod.snd

/-- What is held for the child with a tag. -/
def child? (t : ElementType) (v : TreeValue) (tag : String) : Option (Held TreeValue) :=
  ((t.children.zip v.children).find? (fun p => p.1.tag == tag)).map Prod.snd

/-- The values with the one of the first attribute of a name replaced. -/
def replace (name : String) (value : FieldValue) :
    List Attribute → List FieldValue → List FieldValue
  | a :: as, v :: vs => if a.name == name then value :: vs else v :: replace name value as vs
  | _, vs => vs

/-- Sets an attribute from text, if there is one of the name and the text reads as its type. -/
def setAttribute? (t : ElementType) (v : TreeValue) (name raw : String) : Option TreeValue :=
  match t.attribute? name with
  | none => none
  | some a =>
    (FieldValue.read? a.type.kind raw).map
      (fun value => { v with attributes := replace name value t.attributes v.attributes })

/-- The key of a value in a map of its type: the value of the key attribute. -/
def key (t : ElementType) (v : TreeValue) : FieldValue :=
  match t.container with
  | .map name _ => (attribute? t v name).getD (.text "")
  | _ => .text ""

/-! ### Reading -/

/-- The content after reading an element: its text without blanks around it, if that reads as the
type, and otherwise as before. -/
def readContent (type : Option Primitive) (content : Option FieldValue) (e : Element) :
    Option FieldValue :=
  match type, content with
  | some type, some old =>
    some ((e.text.bind (fun text => FieldValue.read? type.kind (Text.trim text))).getD old)
  | _, old => old

/-- An attribute after reading an element: the value in the document, if it has one that reads as
the type, and otherwise as before. -/
def readAttribute (e : Element) (a : Attribute) (old : FieldValue) : FieldValue :=
  ((e.attribute? a.name).bind (FieldValue.read? a.type.kind)).getD old

mutual

/-- Reads an element into a value. -/
def read : ElementType → TreeValue → Element → TreeValue
  | ⟨_, _, attributes, content, children⟩, v, e =>
    ⟨readContent content v.content e,
     List.zipWith (readAttribute e) attributes v.attributes,
     readChildren children v.children e⟩

/-- Reads the children of an element into what is held for them. A single child is read from the
first element with its tag; a container keeps a fresh value for each. -/
def readChildren : List ElementType → List (Held TreeValue) → Element → List (Held TreeValue)
  | t :: types, held :: rest, e =>
    (match held with
     | .single v =>
       match e.child? t.tag with
       | some child => .single (read t v child)
       | none => .single v
     | _ =>
       ((e.childrenNamed t.tag).map (fun child => read t (initial t) child)).foldl
         (Held.keep (key t)) held) ::
      readChildren types rest e
  | _, held, _ => held

end

/-! ### Writing -/

/-- Sets the attributes of an element from the values of attributes. -/
def writeAttributes : List Attribute → List FieldValue → Element → Element
  | a :: as, v :: vs, e => writeAttributes as vs (e.setAttribute a.name v.display)
  | _, _, e => e

/-- Sets the text of an element from the content, if there is one. -/
def writeContent (content : Option FieldValue) (e : Element) : Element :=
  match content with
  | some value => e.setText value.display
  | none => e

mutual

/-- Writes a value into an element. -/
def write : ElementType → TreeValue → Element → Element
  | ⟨_, _, attributes, _, children⟩, v, e =>
    let written := writeAttributes attributes v.attributes (writeContent v.content e)
    { written with children := written.children ++ writtenChildren children v.children }

/-- The elements that are written for the held values of the children. -/
def writtenChildren : List ElementType → List (Held TreeValue) → List Element
  | t :: types, held :: rest =>
    held.elements.map (fun v => write t v { tag := t.tag }) ++ writtenChildren types rest
  | _, _ => []

end

/-- The value as a document of its own. -/
def toDocument (t : ElementType) (v : TreeValue) : Element :=
  write t v { tag := t.tag }

/-! ### Resetting -/

mutual

/-- Brings a value back to its initial value. -/
def reset : ElementType → TreeValue → TreeValue
  | ⟨_, _, attributes, content, children⟩, v =>
    ⟨(match content, v.content with
      | some type, some _ => some (.initial type.kind)
      | _, old => old),
     List.zipWith (fun a _ => .initial a.type.kind) attributes v.attributes,
     resetChildren children v.children⟩

/-- Resets single children and empties containers. -/
def resetChildren : List ElementType → List (Held TreeValue) → List (Held TreeValue)
  | t :: types, held :: rest =>
    (match held with
     | .single v => .single (reset t v)
     | .sequence _ => .sequence []
     | .map _ => .map []
     | .multimap _ => .multimap []) :: resetChildren types rest
  | _, held => held

end

/-! ### Equality -/

/-- Whether two lists agree place by place. -/
def sameList {α : Type} (same : α → α → Bool) (xs ys : List α) : Bool :=
  xs.length == ys.length && (xs.zip ys).all (fun p => same p.1 p.2)

/-- Whether two held values agree, given when two values do. -/
def sameHeld {α : Type} (same : α → α → Bool) : Held α → Held α → Bool
  | .single v, .single w => same v w
  | .sequence vs, .sequence ws => sameList same vs ws
  | .map vs, .map ws =>
    sameList (fun p q => p.1.compareKeys q.1 == .eq && same p.2 q.2) vs ws
  | .multimap vs, .multimap ws =>
    sameList (fun p q => p.1.compareKeys q.1 == .eq && sameList same p.2 q.2) vs ws
  | _, _ => false

/-- Whether two contents agree. -/
def sameContent : Option FieldValue → Option FieldValue → Bool
  | some v, some w => v.same w
  | none, none => true
  | _, _ => false

mutual

/-- Whether two values of an element type are equal as values. -/
def same : ElementType → TreeValue → TreeValue → Bool
  | ⟨_, _, _, _, children⟩, v, w =>
    sameContent v.content w.content && sameList FieldValue.same v.attributes w.attributes &&
      sameChildren children v.children w.children

/-- Whether what two values hold for their children is equal. -/
def sameChildren : List ElementType → List (Held TreeValue) → List (Held TreeValue) → Bool
  | t :: types, v :: vs, w :: ws =>
    sameHeld (same t) v w && sameChildren types vs ws
  | [], [], [] => true
  | _, _, _ => false

end

end TreeValue

end SchemaCompiler
