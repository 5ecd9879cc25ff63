import SchemaCompiler.Text.Blank

/-!
# Documents

A document is a tree of elements. An element has a tag, attributes and children in document order,
and possibly text. The same elements serve twice: as the source of a tree schema, where attribute
values and text name types, and as the data that a tree schema describes.
-/

namespace SchemaCompiler

/-- An element of a document. -/
structure Element where
  /-- The name of the element. -/
  tag : String
  /-- Names and values of the attributes, in document order. -/
  attributes : List (String × String) := []
  /-- The elements inside, in document order. -/
  children : List Element := []
  /-- The text inside, if there is any. -/
  text : Option String := none
deriving Inhabited, Repr

namespace Element

/-- The value of the first attribute of a name. -/
def attribute? (e : Element) (name : String) : Option String :=
  e.attributes.lookup name

/-- Puts a value in the place of the first pair of a name, or at the end. -/
def putPair (name value : String) : List (String × String) → List (String × String)
  | [] => [(name, value)]
  | p :: rest => if p.1 == name then (name, value) :: rest else p :: putPair name value rest

/-- Sets an attribute: its first occurrence is replaced in place, a new one comes last. -/
def setAttribute (e : Element) (name value : String) : Element :=
  { e with attributes := putPair name value e.attributes }

/-- Adds an attribute at the end, whether or not its name occurs already. -/
def addAttribute (e : Element) (name value : String) : Element :=
  { e with attributes := e.attributes ++ [(name, value)] }

/-- Adds a child at the end. -/
def addChild (e child : Element) : Element :=
  { e with children := e.children ++ [child] }

/-- Replaces the text. -/
def setText (e : Element) (text : String) : Element :=
  { e with text := some text }

/-- Adds a piece of text after the text that is there. -/
def appendText (e : Element) (piece : String) : Element :=
  { e with text := some (e.text.getD "" ++ piece) }

/-- The text without blanks around it, if anything is left. -/
def trimmedText? (e : Element) : Option String :=
  match e.text with
  | none => none
  | some text => if (Text.trim text).isEmpty then none else some (Text.trim text)

/-- The first child with a tag. -/
def child? (e : Element) (tag : String) : Option Element :=
  e.children.find? (fun c => c.tag == tag)

/-- All children with a tag, in document order. -/
def childrenNamed (e : Element) (tag : String) : List Element :=
  e.children.filter (fun c => c.tag == tag)

end Element

end SchemaCompiler
