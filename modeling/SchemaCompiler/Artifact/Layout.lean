import SchemaCompiler.Text.Blank
import SchemaCompiler.Text.Lines

/-!
# Layout of generated code

An artifact is first a list of items: lines, gaps, and lines that open or close a block. The text
comes last, when the items are laid out on a page. What stands inside a block is indented, and a gap
is one empty line, dropped where it would start the page, follow another gap or stand right inside
an opening brace.
-/

namespace SchemaCompiler

/-- An item of generated code. -/
inductive Item where
  /-- A line. -/
  | line (text : String)
  /-- An empty line where one is due. -/
  | gap
  /-- A line that opens a block. -/
  | opening (text : String)
  /-- A line that closes a block. -/
  | closing (text : String)
deriving DecidableEq, Repr

/-- What has been laid out so far. -/
structure Page where
  /-- The characters, the last one first. -/
  reversed : List Char := []
  /-- The number of open blocks. -/
  level : Nat := 0

namespace Page

/-- Writes a line at the current indentation; an empty one has none. -/
def line (p : Page) (text : String) : Page :=
  let indent := if text.isEmpty then [] else List.replicate (4 * p.level) ' '
  { p with reversed := '\n' :: (text.toList.reverse ++ (indent ++ p.reversed)) }

/-- Leaves an empty line where one is due. -/
def gap (p : Page) : Page :=
  match p.reversed with
  | [] => p
  | '\n' :: '\n' :: _ => p
  | '\n' :: '\x7b' :: _ => p
  | cs => { p with reversed := '\n' :: cs }

/-- Lays out one item. -/
def put (p : Page) : Item → Page
  | .line text => p.line text
  | .gap => p.gap
  | .opening text => { p.line text with level := p.level + 1 }
  | .closing text => { p with level := p.level - 1 }.line text

end Page

namespace Item

/-- The text of a list of items. -/
def render (items : List Item) : String :=
  String.ofList (items.foldl Page.put {}).reversed.reverse

/-- A block: an opening line, what stands inside, a closing line. -/
def block (first : String) (body : List Item) (last : String) : List Item :=
  .opening first :: (body ++ [.closing last])

/-- One line of a documentation comment. -/
def docLine (line : String) : Item :=
  let text := Text.trimEnd line
  if text.isEmpty then .line "///" else .line ("/// " ++ Text.trimStart text)

/-- The documentation comment of something that may have one. -/
def doc : Option String → List Item
  | none => []
  | some comment => (Text.lines comment).map docLine

end Item

end SchemaCompiler
