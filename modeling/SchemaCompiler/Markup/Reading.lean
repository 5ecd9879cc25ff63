import SchemaCompiler.Document
import SchemaCompiler.Markup.Event

/-!
# Documents from markup

The events of a markup text build a document: a tag opens an element, text is added to the innermost
open element, and an element that ends becomes a child of the one around it. What stands outside all
elements must be nothing but text and parts that say nothing; exactly one element stands outermost.
-/

namespace SchemaCompiler

/-- Why a schema source cannot be read. -/
inductive SourceError where
  /-- The markup is no good. -/
  | markup
  /-- The mapping syntax is no good. -/
  | mapping
  /-- The text is good, but it is no schema document. -/
  | document (reason : String)
deriving DecidableEq, Repr

namespace Markup

/-- A document under construction. -/
structure Assembly where
  /-- The open elements, innermost first. -/
  openElements : List Element := []
  /-- The outermost element, once it has ended. -/
  root : Option Element := none

namespace Assembly

/-- Adds a finished element where it belongs. -/
def attach (a : Assembly) (e : Element) : Except SourceError Assembly :=
  match a.openElements with
  | parent :: outer => .ok { a with openElements := parent.addChild e :: outer }
  | [] =>
    match a.root with
    | some _ => .error (.document "document has more than one root element")
    | none => .ok { a with root := some e }

/-- Adds text to the innermost open element; outside all elements it is ignored. -/
def addText (a : Assembly) (piece : String) : Assembly :=
  match a.openElements with
  | e :: outer => { a with openElements := e.appendText piece :: outer }
  | [] => a

/-- Takes in one event. Escapes are only looked at inside an element. -/
def step (a : Assembly) : Event → Except SourceError Assembly
  | .start tag attributes =>
    .ok { a with openElements := { tag, attributes } :: a.openElements }
  | .empty tag attributes => a.attach { tag, attributes }
  | .finish _ =>
    match a.openElements with
    | e :: outer => { a with openElements := outer }.attach e
    | [] => .error (.document "unbalanced end tag")
  | .text raw =>
    if a.openElements.isEmpty then .ok a
    else
      match unescape? raw.toList with
      | some piece => .ok (a.addText piece)
      | none => .error .markup
  | .literal text => .ok (a.addText text)
  | .other => .ok a
  | .malformed => .error .markup

/-- The document, once all events are taken in. -/
def finish (a : Assembly) : Except SourceError Element :=
  match a.openElements with
  | e :: _ => .error (.document ("element '" ++ e.tag ++ "' is never closed"))
  | [] =>
    match a.root with
    | some root => .ok root
    | none => .error (.document "document has no root element")

/-- Takes in events until one is refused. -/
def run (a : Assembly) : List Event → Except SourceError Assembly
  | [] => .ok a
  | event :: rest =>
    match a.step event with
    | .error e => .error e
    | .ok next => next.run rest

end Assembly

/-- The document that events build. -/
def ofEvents (events : List Event) : Except SourceError Element :=
  match Assembly.run {} events with
  | .error e => .error e
  | .ok a => a.finish

end Markup

/-- The document of a markup text. -/
def Element.ofMarkup (s : String) : Except SourceError Element :=
  Markup.ofEvents (Markup.events s)

end SchemaCompiler
