import SchemaCompiler.Settings.Value
import SchemaCompiler.Text.CaseMap

/-!
# Typed values from settings

Structures are read from tables field by field: a field that is not named keeps its default, a name
that is not a field is ignored, and a field whose value does not fit makes the whole unreadable. A
list is read as a structure too, field after field in order.

Notations differ in what fits. `Rules` says how: whether numbers and truth values may stand for
texts, whether choices are told apart by case, what may stand beside a choice that is written as a
table, whether a list may have more items than there are fields, and whether a moment in time may
stand for a structure.
-/

namespace SchemaCompiler.Settings

/-- What fits where. -/
structure Rules where
  /-- Whether numbers, truth values and moments are read as texts. -/
  anyAsText : Bool
  /-- Whether the case of a choice does not matter. -/
  ignoresCase : Bool
  /-- Whether a list may have more items than there are fields. -/
  allowsSurplus : Bool
  /-- Whether a moment is read as a table, with a name that is no field. -/
  momentsAsTables : Bool
  /-- What may stand under a choice that is written as a table of one entry. -/
  besideChoice : Setting → Bool

/-- The rules for values of a request: everything must be of its own type. -/
def Rules.exact : Rules where
  anyAsText := false
  ignoresCase := false
  allowsSurplus := false
  momentsAsTables := false
  besideChoice
    | .null => true
    | _ => false

/-- The rules for a file that is read for itself. -/
def Rules.file : Rules where
  anyAsText := false
  ignoresCase := false
  allowsSurplus := true
  momentsAsTables := true
  besideChoice
    | .table [] | .list [] => true
    | _ => false

/-- The rules for layers of files and variables. -/
def Rules.layered : Rules where
  anyAsText := true
  ignoresCase := true
  allowsSurplus := true
  momentsAsTables := false
  besideChoice _ := true

/-- A text. -/
def text? (rules : Rules) (v : Setting) : Option String :=
  match v with
  | .text s => some s
  | _ => if rules.anyAsText then v.shown? else none

/-- A list of texts. -/
def texts? (rules : Rules) : Setting → Option (List String)
  | .list items => items.mapM (text? rules)
  | _ => none

/-- One of several choices, each with its name. -/
def choice? {α : Type} (rules : Rules) (choices : List (String × α)) (v : Setting) : Option α :=
  let fits (name : String) (choice : String × α) : Bool :=
    if rules.ignoresCase then Text.toLowercase choice.1 == Text.toLowercase name
    else choice.1 == name
  match v with
  | .text name => (choices.find? (fits name)).map Prod.snd
  | .table [(name, beside)] =>
    if rules.besideChoice beside then (choices.find? (fits name)).map Prod.snd else none
  | _ => none

/-- A field of a structure: its name, and how it is set from a value. -/
structure FieldReader (α : Type) where
  /-- The name. -/
  name : String
  /-- Sets the field, if the value fits. -/
  set : Setting → α → Option α

/-- A field that is set from what a reader makes of the value. -/
def FieldReader.of {α β : Type} (name : String) (read : Setting → Option β) (set : β → α → α) :
    FieldReader α :=
  ⟨name, fun v a => (read v).map (fun b => set b a)⟩

/-- Sets fields from a table. -/
def setFields {α : Type} (fields : List (FieldReader α)) (v : Setting) (a : α) : Option α :=
  fields.foldlM (fun a field =>
    match v.get? field.name with
    | some given => field.set given a
    | none => some a) a

/-- Sets fields from a list, in order. -/
def setInOrder {α : Type} (rules : Rules) : List (FieldReader α) → List Setting → α → Option α
  | field :: fields, v :: vs, a =>
    match field.set v a with
    | some a => setInOrder rules fields vs a
    | none => none
  | _, [], a => some a
  | [], _ :: _, a => if rules.allowsSurplus then some a else none

/-- A structure with the given fields; those that are not named keep their values. -/
def structure? {α : Type} (rules : Rules) (fields : List (FieldReader α)) (defaults : α)
    (v : Setting) : Option α :=
  match v with
  | .table _ => setFields fields v defaults
  | .list items => setInOrder rules fields items defaults
  | .moment _ => if rules.momentsAsTables then some defaults else none
  | _ => none

end SchemaCompiler.Settings
