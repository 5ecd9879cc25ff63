import SchemaCompiler.Decimal.Integer

/-!
# Diagnostics

What can be wrong with a schema, and the record that is kept of it. A fault names the offending
element; its code is stable and has a severity. Most faults only drop the element that they name, so
a diagnostic is a value that is collected, in the order in which the faults are met.
-/

namespace SchemaCompiler

/-- A fault of a schema. -/
inductive SchemaFault where
  /-- A type name that does not resolve. -/
  | unresolvedType (element typeName : String) (suggestion : Option String)
  /-- A map container that does not say which attribute is its key. -/
  | missingMapKeyDeclaration (node : String)
  /-- A map container whose key is none of its attributes. -/
  | missingMapKey (node key : String)
  /-- A container annotation that is no kind of container. -/
  | invalidContainer (node value : String)
  /-- A key or index that names no field. -/
  | undeclaredField (list field : String)
  /-- A second member of the same name. -/
  | duplicateMember (owner member : String)
  /-- An entry of a shape that has no meaning. -/
  | malformedEntry (entry reason : String)
  /-- A directive that is not known. -/
  | unknownDirective (directive : String)
  /-- A field that a key or index lists again. -/
  | duplicateKeyField (list field : String)
deriving DecidableEq, Repr

/-- The code of a fault. -/
inductive FaultCode where
  | unresolvedType
  | missingMapKeyDeclaration
  | missingMapKey
  | invalidContainer
  | undeclaredField
  | duplicateMember
  | malformedEntry
  | unknownDirective
  | duplicateKeyField
deriving DecidableEq, Repr

/-- How grave a fault is. -/
inductive Severity where
  /-- The schema still means what it says. -/
  | warning
  /-- Something of the schema is dropped. -/
  | error
deriving DecidableEq, Repr

/-- The word for a severity. -/
def Severity.label : Severity → String
  | .warning => "warning"
  | .error => "error"

namespace FaultCode

/-- The short code. -/
def label : FaultCode → String
  | unresolvedType => "E001"
  | missingMapKeyDeclaration => "E002"
  | missingMapKey => "E003"
  | invalidContainer => "E004"
  | undeclaredField => "E005"
  | duplicateMember => "E006"
  | malformedEntry => "E007"
  | unknownDirective => "W001"
  | duplicateKeyField => "W002"

/-- The name of the code in reports. -/
def name : FaultCode → String
  | unresolvedType => "UnresolvedType"
  | missingMapKeyDeclaration => "MissingMapKeyDeclaration"
  | missingMapKey => "MissingMapKey"
  | invalidContainer => "InvalidContainer"
  | undeclaredField => "UndeclaredField"
  | duplicateMember => "DuplicateMember"
  | malformedEntry => "MalformedEntry"
  | unknownDirective => "UnknownDirective"
  | duplicateKeyField => "DuplicateKeyField"

/-- All codes. -/
def all : List FaultCode :=
  [unresolvedType, missingMapKeyDeclaration, missingMapKey, invalidContainer, undeclaredField,
    duplicateMember, malformedEntry, unknownDirective, duplicateKeyField]

/-- The code of a name. -/
def ofName? (s : String) : Option FaultCode :=
  all.find? (fun c => c.name == s)

/-- Unknown directives and repeated key fields are warnings, all else are errors. -/
def severity : FaultCode → Severity
  | unknownDirective | duplicateKeyField => .warning
  | _ => .error

end FaultCode

namespace SchemaFault

/-- The code of a fault. -/
def code : SchemaFault → FaultCode
  | unresolvedType .. => .unresolvedType
  | missingMapKeyDeclaration .. => .missingMapKeyDeclaration
  | missingMapKey .. => .missingMapKey
  | invalidContainer .. => .invalidContainer
  | undeclaredField .. => .undeclaredField
  | duplicateMember .. => .duplicateMember
  | malformedEntry .. => .malformedEntry
  | unknownDirective .. => .unknownDirective
  | duplicateKeyField .. => .duplicateKeyField

/-- The sentence that tells a fault. -/
def message : SchemaFault → String
  | unresolvedType element typeName suggestion =>
    "unknown type '" ++ typeName ++ "' for '" ++ element ++ "'" ++
      (match suggestion with
       | some name => " (did you mean '" ++ name ++ "'?)"
       | none => "")
  | missingMapKeyDeclaration node =>
    "map container '" ++ node ++ "' does not declare a key_ attribute"
  | missingMapKey node key =>
    "map container '" ++ node ++ "' has no attribute '" ++ key ++ "' to use as its key"
  | invalidContainer node value =>
    "node '" ++ node ++ "' has invalid container kind '" ++ value ++ "'"
  | undeclaredField list field => list ++ " references undeclared field '" ++ field ++ "'"
  | duplicateMember owner member => "duplicate member '" ++ member ++ "' in '" ++ owner ++ "'"
  | malformedEntry entry reason => "malformed entry '" ++ entry ++ "': " ++ reason
  | unknownDirective directive => "unknown directive '" ++ directive ++ "'"
  | duplicateKeyField list field => list ++ " lists field '" ++ field ++ "' more than once"

end SchemaFault

/-- A fault on record. -/
structure Diagnostic where
  /-- The schema unit in which the fault was met. -/
  unit : String
  /-- The code of the fault. -/
  code : FaultCode
  /-- The scope of the tree node under which it was met, if it was met under one. -/
  path : Option String
  /-- The sentence that tells it. -/
  message : String
deriving DecidableEq, Repr

namespace Diagnostic

/-- The record of a fault of a unit. -/
def of (unit : String) (fault : SchemaFault) : Diagnostic :=
  ⟨unit, fault.code, none, fault.message⟩

/-- The record of a fault under a node of a tree schema. -/
def under (unit path : String) (fault : SchemaFault) : Diagnostic :=
  ⟨unit, fault.code, some path, fault.message⟩

/-- The severity of the fault. -/
def severity (d : Diagnostic) : Severity :=
  d.code.severity

/-- Whether the fault is an error. -/
def isError (d : Diagnostic) : Bool :=
  d.severity == .error

/-- The diagnostic as one line. -/
def display (d : Diagnostic) : String :=
  d.code.label ++ " " ++ d.severity.label ++ " in " ++ d.unit ++
    (match d.path with
     | some path => " at " ++ path
     | none => "") ++ ": " ++ d.message

end Diagnostic

/-! ### Lists of diagnostics -/

namespace Diagnostics

/-- The number of errors. -/
def errorCount (ds : List Diagnostic) : Nat :=
  ds.countP Diagnostic.isError

/-- The number of warnings. -/
def warningCount (ds : List Diagnostic) : Nat :=
  ds.countP (fun d => !d.isError)

/-- Whether there is an error. -/
def hasErrors (ds : List Diagnostic) : Bool :=
  ds.any Diagnostic.isError

/-- One line for each diagnostic, then the counts; nothing for an empty list. -/
def display (ds : List Diagnostic) : String :=
  if ds.isEmpty then ""
  else
    String.join (ds.map (fun d => d.display ++ "\n")) ++
      Decimal.ofNat (errorCount ds) ++ " error(s), " ++
      Decimal.ofNat (warningCount ds) ++ " warning(s)\n"

end Diagnostics

end SchemaCompiler
