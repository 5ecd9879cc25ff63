import SchemaCompiler.Artifact.Layout
import SchemaCompiler.Profile
import SchemaCompiler.Schema.Flat

/-!
# Messages

The message that carries a record, and the conversions between the two. A field of the message is
tagged by its place among the fields, counted from one, so the order of the fields is part of the
message. Integers of eight bits travel as wider ones; a bounded text travels as text and is cut to
its capacity on the way back.
-/

namespace SchemaCompiler.Artifact

/-- The lines of a comment on a message or a field. -/
def commentItems : Option String → List Item
  | none => []
  | some comment => (Text.lines comment).map (fun line => .line ("// " ++ Text.trim line))

/-- The line that declares the field with the given place. -/
def messageField (f : Field) (index : Nat) : Item :=
  .line ("optional " ++ f.type.wire ++ " " ++ f.name ++ " = " ++ Decimal.ofNat (index + 1) ++ ";")

/-- The definition of the message of a record schema. -/
def messageItems (m : FlatSchema) (profile : Profile) : List Item :=
  [ .line "syntax = \"proto2\";", .gap, .line ("package " ++ profile.protoPackage ++ ";"), .gap ] ++
  commentItems m.comment ++
  Item.block ("message " ++ m.name ++ " \x7b")
    (m.fields.zipIdx.flatMap (fun p => commentItems p.1.comment ++ [messageField p.1 p.2]))
    "\x7d"

/-- The value that a message field takes from the record. -/
def toMessage (f : Field) : String :=
  let access := "record." ++ Name.memberIdent f.name
  match f.type.kind with
  | .fixedText _ => access ++ ".to_string()"
  | .text | .bytes => access ++ ".clone()"
  | _ =>
    match f.type.widen? with
    | some wide => wide.repr ++ "::from(" ++ access ++ ")"
    | none => access

/-- The statement that sets a member from the message. -/
def fromMessage (f : Field) : String :=
  let member := Name.memberIdent f.name
  let getter := "message." ++ member ++ "()"
  match f.type.kind with
  | .fixedText _ => "record." ++ member ++ ".copy_truncated(" ++ getter ++ ");"
  | .text | .bytes => "record." ++ member ++ " = " ++ getter ++ ".to_owned();"
  | _ =>
    if f.type.widen?.isSome then
      "record." ++ member ++ " = " ++ getter ++ " as " ++ f.type.repr ++ ";"
    else "record." ++ member ++ " = " ++ getter ++ ";"

/-- The conversion from the record to its message. -/
def toMessageItems (m : FlatSchema) : List Item :=
  let record := if m.fields.isEmpty then "_record" else "record"
  Item.block ("impl From<&" ++ m.name ++ "> for proto::" ++ m.name ++ " \x7b")
    (Item.block ("fn from(" ++ record ++ ": &" ++ m.name ++ ") -> Self \x7b")
      (Item.block "Self \x7b"
        (m.fields.map
          (fun f => .line (Name.memberIdent f.name ++ ": Some(" ++ toMessage f ++ "),")))
        "\x7d")
      "\x7d")
    "\x7d"

/-- The conversion from the message to its record. -/
def fromMessageItems (m : FlatSchema) : List Item :=
  let message := if m.fields.isEmpty then "_message" else "message"
  Item.block ("impl From<&proto::" ++ m.name ++ "> for " ++ m.name ++ " \x7b")
    (Item.block ("fn from(" ++ message ++ ": &proto::" ++ m.name ++ ") -> Self \x7b")
      (if m.fields.isEmpty then [.line (m.name ++ "::default()")]
       else
        [.line ("let mut record = " ++ m.name ++ "::default();")] ++
        m.fields.map (fun f => .line (fromMessage f)) ++ [.line "record"])
      "\x7d")
    "\x7d"

/-- The conversions between a record and its message. -/
def messageGlueItems (m : FlatSchema) (profile : Profile) : List Item :=
  [ .line ("use " ++ profile.protoModuleFor m.name ++ " as proto;"),
    .line ("use " ++ profile.recordModuleFor m.name ++ "::" ++ m.name ++ ";"),
    .gap ] ++
  toMessageItems m ++ [.gap] ++ fromMessageItems m

end SchemaCompiler.Artifact
