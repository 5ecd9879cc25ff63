import SchemaCompiler.Artifact.Kind
import SchemaCompiler.Text.Blank
import SchemaCompiler.Text.Lines

/-!
# Artifact headers

Every artifact starts with a comment that says which unit it was made from and carries the checksum
of the schema source, so that a stale file can be told. The checksum can be read back from the first
four lines.
-/

namespace SchemaCompiler.Artifact

/-- The lines that warn of changes to the fields of a message. -/
def messageNotice (mark : String) : String :=
  mark ++ "\n" ++
  mark ++ " Field tags follow declaration order. Reordering, inserting or removing\n" ++
  mark ++ " fields changes the wire schema.\n"

/-- The header of an artifact. -/
def header (kind : ArtifactKind) (unit checksum : String) : String :=
  let mark := kind.commentMark
  mark ++ " Generated by schema-codegen from " ++ unit ++ " - DO NOT EDIT\n" ++
  mark ++ " schema sha256: " ++ checksum ++ "\n" ++
  (if kind == .message then messageNotice mark else "")

/-- The checksum in the header of an artifact. -/
def headerChecksum? (artifact : String) : Option String :=
  (((Text.lines artifact).take 4).findSome? (Text.cut "schema sha256: ")).map
    (fun p => Text.trim p.2)

end SchemaCompiler.Artifact
