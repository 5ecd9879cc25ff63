import SchemaCompiler.Proofs.Value.Identity

/-!
# The list of values, read from the left

The list of values of a record goes into a statement as it is, so whoever reads the statement has to
find the values in it again. By the rule for literals (`SchemaCompiler.Query.listLiterals`) the list
of values has exactly one literal for each field, and their texts are the row of the record
(`SchemaCompiler.Record.literals_valueList`).
-/

namespace SchemaCompiler

/-- The texts of the literals of a list. -/
def Query.literals (s : String) : Option (List String) :=
  (listLiterals s).map (List.map Literal.text)

namespace Record

open Query

/-- The values of a record are those of its pairs. -/
theorem Fitting.map_snd_pairs {m : FlatSchema} {r : Record} (h : Fitting m r) :
    r.pairs.map Prod.snd = r.values := by
  rw [pairs, h.schema]
  exact List.map_snd_zip h.values.length_eq.ge

/-- **The list of values says the row.** Whatever was done to a record, its list of values is read
from the left to the end, has one literal for each field, and the texts of these are the row of the
record. -/
theorem literals_valueList {m : FlatSchema} {r : Record} (h : Reachable m r) :
    literals r.valueList = some r.toRow ∧ r.toRow.length = m.fields.length := by
  have hfitting := h.fitting
  refine ⟨?_, by rw [toRow, List.length_map, hfitting.values.length_eq]⟩
  rw [literals, listLiterals_valueList, Option.map_some, List.map_map, toRow,
    ← hfitting.map_snd_pairs, List.map_map]
  rfl

/-- A bearer whose name looks like the end of one literal and the start of another, and whose crest
is made of quotes. -/
def riddle : Record :=
  ⟨bearerSchema, [.text "\x27, \x27", .int (-1), .bytes [0x27, 0x27], .uint 7]⟩

/-- The riddle is read back from its list of values: quotes and separators inside the values
mislead nobody. -/
theorem literals_riddle :
    Reachable bearerSchema riddle ∧
      riddle.valueList = "\x27\x27\x27, \x27\x27\x27, -1, \x27\x27\x27\x27\x27\x27, 7" ∧
      literals riddle.valueList = some ["\x27, \x27", "-1", "\x27\x27", "7"] ∧
      riddle.toRow.length = bearerSchema.fields.length := by
  have hrow : Record.ofRow bearerSchema ["\x27, \x27", "-1", "\x27\x27", "7"] = .ok riddle := by
    decide
  have hreachable : Reachable bearerSchema riddle := .ofRow hrow
  obtain ⟨hliterals, hlength⟩ := literals_valueList hreachable
  exact ⟨hreachable, by decide, hliterals.trans (by decide), hlength⟩

end Record

end SchemaCompiler
