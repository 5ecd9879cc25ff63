import SchemaCompiler.Compilation
import SchemaCompiler.Proofs.Schema.Arena
import SchemaCompiler.Proofs.Schema.Entries

/-!
# Strict compilation

Whatever a schema source says that cannot be used is dropped, and a diagnostic is recorded for it.
Under the strict policy a unit with an error is refused; a unit that is accepted has lost nothing
(`SchemaCompiler.SchemaUnit.faithful_of_compile_strict`). The diagnostics of an accepted unit are
clean (`build_of_compile_strict`), and the rest is what the two builders do when their diagnostics
are clean: `ElementType.mirrors_read` for documents, `FlatSchema.covers_build` for flat units.
-/

namespace SchemaCompiler

open Diagnostics

namespace SchemaUnit

/-- What compiles under any policy is what was built, and it refers to nothing undeclared. -/
theorem build_of_compile {unit : SchemaUnit} {policy : Policy} {c : Compiled}
    (h : unit.compile policy = .ok c) : c = unit.build ∧ undeclared? unit.build.schema = none := by
  rw [compile] at h
  cases hundeclared : undeclared? unit.build.schema with
  | some fault =>
    rw [hundeclared] at h
    cases h
  | none =>
    rw [hundeclared] at h
    dsimp only at h
    split_ifs at h
    cases h
    exact ⟨rfl, rfl⟩

theorem build_of_compile_strict {unit : SchemaUnit} {c : Compiled}
    (h : unit.compile .strict = .ok c) : c = unit.build ∧ Clean unit.build.diagnostics := by
  obtain ⟨rfl, hdeclared⟩ := build_of_compile h
  refine ⟨rfl, clean_of_hasErrors ?_⟩
  rw [compile, hdeclared] at h
  dsimp only at h
  split_ifs at h with herrors
  simpa using herrors

/-- **What strict compilation accepts has lost nothing.** The arena of a document has one node for
each element, in depth-first order, with its tag, its children, its attributes and its content; the
schema of a flat unit has one field for each entry that is no directive and one index for each index
directive, in order, and every name of a key is a key. -/
theorem faithful_of_compile_strict {unit : SchemaUnit} {c : Compiled}
    (h : unit.compile .strict = .ok c) :
    match unit.source, c.schema with
    | .tree root, .tree t =>
      (Arena.ofElement root).1.nodes = t.numbered.map ElementType.Numbered.node ∧
        t.numbered.map ElementType.Numbered.id = List.range root.elements.length ∧
        List.Forall₂ ElementType.Faithful t.numbered root.elements
    | .flat flat, .flat m => FlatSchema.Covers flat.name flat.entries m
    | _, _ => False := by
  obtain ⟨rfl, hclean⟩ := build_of_compile_strict h
  rw [build] at hclean ⊢
  cases hsource : unit.source with
  | flat flat =>
    rw [hsource] at hclean
    exact FlatSchema.covers_build hclean
  | tree root =>
    rw [hsource] at hclean
    have hmirrors := ElementType.mirrors_read root _ _ hclean
    refine ⟨Arena.nodes_ofElement root, ?_, hmirrors.nodes 0⟩
    rw [List.range_eq_range', ← hmirrors.size]
    exact ElementType.map_id_numberedFrom _ 0

/-- A guild with members in a map, each with trophies. -/
def guildDocument : Element where
  tag := "Guild"
  attributes := [("name", "string"), ("cont_", "anything")]
  text := some " uint32 "
  children :=
    [{ tag := "Member"
       attributes := [("cont_", "map"), ("name", "string"), ("key_", "name"), ("rank", "uint8")]
       children := [{ tag := "Trophy", attributes := [("cont_", "list")], text := some "int" }] },
     { tag := "Motto", text := some "string" }]

/-- A player with a field that declares itself a key, a key directive, two indexes, of which one
repeats a name, and an unknown directive. -/
def playerUnit : FlatUnit where
  name := "player"
  entries :=
    [⟨"$key", .list ["name", "name"]⟩, ⟨"name", .scalar "string"⟩,
     ⟨"$index", .list ["guild", "level", "guild"]⟩, ⟨"level", .scalar "uint8"⟩,
     ⟨"guild", .mapping [("type", "char"), ("size", "16"), ("primary_key", "true")]⟩,
     ⟨"$index", .scalar "level"⟩, ⟨"$shard", .scalar "level"⟩]

theorem compile_strict_of_decide {unit : SchemaUnit}
    (hundeclared : undeclared? unit.build.schema = none)
    (herrors : Diagnostics.hasErrors unit.build.diagnostics = false) :
    unit.compile .strict = .ok unit.build := by
  rw [compile, hundeclared]
  simp [herrors]

theorem compile_lenient_of_decide {unit : SchemaUnit}
    (hundeclared : undeclared? unit.build.schema = none) :
    unit.compile .lenient = .ok unit.build := by
  rw [compile, hundeclared]
  rfl

/-- The guild and the player are accepted, and have lost nothing. -/
theorem faithful_guild_player :
    (∃ t, (ofTree guildDocument "").compile .strict = .ok ⟨.tree t, []⟩ ∧
      (Arena.ofElement guildDocument).1.nodes = t.numbered.map ElementType.Numbered.node ∧
      t.numbered.map ElementType.Numbered.id = [0, 1, 2, 3] ∧
      List.Forall₂ ElementType.Faithful t.numbered guildDocument.elements) ∧
    ∃ m ds, (ofFlat playerUnit "").compile .strict = .ok ⟨.flat m, ds⟩ ∧ ds.length = 3 ∧
      FlatSchema.Covers playerUnit.name playerUnit.entries m := by
  have hguild : (ofTree guildDocument "").compile .strict = .ok (ofTree guildDocument "").build :=
    compile_strict_of_decide rfl (by decide)
  have hplayer : (ofFlat playerUnit "").compile .strict = .ok (ofFlat playerUnit "").build :=
    compile_strict_of_decide (by decide) (by decide)
  have hclean : (ElementType.ofElement guildDocument).2 = [] := by decide
  refine ⟨⟨(ElementType.ofElement guildDocument).1, ?_, ?_⟩, _, _, hplayer, by decide,
    faithful_of_compile_strict hplayer⟩
  · rw [hguild, build, ofTree, ← hclean]
  · obtain ⟨harena, hids, hnodes⟩ := faithful_of_compile_strict hguild
    have hcount : guildDocument.elements.length = 4 := by decide
    exact ⟨harena, hids.trans (congrArg List.range hcount), hnodes⟩

end SchemaUnit

end SchemaCompiler
