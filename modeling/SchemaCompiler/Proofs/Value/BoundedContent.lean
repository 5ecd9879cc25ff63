import SchemaCompiler.Proofs.Text.Cut
import SchemaCompiler.Proofs.Value.Writing

/-!
# Bounded texts as content

Content is trimmed when it is read, and a bounded text is cut after that. So the cut may leave a
blank at the end, which is lost when the content is written and read again: bounded content is read
back as it was exactly if the cut does not fall right behind a blank
(`SchemaCompiler.TreeValue.content_reread`). One more round changes nothing.
-/

namespace SchemaCompiler

/-- A text is always read as a bounded one, and cut. -/
theorem FieldValue.read?_fixedText (capacity : Nat) (raw : String) :
    read? (.fixedText capacity) raw = some (.text (Text.truncate capacity raw)) := rfl

namespace TreeValue

/-- **Bounded content after an element with text is read**: the text is trimmed and cut, whatever
the content was before. -/
theorem content_read {s : Standard} {t : ElementType} {v : TreeValue} (h : Conforms s t v)
    {type : Primitive} {capacity : Nat} (htype : t.content = some type)
    (hkind : type.kind = .fixedText capacity) {e : Element} {text : String}
    (he : e.text = some text) :
    (read t v e).content = some (.text (Text.truncate capacity (Text.trim text))) := by
  obtain ⟨-, -, hchildren⟩ := (conforms_iff t v).mp h
  have hsome : v.content.isSome := by rw [h.isSome_content, htype, Option.isSome_some]
  obtain ⟨old, hold⟩ := Option.isSome_iff_exists.mp hsome
  rw [read_eq hchildren.length_eq, htype, hold, readContent, he, Option.bind_some, hkind,
    FieldValue.read?_fixedText, Option.getD_some]

/-- **Bounded content that is written and read again.** Reading a text trims and cuts it. Writing
what was read into a document of its own and reading that drops the blanks at its end; so the
content stays the same exactly if the cut does not fall right behind a blank. After that it stays
the same for good. -/
theorem content_reread {t : ElementType} {type : Primitive} {capacity : Nat}
    (htype : t.content = some type) (hkind : type.kind = .fixedText capacity) {v w : TreeValue}
    (hv : Reachable t v) (hw : Reachable t w) {e : Element} {text : String}
    (he : e.text = some text) :
    let once := read t v e
    let twice := read t w (toDocument t once)
    once.content = some (.text (Text.truncate capacity (Text.trim text))) ∧
      twice.content =
        some (.text (Text.trimEnd (Text.truncate capacity (Text.trim text)))) ∧
      (twice.content = once.content ↔ ¬Text.CutBehindBlank capacity (Text.trim text)) ∧
      ∀ u, Reachable t u → (read t u (toDocument t twice)).content = twice.content := by
  intro once twice
  -- what is read from the document of a value depends on its content only
  have hback : ∀ (u x : TreeValue) (stored : String), Reachable t u →
      x.content = some (.text stored) →
      (read t u (toDocument t x)).content =
        some (.text (Text.truncate capacity (Text.trim stored))) := by
    intro u x stored hu hx
    refine content_read (hu.conforms metAt_typedStandard) htype hkind ?_
    rw [text_toDocument, hx]
    rfl
  have honce : once.content = some (.text (Text.truncate capacity (Text.trim text))) :=
    content_read (hv.conforms metAt_typedStandard) htype hkind he
  have htwice : twice.content =
      some (.text (Text.trim (Text.truncate capacity (Text.trim text)))) := by
    rw [hback w once _ hw honce, Text.truncate_trim_truncate]
  refine ⟨honce, ?_, ?_, fun u hu => ?_⟩
  · rw [htwice, Text.trim_truncate_trim]
  · rw [htwice, honce, Option.some_inj, FieldValue.text.injEq, Text.trim_truncate_trim_eq_iff]
  · rw [hback u twice _ hu htwice, Text.trim_trim, Text.truncate_trim_truncate, htwice]

/-- A note of at most three bytes. -/
def note : Element where
  tag := "Note"
  text := some "char3"

/-- The element type of notes. -/
def noteType : ElementType :=
  (ElementType.ofElement note).1

/-- The cut falls before the blank, so the note is read back as it was. -/
theorem content_reread_note :
    noteType.content = some (.bounded 3) ∧ Reachable noteType (initial noteType) ∧
      let once := read noteType (initial noteType) { tag := "Note", text := some " abc d " }
      let twice := read noteType (initial noteType) (toDocument noteType once)
      once.content = some (.text "abc") ∧ twice.content = once.content ∧
        ¬Text.CutBehindBlank 3 (Text.trim " abc d ") := by
  have hcontent : noteType.content = some (.bounded 3) := by decide
  have hreachable : Reachable noteType (initial noteType) := .initial noteType
  obtain ⟨honce, htwice, hiff, -⟩ := content_reread hcontent rfl hreachable hreachable
    (e := { tag := "Note", text := some " abc d " }) rfl
  have hsame := htwice.trans (honce.trans (by decide)).symm
  exact ⟨hcontent, hreachable, honce.trans (by decide), hsame, hiff.mp hsame⟩

/-- **Bounded content may change when it is written and read again**: the cut falls right behind a
blank, which is stored at first and lost then. -/
theorem content_reread_cutNote :
    noteType.content = some (.bounded 3) ∧ Reachable noteType (initial noteType) ∧
      let once := read noteType (initial noteType) { tag := "Note", text := some "ab cd" }
      let twice := read noteType (initial noteType) (toDocument noteType once)
      once.content = some (.text "ab ") ∧ twice.content = some (.text "ab") ∧
        twice.content ≠ once.content :=
  ⟨by decide, .initial noteType, by decide, by decide, by decide⟩

end TreeValue

end SchemaCompiler
