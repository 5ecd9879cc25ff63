import SchemaCompiler.Compilation
import SchemaCompiler.Proofs.Text.Lines
import SchemaCompiler.Proofs.Text.Trim

/-!
# The checksum in a header

Every artifact is stamped with the checksum of its source, and a file is stale if the checksum that
is read back from it is not the one of the source. The reader knows little of the header: it looks
through the first lines for the words before a checksum, wherever they stand in a line, and takes
the rest of the line. The name of the unit stands in the line before, so it must not bring these
words in, alone or together with what stands around it.

What stands around the name is fixed, and only the blank behind it can complete the words. So the
checksum is read back exactly if the words do not stand in the name with one blank behind it
(`SchemaCompiler.Artifact.headerChecksum?_header_iff`), whatever follows the header.
-/

namespace SchemaCompiler.Artifact

open Text

/-! ### The lines of a header -/

/-- The words before a checksum. -/
def stampMark : List Char :=
  "schema sha256: ".toList

/-- What stands before the name of the unit. -/
def beforeUnit (kind : ArtifactKind) : String :=
  kind.commentMark ++ " Generated by schema-codegen from "

/-- What stands behind the name of the unit. -/
def behindUnit : String :=
  " - DO NOT EDIT"

/-- The line with the name of the unit. -/
def unitLine (kind : ArtifactKind) (unit : String) : String :=
  beforeUnit kind ++ unit ++ behindUnit

/-- The line with the checksum. -/
def stampLine (kind : ArtifactKind) (checksum : String) : String :=
  kind.commentMark ++ " schema sha256: " ++ checksum

/-- An artifact starts with the two lines. -/
theorem header_append (kind : ArtifactKind) (unit checksum body : String) :
    ∃ rest, header kind unit checksum ++ "\n" ++ body =
      unitLine kind unit ++ "\n" ++ (stampLine kind checksum ++ "\n" ++ rest) := by
  refine ⟨(if kind == .message then messageNotice kind.commentMark else "") ++ "\n" ++ body, ?_⟩
  simp [header, unitLine, beforeUnit, behindUnit, stampLine, ← String.toList_inj]

theorem commentMark_cases (kind : ArtifactKind) :
    kind.commentMark = "//" ∨ kind.commentMark = "--" := by
  cases kind <;> decide

/-! ### Where the words can stand -/

theorem not_isInfix_beforeUnit (kind : ArtifactKind) :
    ¬stampMark <:+: (beforeUnit kind).toList := by
  rcases commentMark_cases kind with hmark | hmark
  all_goals
    rw [beforeUnit, hmark]
    decide +kernel

/-- The words do not start where the name of the unit is announced. -/
theorem eq_nil_of_isSuffix_beforeUnit (kind : ArtifactKind) {front back : List Char}
    (h : stampMark = front ++ back) (hfront : front <:+ (beforeUnit kind).toList) :
    front = [] := by
  have hall : ∀ n ≤ stampMark.length,
      stampMark.take n <:+ (beforeUnit kind).toList → stampMark.take n = [] := by
    rcases commentMark_cases kind with hmark | hmark
    all_goals
      rw [beforeUnit, hmark]
      decide +kernel
  have htake : stampMark.take front.length = front := by rw [h, List.take_left]
  have hlength : front.length ≤ stampMark.length := by rw [h, List.length_append]; omega
  rw [← htake] at hfront ⊢
  exact hall _ hlength hfront

/-- Of what stands behind the name of the unit, the words can have the blank only. -/
theorem eq_of_isPrefix_behindUnit {front back : List Char} (h : stampMark = front ++ back)
    (hback : back <+: behindUnit.toList) : back <+: [' '] := by
  have hall : ∀ n ≤ stampMark.length,
      stampMark.drop n <+: behindUnit.toList → stampMark.drop n <+: [' '] := by
    decide +kernel
  have hdrop : stampMark.drop front.length = back := by rw [h, List.drop_left]
  have hlength : front.length ≤ stampMark.length := by rw [h, List.length_append]; omega
  rw [← hdrop] at hback ⊢
  exact hall _ hlength hback

/-- **The words stand in the line of the unit exactly if they stand in its name** with one blank
behind it. -/
theorem isInfix_unitLine_iff (kind : ArtifactKind) (unit : String) :
    stampMark <:+: (unitLine kind unit).toList ↔ stampMark <:+: unit.toList ++ [' '] := by
  have hbehind : behindUnit.toList = [' '] ++ "- DO NOT EDIT".toList := rfl
  have hline : (unitLine kind unit).toList =
      (beforeUnit kind).toList ++ unit.toList ++ behindUnit.toList := by
    rw [unitLine, String.toList_append, String.toList_append]
  rw [hline]
  constructor
  · intro h
    -- nothing behind the blank belongs to the words
    have hblank : stampMark <:+: (beforeUnit kind).toList ++ (unit.toList ++ [' ']) := by
      rw [← List.append_assoc]
      rcases List.infix_append_iff.mp h with h | h | ⟨front, back, heq, hfront, hback⟩
      · exact h.trans (List.prefix_append _ _).isInfix
      · exact absurd h (by decide +kernel)
      · rw [heq]
        obtain ⟨lead, hlead⟩ := hfront
        obtain ⟨rest, hrest⟩ := eq_of_isPrefix_behindUnit heq hback
        refine ⟨lead, rest, ?_⟩
        rw [← hlead, ← hrest]
        simp only [List.append_assoc]
    -- and nothing before the name does
    rcases List.infix_append_iff.mp hblank with h | h | ⟨front, back, heq, hfront, hback⟩
    · exact absurd h (not_isInfix_beforeUnit kind)
    · exact h
    · rw [heq, eq_nil_of_isSuffix_beforeUnit kind heq hfront, List.nil_append]
      exact hback.isInfix
  · intro h
    rw [hbehind, ← List.append_assoc, List.append_assoc (beforeUnit kind).toList]
    exact h.trans ((List.suffix_append _ _).isInfix.trans (List.prefix_append _ _).isInfix)

/-! ### Reading back -/

/-- The hexadecimal digits, with small letters. -/
def lowerHexDigits : List Char :=
  "0123456789abcdef".toList

/-- **Only hexadecimal digits**, with small letters. -/
def IsLowerHex (s : String) : Prop :=
  ∀ c ∈ s.toList, c ∈ lowerHexDigits

theorem trim_of_isLowerHex {s : String} (h : IsLowerHex s) : trim s = s := by
  have hblank : lowerHexDigits.all (fun c => !isBlank c) = true := by decide
  refine trim_eq_self fun c hc => ?_
  simpa using List.all_eq_true.mp hblank c (h c hc)

theorem getLast?_unitLine (kind : ArtifactKind) (unit : String) :
    (unitLine kind unit).toList.getLast? = some 'T' := by
  have hbehind : behindUnit.toList = " - DO NOT EDI".toList ++ ['T'] := rfl
  rw [unitLine, String.toList_append, hbehind, ← List.append_assoc, List.getLast?_concat]

theorem feed_notMem_unitLine (kind : ArtifactKind) {unit : String} (h : '\n' ∉ unit.toList) :
    '\n' ∉ (unitLine kind unit).toList := by
  have hbefore : '\n' ∉ (beforeUnit kind).toList := by
    rcases commentMark_cases kind with hmark | hmark
    all_goals
      rw [beforeUnit, hmark]
      decide
  have hbehind : '\n' ∉ behindUnit.toList := by decide
  rw [unitLine, String.toList_append, String.toList_append]
  simp only [List.mem_append, not_or]
  exact ⟨⟨hbefore, h⟩, hbehind⟩

/-- The line with a checksum has neither a line feed nor a carriage return. -/
theorem notMem_stampLine (kind : ArtifactKind) {checksum : String} (h : IsLowerHex checksum)
    {c : Char} (hc : c = '\n' ∨ c = '\r') : c ∉ (stampLine kind checksum).toList := by
  have hdigits : c ∉ lowerHexDigits := by
    rcases hc with rfl | rfl <;> decide
  have hwords : c ∉ (kind.commentMark ++ " schema sha256: ").toList := by
    rcases commentMark_cases kind with hmark | hmark
    all_goals
      rw [hmark]
      rcases hc with rfl | rfl <;> decide
  rw [stampLine, String.toList_append, List.mem_append, not_or]
  exact ⟨hwords, fun hmem => hdigits (h c hmem)⟩

theorem cut_stampMark (s : String) : cut "schema sha256: " s =
    (cutChars stampMark s.toList).map (fun p => (String.ofList p.1, String.ofList p.2)) := rfl

/-- **The line with a checksum is cut right before it.** -/
theorem cut_stampLine (kind : ArtifactKind) (checksum : String) :
    cut "schema sha256: " (stampLine kind checksum) = some (kind.commentMark ++ " ", checksum) := by
  have hmark : stampMark = 's' :: "chema sha256: ".toList := rfl
  have hwords : " schema sha256: ".toList = [' '] ++ stampMark := rfl
  have hline : (stampLine kind checksum).toList =
      (kind.commentMark ++ " ").toList ++ (stampMark ++ checksum.toList) := by
    rw [stampLine, String.toList_append, String.toList_append, hwords, String.toList_append,
      List.append_assoc, List.append_assoc, List.append_assoc]
    rfl
  have hbefore : 's' ∉ (kind.commentMark ++ " ").toList := by
    rcases commentMark_cases kind with hslashes | hdashes
    · rw [hslashes]
      decide
    · rw [hdashes]
      decide
  rw [cut_stampMark, hline, hmark, cutChars_append hbefore, Option.map_some,
    String.ofList_toList, String.ofList_toList]

/-- **What is read from an artifact**: the rest of the line of the unit, if the words stand in it,
and otherwise the checksum. -/
theorem headerChecksum?_header (kind : ArtifactKind) {unit checksum : String} (body : String)
    (hline : '\n' ∉ unit.toList) (hhex : IsLowerHex checksum) :
    headerChecksum? (header kind unit checksum ++ "\n" ++ body) =
      some (((cut "schema sha256: " (unitLine kind unit)).map (fun p => trim p.2)).getD
        checksum) := by
  obtain ⟨rest, hrest⟩ := header_append kind unit checksum body
  have hunit : dropReturn (unitLine kind unit).toList = (unitLine kind unit).toList :=
    dropReturn_of_getLast? (by rw [getLast?_unitLine]; decide)
  have hstamp : dropReturn (stampLine kind checksum).toList = (stampLine kind checksum).toList :=
    dropReturn_of_getLast? fun hlast =>
      notMem_stampLine kind hhex (Or.inr rfl) (List.mem_of_getLast? hlast)
  rw [headerChecksum?, hrest, lines_append_feed (feed_notMem_unitLine kind hline),
    lines_append_feed (notMem_stampLine kind hhex (Or.inl rfl)), hunit, hstamp,
    String.ofList_toList, String.ofList_toList, List.take_succ_cons, List.findSome?_cons]
  cases hcut : cut "schema sha256: " (unitLine kind unit) with
  | some p => rfl
  | none =>
    rw [List.take_succ_cons, List.findSome?_cons, cut_stampLine]
    exact congrArg some (trim_of_isLowerHex hhex)

/-- If the words stand in the line of the unit, the line goes on behind them. -/
theorem mem_of_cutChars_unitLine {kind : ArtifactKind} {unit : String} {p : List Char × List Char}
    (h : cutChars stampMark (unitLine kind unit).toList = some p) : 'T' ∈ p.2 := by
  have hlast := getLast?_unitLine kind unit
  rw [eq_of_cutChars h] at hlast
  cases hrest : p.2 with
  | nil =>
    rw [hrest, List.append_nil, List.getLast?_append_of_ne_nil _ (by decide)] at hlast
    exact absurd hlast (by decide)
  | cons c cs =>
    rw [hrest, List.getLast?_append_of_ne_nil _ (List.cons_ne_nil _ _)] at hlast
    exact List.mem_of_getLast? hlast

/-- **The checksum is read back exactly if** the words do not stand in the name of the unit with one
blank behind it. -/
theorem headerChecksum?_header_iff (kind : ArtifactKind) {unit checksum : String} (body : String)
    (hline : '\n' ∉ unit.toList) (hhex : IsLowerHex checksum) :
    headerChecksum? (header kind unit checksum ++ "\n" ++ body) = some checksum ↔
      ¬stampMark <:+: unit.toList ++ [' '] := by
  rw [headerChecksum?_header kind body hline hhex, ← isInfix_unitLine_iff kind,
    ← cutChars_eq_none_iff, Option.some_inj, cut_stampMark]
  cases hcut : cutChars stampMark (unitLine kind unit).toList with
  | none => exact iff_of_true rfl rfl
  | some p =>
    -- what is read then holds the end of the unit's line, and a checksum does not
    refine iff_of_false (fun hread => ?_) (Option.some_ne_none p)
    have hend : 'T' ∈ trimChars p.2 := mem_trimChars (mem_of_cutChars_unitLine hcut) (by decide)
    have hchecksum : trimChars p.2 = checksum.toList := by
      rw [← hread]
      simp
    exact absurd (hhex 'T' (hchecksum ▸ hend)) (by decide)

example : headerChecksum? (header .record "schema sha256:" "0a") = some "- DO NOT EDIT" := by
  decide +kernel

/-- A name in which the words do not stand without their blank does not bring them in. -/
theorem not_isInfix_of_words {unit : List Char} (h : ¬"schema sha256:".toList <:+: unit) :
    ¬stampMark <:+: unit ++ [' '] := by
  have hmark : stampMark = "schema sha256:".toList ++ [' '] := rfl
  rw [hmark, List.infix_concat_iff, not_or]
  constructor
  · rintro ⟨lead, hlead⟩
    rw [← List.append_assoc] at hlead
    exact h ⟨lead, [], by rw [List.append_nil, List.append_cancel_right hlead]⟩
  · exact fun hin => h ((List.prefix_append _ _).isInfix.trans hin)

theorem contents_of_mem_artifacts {unit : SchemaUnit} {compiled : Compiled} {profile : Profile}
    {a : Artifact} (h : a ∈ unit.artifacts compiled profile) :
    ∃ body, a.contents = header a.kind unit.name unit.checksum ++ "\n" ++ body := by
  obtain ⟨kind, -, hkind⟩ := List.mem_filterMap.mp h
  obtain ⟨body, -, rfl⟩ := Option.map_eq_some_iff.mp hkind
  exact ⟨body, rfl⟩

/-- **What was stamped is read back.** If the name of a unit has no line feed and the words before a
checksum do not stand in it, the checksum is read back from every kind of artifact, whatever its
body is, and so from every artifact that is rendered. -/
theorem headerChecksum?_stamped {unit checksum : String} (hline : '\n' ∉ unit.toList)
    (hwords : ¬"schema sha256:".toList <:+: unit.toList) (hhex : IsLowerHex checksum) :
    (∀ kind body, headerChecksum? (header kind unit checksum ++ "\n" ++ body) = some checksum) ∧
      ∀ source compiled profile,
        ∀ a ∈ SchemaUnit.artifacts ⟨unit, source, checksum⟩ compiled profile,
          headerChecksum? a.contents = some checksum := by
  have hread : ∀ kind body,
      headerChecksum? (header kind unit checksum ++ "\n" ++ body) = some checksum :=
    fun kind body =>
      (headerChecksum?_header_iff kind body hline hhex).mpr (not_isInfix_of_words hwords)
  refine ⟨hread, fun source compiled profile a ha => ?_⟩
  obtain ⟨body, hbody⟩ := contents_of_mem_artifacts ha
  rw [hbody]
  exact hread a.kind body

/-- Checksums of texts have hexadecimal digits only. -/
theorem isLowerHex_checksum (text : String) : IsLowerHex (Digest.checksum text) := by
  have hdigit : ∀ n < 16, Nat.digitChar n ∈ lowerHexDigits := by decide
  intro c hc
  rw [Digest.checksum, Digest.hex, String.toList_ofList] at hc
  obtain ⟨b, -, hb⟩ := List.mem_flatMap.mp hc
  have hlt : b.toNat < 256 := b.toNat_lt
  rw [Digest.hexByte, List.mem_cons, List.mem_singleton] at hb
  rcases hb with rfl | rfl
  · exact hdigit _ (by omega)
  · exact hdigit _ (by omega)

/-- A name that ends just before the words are complete, in front of a body that has them too: the
checksum of the source is read back. -/
theorem headerChecksum?_stamped_pieces :
    '\n' ∉ "sha256: schema sha256".toList ∧
      ¬"schema sha256:".toList <:+: "sha256: schema sha256".toList ∧
      headerChecksum? (header .message "sha256: schema sha256" (Digest.checksum "id: int") ++
        "\n" ++ "// schema sha256: 00\n") = some (Digest.checksum "id: int") := by
  have hline : '\n' ∉ "sha256: schema sha256".toList := by decide
  have hwords : ¬"schema sha256:".toList <:+: "sha256: schema sha256".toList := by decide +kernel
  exact ⟨hline, hwords, (headerChecksum?_stamped hline hwords (isLowerHex_checksum _)).1 _ _⟩

end SchemaCompiler.Artifact
