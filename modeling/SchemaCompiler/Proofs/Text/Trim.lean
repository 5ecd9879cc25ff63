import Mathlib.Data.List.DropRight
import SchemaCompiler.Text.Blank

/-!
# Trimming

Trimming drops the blank characters at both ends and nothing else, so a second trimming finds
nothing to drop: `SchemaCompiler.Text.trim_trim`. Content is trimmed every time it is read, and this
is why reading it again does not change it.

What trimming leaves can be said without saying how it is found: blanks stand around it, and it
neither starts nor ends with one (`SchemaCompiler.Text.Trims`). Of every text there is exactly one
such rest, and trimming leaves it (`SchemaCompiler.Text.trimChars_eq_iff`).
-/

namespace SchemaCompiler.Text

/-- Dropping from the end is the library's operation of that name. -/
theorem dropEndWhile_eq_rdropWhile (p : Char → Bool) (cs : List Char) :
    dropEndWhile p cs = cs.rdropWhile p := rfl

/-- A start of what is left after dropping has the same first character, and so does not start with
a dropped one. -/
theorem dropWhile_of_isPrefix {p : Char → Bool} {cs start : List Char}
    (h : start <+: cs.dropWhile p) : start.dropWhile p = start := by
  rw [List.dropWhile_eq_self_iff]
  intro hpos
  have hne : cs.dropWhile p ≠ [] := List.ne_nil_of_length_pos (hpos.trans_le h.length_le)
  have hfirst : start[0] = (cs.dropWhile p).head hne := by
    rw [List.head_eq_getElem]
    exact h.getElem hpos
  rw [hfirst, List.head_dropWhile_not p hne]
  exact Bool.false_ne_true

theorem trimChars_isPrefix (cs : List Char) : trimChars cs <+: cs.dropWhile isBlank :=
  List.rdropWhile_prefix isBlank _

/-- Trimming adds no character. -/
theorem trimChars_sublist (cs : List Char) : (trimChars cs).Sublist cs :=
  (trimChars_isPrefix cs).sublist.trans (List.dropWhile_sublist isBlank)

theorem trimStart_trimEnd_sublist (s : String) :
    (trimStart (trimEnd s)).toList.Sublist s.toList := by
  rw [trimStart, trimEnd, String.toList_ofList, String.toList_ofList]
  exact (List.dropWhile_sublist isBlank).trans (List.rdropWhile_prefix isBlank _).sublist

/-- A start of a trimmed text is trimmed at its end only. -/
theorem trimChars_of_isPrefix {cs start : List Char} (h : start <+: trimChars cs) :
    trimChars start = dropEndWhile isBlank start := by
  rw [trimChars, dropWhile_of_isPrefix (h.trans (trimChars_isPrefix cs))]

/-- **Trimming twice is trimming once.** -/
theorem trimChars_trimChars (cs : List Char) : trimChars (trimChars cs) = trimChars cs := by
  rw [trimChars_of_isPrefix (List.prefix_rfl), trimChars, dropEndWhile_eq_rdropWhile,
    dropEndWhile_eq_rdropWhile, List.rdropWhile_idempotent]

@[simp] theorem toList_trim (s : String) : (trim s).toList = trimChars s.toList := by
  simp [trim]

/-- **Trimming a text twice is trimming it once.** -/
@[simp] theorem trim_trim (s : String) : trim (trim s) = trim s := by
  rw [trim, toList_trim, trimChars_trimChars, trim]

/-- A list without blank characters is not changed by trimming. -/
theorem trimChars_eq_self {cs : List Char} (h : ∀ c ∈ cs, isBlank c = false) :
    trimChars cs = cs := by
  have hstart : cs.dropWhile isBlank = cs := by
    rw [List.dropWhile_eq_self_iff]
    intro hpos
    simp [h _ (List.getElem_mem hpos)]
  rw [trimChars, hstart, dropEndWhile_eq_rdropWhile, List.rdropWhile_eq_self_iff]
  intro hne
  simp [h _ (List.getLast_mem hne)]

/-- A text without blank characters is not changed by trimming. -/
theorem trim_eq_self {s : String} (h : ∀ c ∈ s.toList, isBlank c = false) : trim s = s := by
  rw [trim, trimChars_eq_self h, String.ofList_toList]

/-! ### What trimming leaves -/

theorem dropWhile_eq_self_iff {p : Char → Bool} {cs : List Char} :
    cs.dropWhile p = cs ↔ ∀ c ∈ cs.head?, p c = false := by
  cases cs with
  | nil => simp
  | cons c rest => simp [List.dropWhile_eq_self_iff]

theorem dropEndWhile_eq_self_iff {p : Char → Bool} {cs : List Char} :
    dropEndWhile p cs = cs ↔ ∀ c ∈ cs.getLast?, p c = false := by
  rw [dropEndWhile, List.reverse_eq_iff, dropWhile_eq_self_iff, List.head?_reverse]

/-- **What is left of a text without the blanks around it**: only blanks stand before and behind it,
and it neither starts nor ends with one. -/
structure Trims (cs core : List Char) : Prop where
  /-- Only blanks stand around it. -/
  around : ∃ lead trail, cs = lead ++ core ++ trail ∧ (∀ c ∈ lead, isBlank c = true) ∧
    ∀ c ∈ trail, isBlank c = true
  /-- It does not start with a blank. -/
  start : ∀ c ∈ core.head?, isBlank c = false
  /-- It does not end with a blank. -/
  stop : ∀ c ∈ core.getLast?, isBlank c = false

theorem trims_trimChars (cs : List Char) : Trims cs (trimChars cs) where
  around := by
    refine ⟨cs.takeWhile isBlank, (cs.dropWhile isBlank).rtakeWhile isBlank, ?_,
      fun c hc => List.mem_takeWhile_imp hc, fun c hc => List.mem_rtakeWhile_imp hc⟩
    rw [trimChars, dropEndWhile_eq_rdropWhile, List.append_assoc,
      List.rdropWhile_append_rtakeWhile, List.takeWhile_append_dropWhile]
  start := dropWhile_eq_self_iff.mp (dropWhile_of_isPrefix (trimChars_isPrefix cs))
  stop := dropEndWhile_eq_self_iff.mp (List.rdropWhile_idempotent isBlank _)

/-- Trimming drops no character that is not blank. -/
theorem mem_trimChars {cs : List Char} {c : Char} (hc : c ∈ cs) (hblank : isBlank c = false) :
    c ∈ trimChars cs := by
  obtain ⟨lead, trail, hcs, hlead, htrail⟩ := (trims_trimChars cs).around
  have hnot : isBlank c ≠ true := Bool.eq_false_iff.mp hblank
  rw [hcs, List.mem_append, List.mem_append] at hc
  exact (hc.resolve_right fun h => hnot (htrail c h)).resolve_left fun h => hnot (hlead c h)

/-- **There is only one such rest**, and trimming leaves it. -/
theorem trimChars_eq_iff {cs core : List Char} : trimChars cs = core ↔ Trims cs core := by
  constructor
  · rintro rfl
    exact trims_trimChars cs
  · rintro ⟨⟨lead, trail, rfl, hlead, htrail⟩, hstart, hstop⟩
    have htrail' : ∀ c ∈ trail.reverse, isBlank c = true := fun c hc =>
      htrail c (List.mem_reverse.mp hc)
    rw [trimChars, List.append_assoc, List.dropWhile_append_of_pos hlead]
    cases core with
    | nil => rw [List.nil_append, List.dropWhile_eq_nil_iff.mpr htrail]; rfl
    | cons c rest =>
      have hfirst : isBlank c = false := hstart c rfl
      rw [List.cons_append, List.dropWhile_cons_of_neg (by rw [hfirst]; exact Bool.false_ne_true),
        ← List.cons_append, dropEndWhile, List.reverse_append,
        List.dropWhile_append_of_pos htrail', ← dropEndWhile, dropEndWhile_eq_self_iff.mpr hstop]

/-- What is said of the rest of a text is said of the text when it is trimmed. -/
theorem exists_trims_iff {P : List Char → Prop} {s : String} :
    (∃ core, Trims s.toList core ∧ P core) ↔ P (trim s).toList := by
  rw [toList_trim]
  constructor
  · rintro ⟨core, htrims, h⟩
    rwa [trimChars_eq_iff.mpr htrims]
  · exact fun h => ⟨_, trims_trimChars _, h⟩

end SchemaCompiler.Text
