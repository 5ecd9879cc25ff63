import SchemaCompiler.Proofs.Text.Trim
import SchemaCompiler.Proofs.Text.Utf8

/-!
# Where a text is cut

A text that is too long is cut between two characters: what is kept fits, and the next character
would not fit behind it (`SchemaCompiler.Text.CutAt`). There is only one such place, and it is where
`SchemaCompiler.Text.takeBytes` cuts (`takeBytes_eq_iff`).

Trimming and cutting do not commute. A text that was trimmed and then cut may end in a blank again,
and it does exactly if the cut falls right behind one (`trim_truncate_trim_eq_iff`). Trimming it
once more drops the blanks at its end (`trim_truncate_trim`), and after that nothing is left to
trim or to cut (`truncate_trim_truncate`).
-/

namespace SchemaCompiler.Text

/-! ### Bytes -/

@[simp] theorem byteLength_cons (c : Char) (cs : List Char) :
    byteLength (c :: cs) = c.utf8Size + byteLength cs := rfl

/-- What is left of a text takes no more bytes. -/
theorem byteLength_le_of_sublist {cs ds : List Char} (h : cs.Sublist ds) :
    byteLength cs ≤ byteLength ds := by
  induction h with
  | slnil => exact le_rfl
  | cons d _ ih =>
    rw [byteLength_cons]
    omega
  | cons_cons d _ ih =>
    rw [byteLength_cons, byteLength_cons]
    omega

/-! ### The place of the cut -/

/-- **A text is cut between `kept` and `rest`**: the one fits, and the first character of the other
does not fit behind it. -/
structure CutAt (capacity : Nat) (kept rest : List Char) : Prop where
  /-- What is kept fits. -/
  fits : byteLength kept ≤ capacity
  /-- The next character does not fit. -/
  full : ∀ c ∈ rest.head?, capacity < byteLength kept + c.utf8Size

/-- One character that fits moves the place of the cut. -/
theorem cutAt_cons_iff {capacity : Nat} {c : Char} {kept rest : List Char}
    (hc : c.utf8Size ≤ capacity) :
    CutAt capacity (c :: kept) rest ↔ CutAt (capacity - c.utf8Size) kept rest := by
  constructor
  · rintro ⟨hfits, hfull⟩
    rw [byteLength_cons] at hfits
    refine ⟨by omega, fun d hd => ?_⟩
    have hd := hfull d hd
    rw [byteLength_cons] at hd
    omega
  · rintro ⟨hfits, hfull⟩
    refine ⟨by rw [byteLength_cons]; omega, fun d hd => ?_⟩
    have hd := hfull d hd
    rw [byteLength_cons]
    omega

/-- **A text is cut at the one place where it can be.** -/
theorem takeBytes_eq_iff {capacity : Nat} {cs kept : List Char} :
    takeBytes capacity cs = kept ↔ ∃ rest, cs = kept ++ rest ∧ CutAt capacity kept rest := by
  constructor
  · rintro rfl
    induction cs generalizing capacity with
    | nil => exact ⟨[], rfl, Nat.zero_le _, nofun⟩
    | cons c cs ih =>
      by_cases hc : c.utf8Size ≤ capacity
      · obtain ⟨rest, hcs, hcut⟩ := @ih (capacity - c.utf8Size)
        rw [takeBytes, if_pos hc]
        exact ⟨rest, by rw [List.cons_append, ← hcs], (cutAt_cons_iff hc).mpr hcut⟩
      · rw [takeBytes, if_neg hc]
        refine ⟨c :: cs, rfl, Nat.zero_le _, ?_⟩
        rintro d hd
        obtain rfl : c = d := Option.some.inj hd
        exact (Nat.lt_of_not_le hc).trans_le (Nat.le_add_left _ _)
  · rintro ⟨rest, rfl, hcut⟩
    induction kept generalizing capacity with
    | nil =>
      cases rest with
      | nil => rfl
      | cons c rest =>
        have hc : capacity < 0 + c.utf8Size := hcut.full c rfl
        rw [List.nil_append, takeBytes, if_neg (by omega)]
    | cons c kept ih =>
      have hc : c.utf8Size ≤ capacity := (Nat.le_add_right _ _).trans hcut.fits
      rw [List.cons_append, takeBytes, if_pos hc, ih ((cutAt_cons_iff hc).mp hcut)]

theorem takeBytes_isPrefix (capacity : Nat) (cs : List Char) : takeBytes capacity cs <+: cs := by
  obtain ⟨rest, hcs, -⟩ := takeBytes_eq_iff.mp (Eq.refl (takeBytes capacity cs))
  exact ⟨rest, hcs.symm⟩

/-- What fits is not cut. -/
theorem takeBytes_of_fits {capacity : Nat} {cs : List Char} (h : byteLength cs ≤ capacity) :
    takeBytes capacity cs = cs :=
  takeBytes_eq_iff.mpr ⟨[], (List.append_nil cs).symm, h, nofun⟩

/-! ### Cutting and trimming -/

@[simp] theorem toList_truncate (capacity : Nat) (s : String) :
    (truncate capacity s).toList = takeBytes capacity s.toList := by
  rw [truncate, String.toList_ofList]

/-- **The cut of a text falls right behind a blank.** -/
def CutBehindBlank (capacity : Nat) (s : String) : Prop :=
  ∃ kept blank rest, s.toList = kept ++ blank :: rest ∧ isBlank blank = true ∧
    CutAt capacity (kept ++ [blank]) rest

/-- A text that is cut ends in a blank exactly if the cut falls behind one. -/
theorem cutBehindBlank_iff {capacity : Nat} {s : String} :
    CutBehindBlank capacity s ↔
      ∃ hne : takeBytes capacity s.toList ≠ [],
        isBlank ((takeBytes capacity s.toList).getLast hne) = true := by
  constructor
  · rintro ⟨kept, blank, rest, hs, hblank, hcut⟩
    have htake : takeBytes capacity s.toList = kept ++ [blank] :=
      takeBytes_eq_iff.mpr ⟨rest, by rw [hs, List.append_assoc, List.singleton_append], hcut⟩
    have hne : takeBytes capacity s.toList ≠ [] := by
      rw [htake]
      exact List.append_ne_nil_of_right_ne_nil _ (List.cons_ne_nil _ _)
    refine ⟨hne, ?_⟩
    simpa only [htake, List.getLast_concat] using hblank
  · rintro ⟨hne, hblank⟩
    obtain ⟨rest, hs, hcut⟩ := takeBytes_eq_iff.mp (Eq.refl (takeBytes capacity s.toList))
    have hlast := List.dropLast_concat_getLast hne
    refine ⟨_, _, rest, ?_, hblank, hlast.symm ▸ hcut⟩
    rw [← List.singleton_append, ← List.append_assoc, hlast]
    exact hs

/-- **A trimmed text that is cut is trimmed at its end only.** -/
theorem trim_truncate_trim (capacity : Nat) (s : String) :
    trim (truncate capacity (trim s)) = trimEnd (truncate capacity (trim s)) := by
  have hstart : takeBytes capacity (trimChars s.toList) <+: trimChars s.toList :=
    takeBytes_isPrefix capacity _
  rw [trim, trimEnd, toList_truncate, toList_trim, trimChars_of_isPrefix hstart]

/-- **A trimmed text that is cut is still trimmed exactly if the cut does not fall behind a
blank.** -/
theorem trim_truncate_trim_eq_iff (capacity : Nat) (s : String) :
    trim (truncate capacity (trim s)) = truncate capacity (trim s) ↔
      ¬CutBehindBlank capacity (trim s) := by
  rw [trim_truncate_trim, cutBehindBlank_iff, not_exists, ← String.toList_inj, trimEnd,
    String.toList_ofList, toList_truncate, dropEndWhile_eq_rdropWhile, List.rdropWhile_eq_self_iff]

/-- **A text that was cut and then trimmed fits.** -/
theorem truncate_trim_truncate (capacity : Nat) (s : String) :
    truncate capacity (trim (truncate capacity s)) = trim (truncate capacity s) := by
  obtain ⟨_, _, hcut⟩ := takeBytes_eq_iff.mp (Eq.refl (takeBytes capacity s.toList))
  have hfits : byteLength (trimChars (takeBytes capacity s.toList)) ≤ capacity :=
    (byteLength_le_of_sublist (trimChars_sublist _)).trans hcut.fits
  rw [← String.toList_inj, toList_truncate, toList_trim, toList_truncate, takeBytes_of_fits hfits]

end SchemaCompiler.Text
