import Mathlib.Data.List.Induction
import Mathlib.Data.List.Nodup

/-!
# First occurrences of names

Where a name may be declared once only, the first declaration counts and later ones are dropped. A
loop that does this carries the names that were seen. What it keeps of a list are the first
occurrences of the names that were not seen before, `(names.removeAll seen).eraseDups`, and the
lemmas here follow such a loop: from the end of the list (`eraseDups_concat_of_mem`,
`eraseDups_concat_of_notMem`) and from its start (`cons_removeAll_of_mem`,
`eraseDups_cons_removeAll_of_notMem`).

A look-up by name finds a first occurrence too. Where names do not repeat, it finds every item under
its own name (`find?_name_eq_some`).
-/

namespace SchemaCompiler

variable {names seen : List String} {name : String}

/-! ### From the end -/

theorem eraseDups_concat_of_mem (h : name ∈ names) :
    (names ++ [name]).eraseDups = names.eraseDups := by
  have hgone : [name].removeAll names = [] := by simp [List.cons_removeAll, h]
  rw [List.eraseDups_append, hgone, List.eraseDups_nil, List.append_nil]

theorem eraseDups_concat_of_notMem (h : name ∉ names) :
    (names ++ [name]).eraseDups = names.eraseDups ++ [name] := by
  have hstays : [name].removeAll names = [name] := by simp [List.cons_removeAll, h]
  rw [List.eraseDups_append, hstays]
  rfl

theorem nodup_eraseDups (names : List String) : names.eraseDups.Nodup := by
  induction names using List.reverseRecOn with
  | nil => exact List.nodup_nil
  | append_singleton names name ih =>
    by_cases h : name ∈ names
    · rwa [eraseDups_concat_of_mem h]
    · rw [eraseDups_concat_of_notMem h]
      refine ih.append (List.nodup_singleton _) fun other hother hlast => ?_
      rw [List.mem_singleton.mp hlast] at hother
      exact h (List.mem_eraseDups.mp hother)

theorem eraseDups_sublist (names : List String) : names.eraseDups.Sublist names := by
  induction names using List.reverseRecOn with
  | nil => exact List.Sublist.refl _
  | append_singleton names name ih =>
    by_cases h : name ∈ names
    · rw [eraseDups_concat_of_mem h]
      exact ih.trans (List.sublist_append_left _ _)
    · rw [eraseDups_concat_of_notMem h]
      exact ih.append_right [name]

/-! ### From the start -/

/-- A name that was seen is dropped. -/
theorem cons_removeAll_of_mem (h : name ∈ seen) (names : List String) :
    (name :: names).removeAll seen = names.removeAll seen := by
  rw [List.cons_removeAll, if_neg (by simpa using h)]

/-- A name that was not seen is kept, and is seen from there on. -/
theorem eraseDups_cons_removeAll_of_notMem (h : name ∉ seen) (names : List String) :
    ((name :: names).removeAll seen).eraseDups =
      name :: (names.removeAll (name :: seen)).eraseDups := by
  have hrest : names.removeAll (name :: seen) =
      (names.removeAll seen).filter (fun other => !other == name) := by
    rw [List.removeAll_cons, List.removeAll, List.removeAll, List.filter_filter,
      List.filter_filter]
    exact List.filter_congr fun other _ => Bool.and_comm _ _
  rw [List.cons_removeAll, if_pos (by simpa using h), List.eraseDups_cons, hrest]

/-- Only which names were seen matters, not how often or in which order. -/
theorem removeAll_congr {seen' : List String} (h : ∀ name, name ∈ seen ↔ name ∈ seen')
    (names : List String) : names.removeAll seen = names.removeAll seen' := by
  rw [List.removeAll, List.removeAll]
  refine List.filter_congr fun name _ => ?_
  have hsame : List.elem name seen = List.elem name seen' := by
    rw [Bool.eq_iff_iff, List.elem_iff, List.elem_iff, h]
  rw [hsame]

/-! ### Look-ups -/

/-- **An item is found under its own name**, if names do not repeat. -/
theorem find?_name_eq_some {α : Type} {nameOf : α → String} {items : List α}
    (hnames : (items.map nameOf).Nodup) {item : α} (h : item ∈ items) :
    items.find? (fun other => nameOf other == nameOf item) = some item := by
  have hsome : (items.find? (fun other => nameOf other == nameOf item)).isSome = true :=
    List.find?_isSome.mpr ⟨item, h, beq_self_eq_true (nameOf item)⟩
  obtain ⟨found, hfound⟩ := Option.isSome_iff_exists.mp hsome
  have hname := List.find?_some hfound
  rw [hfound, List.inj_on_of_nodup_map hnames (List.mem_of_find?_eq_some hfound) h
    (beq_iff_eq.mp hname)]

end SchemaCompiler
