import SchemaCompiler.Diagnostic

/-!
# Clean diagnostics

A list of diagnostics is *clean* when there is no error in it; warnings may be there. The builders
of schemas only ever add diagnostics, so if what they report in the end is clean, it was clean all
along (`SchemaCompiler.Diagnostics.Clean.of_prefix`), and each branch that reports an error is
ruled out (`not_clean_cons`).
-/

namespace SchemaCompiler.Diagnostics

/-- There is no error among the diagnostics. -/
def Clean (ds : List Diagnostic) : Prop :=
  ∀ d ∈ ds, d.isError = false

theorem clean_of_hasErrors {ds : List Diagnostic} (h : hasErrors ds = false) : Clean ds := by
  intro d hd
  rw [hasErrors, List.any_eq_false] at h
  exact Bool.eq_false_iff.mpr (h d hd)

theorem clean_append {ds es : List Diagnostic} : Clean (ds ++ es) ↔ Clean ds ∧ Clean es :=
  List.forall_mem_append

theorem not_clean_cons {d : Diagnostic} {ds : List Diagnostic} (h : d.isError = true) :
    ¬Clean (d :: ds) := by
  intro hclean
  rw [hclean d List.mem_cons_self] at h
  cases h

theorem Clean.of_prefix {ds es : List Diagnostic} (h : ds <+: es) (hclean : Clean es) : Clean ds :=
  fun d hd => hclean d (h.subset hd)

end SchemaCompiler.Diagnostics
