import OnlineJudge.Judge.Classification
import OnlineJudge.Library.Erasure

/-!
# What scrubbing leaves of the compiler diagnostics

`scrub_compile_diagnostics` makes three passes over the diagnostics, one for each text
that would show the paths of the server. The source that is compiled is echoed in the
diagnostics, so nothing is known about their bytes.
-/

namespace OnlineJudge.Judge

open Library

variable {needle text workspacePath : Bytes}

/-- What must not be shown, in the order of the passes. -/
def internalPaths (workspacePath : Bytes) : List Bytes :=
  [workspacePath, Bytes.ofString "/.oj_sandbox", Bytes.ofString "/box/"]

theorem ne_nil_of_mem_internalPaths (nonempty : workspacePath ≠ [])
    (mem : needle ∈ internalPaths workspacePath) : needle ≠ [] := by
  simp only [internalPaths, List.mem_cons, List.not_mem_nil, or_false] at mem
  rcases mem with rfl | rfl | rfl
  · exact nonempty
  · decide
  · decide

theorem eraseAllFrom_eq_pass (needle : Bytes) (skipped : ℕ) (text : Bytes) :
    eraseAllFrom needle skipped text = Erasure.pass needle skipped text := by
  fun_induction Erasure.pass needle skipped text with
  | case1 skipped => cases skipped <;> rfl
  | case2 skipped byte text ih => simpa [eraseAllFrom] using ih
  | case3 byte text found ih => simpa [eraseAllFrom, found] using ih
  | case4 byte text absent ih => simpa [eraseAllFrom, absent] using ih

theorem scrubCompileDiagnostics_eq_passes (nonempty : workspacePath ≠ []) (text : Bytes) :
    scrubCompileDiagnostics text workspacePath =
      Erasure.passes (internalPaths workspacePath) text := by
  have sandbox : Bytes.ofString "/.oj_sandbox" ≠ [] := by decide
  have box : Bytes.ofString "/box/" ≠ [] := by decide
  simp [internalPaths, scrubCompileDiagnostics, eraseAll, nonempty, sandbox, box,
    eraseAllFrom_eq_pass]

/-- Diagnostics in which no beginning of one of the three texts stands right before one of them
are scrubbed completely, and once and for all. -/
theorem scrubbed_of_undisturbed (nonempty : workspacePath ≠ [])
    (undisturbed : Erasure.Undisturbed (internalPaths workspacePath) text) :
    (∀ needle ∈ internalPaths workspacePath,
      ¬needle <:+: scrubCompileDiagnostics text workspacePath) ∧
    scrubCompileDiagnostics (scrubCompileDiagnostics text workspacePath) workspacePath =
      scrubCompileDiagnostics text workspacePath := by
  have absent : ∀ needle ∈ internalPaths workspacePath,
      ¬needle <:+: scrubCompileDiagnostics text workspacePath := by
    intro needle mem
    rw [scrubCompileDiagnostics_eq_passes nonempty]
    exact undisturbed.absent_of_passes (fun _ => ne_nil_of_mem_internalPaths nonempty)
      (List.Subset.refl _) mem (.inl mem)
  refine ⟨absent, ?_⟩
  rw [scrubCompileDiagnostics_eq_passes nonempty (scrubCompileDiagnostics text workspacePath)]
  exact Erasure.passes_eq_self absent

theorem scrubbed_of_undisturbed_path :
    scrubCompileDiagnostics (Bytes.ofString "/w/.oj_sandbox/a.c: /box/b.h") (Bytes.ofString "/w") =
        Bytes.ofString "/a.c: b.h" ∧
      ¬Bytes.ofString "/box/" <:+:
        scrubCompileDiagnostics (Bytes.ofString "/w/.oj_sandbox/a.c: /box/b.h")
          (Bytes.ofString "/w") :=
  ⟨by decide, (scrubbed_of_undisturbed (by decide) (by decide +kernel)).1 _ (by decide)⟩

/-- The second pass, or the third, joins what stands around an occurrence to another one. -/
theorem scrubbing_joins_neighbours :
    ¬∀ text workspacePath : Bytes, workspacePath ≠ [] →
      ∀ needle ∈ internalPaths workspacePath,
        ¬needle <:+: scrubCompileDiagnostics text workspacePath := by
  intro claim
  have absent := claim (Bytes.ofString "/bo/box/x/") (Bytes.ofString "/tmp/oj") (by decide)
    (Bytes.ofString "/box/") (by decide)
  revert absent
  decide

end OnlineJudge.Judge
