import ModelScribe.OrderCheck.Samples
import ModelScribe.Proofs.OrderCheck.Acceptance

/-! # Verdicts

The order check passes every document with plain keys
(`ModelScribe.OrderCheck.verdict_eq`). The samples are such documents, so the check
of all samples exits with zero.
-/

namespace ModelScribe.OrderCheck

/-- The verdict on an object with plain keys: its module passes, with the number of its models. -/
theorem verdict_eq (label : String) {members : List (String × Json)} (convention : Convention)
    (plainKeys : ∀ object, Json.Modelled members object →
      ∀ member ∈ object, IsPlainName member.1) :
    let count := (Registry.ofRoot sampleRoot (.object members)).size
    verdict label (.object members) convention =
      ⟨"✅ " ++ (label ++ " (" ++ convention.label ++ "): ") ++ toString count ++ " declarations\n",
        true⟩ := by
  intro count
  have plainRoot : IsPlainName sampleRoot := by decide
  obtain ⟨lines, last, nonempty, joined, passes⟩ :=
    passes_execute convention none true .standard plainRoot plainKeys
  have accepted := (passes.check nonempty joined).1
  have counted : (Registry.ofRoot sampleRoot (.object members)).names.length = count :=
    List.length_map _
  have checked : check ((ModulePlan.new convention).withImport.define sampleRoot
      (.object members)).execute = .ok count :=
    accepted.trans (congrArg Except.ok counted)
  rw [verdict, checked]

/-- Each sample is an object with plain keys. -/
theorem exists_plain_of_mem_samples : ∀ sample ∈ samples, ∃ members, sample.2 = .object members ∧
    ∀ object ∈ Json.modelled (.object members), ∀ member ∈ object, IsPlainName member.1 := by
  unfold samples
  iterate 6 refine List.forall_mem_cons.mpr ⟨⟨_, rfl, by decide⟩, ?_⟩
  exact List.forall_mem_nil _

/-- Checking all samples succeeds. -/
theorem exitCode_eq_zero : exitCode = 0 := by
  have passed : verdicts.all Verdict.passed = true := by
    rw [List.all_eq_true]
    intro verdict among
    obtain ⟨⟨label, document⟩, sampled, among⟩ := List.mem_flatMap.mp among
    obtain ⟨convention, -, rfl⟩ := List.mem_map.mp among
    obtain ⟨members, same, plain⟩ := exists_plain_of_mem_samples _ sampled
    obtain rfl : document = .object members := same
    rw [verdict_eq label convention fun object modelled => plain object modelled.mem_modelled]
  rw [exitCode, if_pos passed]

end ModelScribe.OrderCheck
