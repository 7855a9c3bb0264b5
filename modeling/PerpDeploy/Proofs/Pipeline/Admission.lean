/-
What the check of a pipeline says about its steps. A step is admitted when all that it
depends on is deployed and it deploys nothing that is there already; a pipeline is refused
at its first step that is not admitted.
-/

import PerpDeploy.Pipeline.Basic

namespace PerpDeploy

namespace Step

/-- The contracts that a step adds to those that are deployed. -/
def deploys (step : Step) : List ContractName :=
  if step.kind = .deploy then [step.contract] else []

structure Admitted (deployed : List ContractName) (step : Step) : Prop where
  depends : ∀ name ∈ step.dependencies, name ∈ deployed
  fresh : step.kind = .deploy → step.contract ∉ deployed

theorem references_subset_dependencies (step : Step) :
    ∀ name ∈ step.payload.references, name ∈ step.dependencies := by
  intro name referred
  unfold dependencies
  by_cases direct : step.kind = .deploy ∨ step.contract ∈ step.payload.references
  · simpa only [if_pos direct] using referred
  · simp only [if_neg direct, List.mem_cons]
    exact Or.inr referred

/-- A step that deploys nothing depends on the contract that it addresses. -/
theorem contract_mem_dependencies {step : Step} (addressed : step.kind ≠ .deploy) :
    step.contract ∈ step.dependencies := by
  unfold dependencies
  by_cases direct : step.kind = .deploy ∨ step.contract ∈ step.payload.references
  · simpa only [if_pos direct] using direct.resolve_left addressed
  · simp only [if_neg direct, List.mem_cons, true_or]

theorem mem_dependencies {step : Step} {name : ContractName} (needed : name ∈ step.dependencies) :
    name ∈ step.payload.references ∨ step.kind ≠ .deploy ∧ name = step.contract := by
  unfold dependencies at needed
  by_cases direct : step.kind = .deploy ∨ step.contract ∈ step.payload.references
  · exact Or.inl (by simpa only [if_pos direct] using needed)
  · simp only [if_neg direct, List.mem_cons] at needed
    rcases needed with same | referred
    · exact Or.inr ⟨fun deploying => direct (Or.inl deploying), same⟩
    · exact Or.inl referred

end Step

namespace Pipeline

def secondTime (step : Step) : Failure :=
  .configuration ("step '" ++ step.label ++ "' deploys " ++ step.contract.text ++ " a second time")

private theorem find?_missing_eq_none_iff (deployed needed : List ContractName) :
    needed.find? (fun name => !deployed.contains name) = none ↔
      ∀ name ∈ needed, name ∈ deployed := by
  simp only [List.find?_eq_none, List.contains_eq_mem, Bool.not_eq_true', Bool.not_eq_false,
    decide_eq_true_eq]

theorem admitStep_of_admitted {deployed : List ContractName} {step : Step}
    (admitted : step.Admitted deployed) :
    admitStep deployed step = .ok (deployed ++ step.deploys) := by
  unfold admitStep Step.deploys
  rw [(find?_missing_eq_none_iff deployed step.dependencies).mpr admitted.depends]
  by_cases deploying : step.kind = .deploy
  · simp only [if_pos deploying, if_neg (admitted.fresh deploying)]
  · simp only [if_neg deploying, List.append_nil]

/-- A step is refused for the first contract that it lacks, or for one that it deploys again. -/
theorem admitStep_eq_error_iff (deployed : List ContractName) (step : Step) (failure : Failure) :
    admitStep deployed step = .error failure ↔
      (∃ met name others, step.dependencies = met ++ name :: others ∧
        (∀ other ∈ met, other ∈ deployed) ∧ name ∉ deployed ∧
        failure = .unknownContract name (some step.label)) ∨
      (∀ name ∈ step.dependencies, name ∈ deployed) ∧ step.kind = .deploy ∧
        step.contract ∈ deployed ∧ failure = secondTime step := by
  unfold admitStep
  cases found : step.dependencies.find? (fun name => !deployed.contains name) with
  | some missing =>
      obtain ⟨lacking, front, back, split, before⟩ := List.find?_eq_some_iff_append.mp found
      simp only [List.contains_eq_mem, Bool.not_eq_true', decide_eq_false_iff_not] at lacking
      simp only [List.contains_eq_mem, Bool.not_not, decide_eq_true_eq] at before
      constructor
      · intro refused
        cases refused
        exact Or.inl ⟨front, missing, back, split, before, lacking, rfl⟩
      · rintro (⟨met, name, others, needed, present, absent, rfl⟩ | ⟨complete, -⟩)
        · have first : (met ++ name :: others).find? (fun name => !deployed.contains name) =
              some name :=
            List.find?_eq_some_iff_append.mpr
              ⟨by simpa using absent, met, others, rfl, by simpa using present⟩
          rw [needed, first] at found
          cases found
          rfl
        · have among : missing ∈ step.dependencies := List.mem_of_find?_eq_some found
          exact absurd (complete missing among) lacking
  | none =>
      have complete := (find?_missing_eq_none_iff deployed step.dependencies).mp found
      constructor
      · intro refused
        by_cases deploying : step.kind = .deploy
        · by_cases present : step.contract ∈ deployed
          · simp only [if_pos deploying, if_pos present] at refused
            cases refused
            exact Or.inr ⟨complete, deploying, present, rfl⟩
          · simp only [if_pos deploying, if_neg present] at refused
            cases refused
        · simp only [if_neg deploying] at refused
          cases refused
      · rintro (⟨met, name, others, needed, -, absent, -⟩ | ⟨-, deploying, present, rfl⟩)
        · refine absurd (complete name ?_) absent
          rw [needed]
          exact List.mem_append_right met List.mem_cons_self
        · simp only [if_pos deploying, if_pos present]
          rfl

theorem admitStep_refused {deployed : List ContractName} {step : Step} {failure : Failure}
    (refused : admitStep deployed step = .error failure) :
    (∃ missing ∈ step.dependencies, missing ∉ deployed ∧
      failure = .unknownContract missing (some step.label)) ∨
    (∀ name ∈ step.dependencies, name ∈ deployed) ∧ step.kind = .deploy ∧
      step.contract ∈ deployed ∧ failure = secondTime step := by
  rcases (admitStep_eq_error_iff deployed step failure).mp refused with
    ⟨met, name, others, needed, -, absent, told⟩ | twice
  · refine Or.inl ⟨name, ?_, absent, told⟩
    rw [needed]
    exact List.mem_append_right met List.mem_cons_self
  · exact Or.inr twice

theorem admitted_of_admitStep {deployed next : List ContractName} {step : Step}
    (accepted : admitStep deployed step = .ok next) :
    step.Admitted deployed ∧ next = deployed ++ step.deploys := by
  have admitted : step.Admitted deployed := by
    unfold admitStep at accepted
    cases found : step.dependencies.find? (fun name => !deployed.contains name) with
    | some missing =>
        rw [found] at accepted
        cases accepted
    | none =>
        rw [found] at accepted
        refine ⟨(find?_missing_eq_none_iff deployed step.dependencies).mp found, ?_⟩
        intro deploying present
        simp only [if_pos deploying, if_pos present] at accepted
        cases accepted
  rw [admitStep_of_admitted admitted] at accepted
  exact ⟨admitted, (Except.ok.inj accepted).symm⟩

theorem admitSteps_cons_iff (deployed : List ContractName) (step : Step) (rest : List Step) :
    admitSteps deployed (step :: rest) = .ok () ↔
      step.Admitted deployed ∧ admitSteps (deployed ++ step.deploys) rest = .ok () := by
  constructor
  · intro accepted
    unfold admitSteps at accepted
    cases one : admitStep deployed step with
    | error failure =>
        rw [one] at accepted
        cases accepted
    | ok next =>
        rw [one] at accepted
        obtain ⟨admitted, rfl⟩ := admitted_of_admitStep one
        exact ⟨admitted, accepted⟩
  · rintro ⟨admitted, accepted⟩
    simp only [admitSteps, admitStep_of_admitted admitted]
    exact accepted

/-- A refused pipeline has a first step that is not admitted, and is refused for that step. -/
theorem admitSteps_refused {deployed : List ContractName} {steps : List Step} {failure : Failure}
    (refused : admitSteps deployed steps = .error failure) :
    ∃ passed step later, steps = passed ++ step :: later ∧
      admitSteps deployed passed = .ok () ∧
      admitStep (deployed ++ passed.flatMap Step.deploys) step = .error failure := by
  induction steps generalizing deployed with
  | nil => cases refused
  | cons step rest ih =>
      unfold admitSteps at refused
      cases one : admitStep deployed step with
      | error found =>
          rw [one] at refused
          cases refused
          exact ⟨[], step, rest, rfl, rfl, by simpa using one⟩
      | ok next =>
          rw [one] at refused
          obtain ⟨admitted, rfl⟩ := admitted_of_admitStep one
          obtain ⟨passed, last, later, rfl, accepted, stopped⟩ := ih refused
          refine ⟨step :: passed, last, later, rfl, ?_, ?_⟩
          · exact (admitSteps_cons_iff deployed step passed).mpr ⟨admitted, accepted⟩
          · simpa only [List.flatMap_cons, List.append_assoc] using stopped

theorem admitSteps_append_refused {deployed : List ContractName} {passed : List Step}
    (accepted : admitSteps deployed passed = .ok ()) {step : Step} {failure : Failure}
    (refused : admitStep (deployed ++ passed.flatMap Step.deploys) step = .error failure)
    (later : List Step) :
    admitSteps deployed (passed ++ step :: later) = .error failure := by
  induction passed generalizing deployed with
  | nil =>
      rw [List.flatMap_nil, List.append_nil] at refused
      simp only [List.nil_append, admitSteps, refused]
  | cons first rest ih =>
      obtain ⟨admitted, onward⟩ := (admitSteps_cons_iff deployed first rest).mp accepted
      rw [List.flatMap_cons, ← List.append_assoc] at refused
      simp only [List.cons_append, admitSteps, admitStep_of_admitted admitted]
      exact ih onward refused

theorem deployedContracts_eq (pipeline : Pipeline) :
    pipeline.deployedContracts = pipeline.steps.flatMap Step.deploys := by
  unfold deployedContracts
  induction pipeline.steps with
  | nil => rfl
  | cons step rest ih =>
      rw [List.flatMap_cons, ← ih, Step.deploys]
      cases kind : step.kind <;> simp [kind]

/-- The pipeline of a profile is in order whatever its topology. -/
theorem validate_forProfile (profile : Profile) : (forProfile profile).validate = .ok () := by
  unfold validate forProfile feeCollector
  cases profile.topology.feePool <;> cases profile.topology.registersVamm <;>
    cases profile.topology.registersBeneficiary <;> rfl

end Pipeline

end PerpDeploy
