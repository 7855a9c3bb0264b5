/-
A working profile with a history. Whatever has been rendered on it before, with whatever
registries and whether or not it went well, a message is rendered on it as on the profile
itself, and rendering fails at the same contract.
-/

import PerpDeploy.Proofs.Pipeline.Rendering

namespace PerpDeploy

/-- A message that is asked for, and the contracts that are recorded at that moment. -/
structure Rendering where
  payload : Payload
  registry : Registry

namespace Profile

/-- The working profile after renderings one after the other. -/
def afterRenderings (working : Profile) : List Rendering → Profile
  | [] => working
  | rendering :: rest =>
      (rendering.payload.render working rendering.registry).1.afterRenderings rest

/-- The working profile is the profile but for the fields that a run fills in. -/
def FilledFrom (working profile : Profile) : Prop :=
  working =
    { profile with
      vammInit := { profile.vammInit with priceFeed := working.vammInit.priceFeed }
      engineInit :=
        { profile.engineInit with
          insuranceFund := working.engineInit.insuranceFund
          feePool := working.engineInit.feePool
          eligibleCollateral := working.engineInit.eligibleCollateral
          vamms := working.engineInit.vamms } }

theorem filledFrom_of_cleared_eq {working profile : Profile}
    (same : working.cleared = profile.cleared) : working.FilledFrom profile := by
  -- Putting back into both what clearing takes out gives the working profile on the left.
  have filled := congrArg
    (fun cleared : Profile =>
      { cleared with
        vammInit := { cleared.vammInit with priceFeed := working.vammInit.priceFeed }
        engineInit :=
          { cleared.engineInit with
            insuranceFund := working.engineInit.insuranceFund
            feePool := working.engineInit.feePool
            eligibleCollateral := working.engineInit.eligibleCollateral
            vamms := working.engineInit.vamms } }) same
  exact filled

theorem afterRenderings_cleared (working : Profile) (history : List Rendering) :
    (working.afterRenderings history).cleared = working.cleared := by
  induction history generalizing working with
  | nil => rfl
  | cons rendering rest ih =>
      have onward := ih (rendering.payload.render working rendering.registry).1
      exact onward.trans (rendering.payload.render_cleared working rendering.registry)

end Profile

namespace Payload

/-- Rendering gives the same on profiles that differ in nothing but what a run fills in. -/
theorem render_of_cleared_eq {working profile : Profile}
    (same : working.cleared = profile.cleared) (payload : Payload) (registry : Registry) :
    (payload.render working registry).2 = (payload.render profile registry).2 := by
  rw [render_eq, render_eq, message_of_cleared_eq same]

/-- Rendering fails for nothing but a contract that is referred to and not recorded. -/
theorem missing_of_render {payload : Payload} {working : Profile} {registry : Registry}
    {failure : Failure} (failed : (payload.render working registry).2 = .error failure) :
    ∃ missing ∈ payload.references, registry.contains missing = false ∧
      failure = .unknownContract missing none := by
  rw [render_eq, lookedUp] at failed
  cases found : payload.lookups.find? (fun name => name ∉ registry.names) with
  | none =>
      rw [found] at failed
      cases failed
  | some missing =>
      rw [found] at failed
      have among := List.mem_of_find?_eq_some found
      have absent : missing ∉ registry.names := by simpa using List.find?_some found
      exact ⟨missing, (mem_lookups_iff payload missing).mp among,
        (registry.not_contains_iff missing).mpr absent, (Except.error.inj failed).symm⟩

theorem render_ignores_history (profile : Profile) (history : List Rendering)
    (payload : Payload) (registry : Registry) :
    let working := profile.afterRenderings history
    let result := (payload.render working registry).2
    result = (payload.render profile registry).2 ∧
      working.FilledFrom profile ∧
      ((∃ failure, result = .error failure) ↔
        ∃ name ∈ payload.references, registry.contains name = false) ∧
      ∀ failure, result = .error failure →
        ∃ missing ∈ payload.references, registry.contains missing = false ∧
          failure = .unknownContract missing none := by
  intro working result
  have same := profile.afterRenderings_cleared history
  refine ⟨render_of_cleared_eq same payload registry, Profile.filledFrom_of_cleared_eq same,
    ⟨?_, ?_⟩, fun failure failed => missing_of_render failed⟩
  · rintro ⟨failure, failed⟩
    obtain ⟨missing, referred, unrecorded, _⟩ := missing_of_render failed
    exact ⟨missing, referred, unrecorded⟩
  · rintro ⟨name, referred, unrecorded⟩
    have absent := (registry.not_contains_iff name).mp unrecorded
    obtain ⟨missing, _, _, failed⟩ := render_of_missing referred absent working
    exact ⟨_, failed⟩

end Payload

end PerpDeploy
