/-
Overrides one on top of the other. Overrides that are applied in turn come to the same as all of
them put together and applied once, in which the later ones prevail. The way of confirming
transactions is the one setting that two of them decide: to wait for blocks outlasts any timeout,
whichever of the two comes first.
-/

import PerpDeploy.Settings.Basic

namespace PerpDeploy

namespace Overrides

/-- Both overrides as one. The later ones prevail, but nothing takes back a wait for blocks. -/
def andThen (first second : Overrides) : Overrides :=
  { chainId := second.chainId.or first.chainId
    nodeUrl := second.nodeUrl.or first.nodeUrl
    binary := second.binary.or first.binary
    keyringBackend := second.keyringBackend.or first.keyringBackend
    keyName := second.keyName.or first.keyName
    gasPrices := second.gasPrices.or first.gasPrices
    gasAdjustment := second.gasAdjustment.or first.gasAdjustment
    confirmationTimeout := second.confirmationTimeout.or first.confirmationTimeout
    noWait := first.noWait || second.noWait }

/-- All overrides of a history as one, the oldest first. -/
def together (history : List Overrides) : Overrides := history.foldr andThen none

theorem none_andThen (overrides : Overrides) : none.andThen overrides = overrides := by
  simp only [andThen, none, Option.or_none, Bool.false_or]

theorem andThen_none (overrides : Overrides) : overrides.andThen none = overrides := by
  simp only [andThen, none, Option.none_or, Bool.or_false]

theorem andThen_assoc (first second third : Overrides) :
    (first.andThen second).andThen third = first.andThen (second.andThen third) := by
  simp only [andThen, Option.or_assoc, Bool.or_assoc]

theorem andThen_self (overrides : Overrides) : overrides.andThen overrides = overrides := by
  simp only [andThen, Option.or_self, Bool.or_self]

theorem noWait_together (history : List Overrides) :
    (together history).noWait = history.any noWait := by
  induction history with
  | nil => rfl
  | cons first rest ih =>
      rw [List.any_cons, ← ih]
      rfl

/-- What is set counts, and what is not set stays as it is. Where there is polling in the end there
was polling before, at the same interval. -/
structure Settle (overrides : Overrides) (settings result : NetworkSettings) : Prop where
  chainId : result.chainId = overrides.chainId.getD settings.chainId
  nodeUrl : result.nodeUrl = overrides.nodeUrl.or settings.nodeUrl
  binary : result.binary = overrides.binary.getD settings.binary
  keyringBackend : result.keyringBackend = overrides.keyringBackend.getD settings.keyringBackend
  keyName : result.keyName = overrides.keyName.getD settings.keyName
  gasPrices : result.gasPrices = overrides.gasPrices.getD settings.gasPrices
  gasAdjustment : result.gasAdjustment = overrides.gasAdjustment.getD settings.gasAdjustment
  block : result.confirmation = .block ↔
    settings.confirmation = .block ∨ overrides.noWait = true
  poll : ∀ timeout interval, result.confirmation = .poll timeout interval ↔
    overrides.noWait = false ∧ ∃ before, settings.confirmation = .poll before interval ∧
      overrides.confirmationTimeout.getD before = timeout

end Overrides

namespace NetworkSettings

open Overrides (together)

theorem withOverrides_none (settings : NetworkSettings) :
    settings.withOverrides .none = settings := by
  obtain ⟨chainId, nodeUrl, binary, keyringBackend, keyName, gasPrices, gasAdjustment,
    confirmation⟩ := settings
  cases confirmation <;> rfl

/-! ### The way of confirming -/

theorem overrideConfirmation_eq_block_iff (overrides : Overrides) (confirmation : Confirmation) :
    overrideConfirmation overrides confirmation = .block ↔
      confirmation = .block ∨ overrides.noWait = true := by
  unfold overrideConfirmation
  cases waits : overrides.noWait with
  | true => simp
  | false =>
      cases confirmation with
      | block => simp
      | poll timeout interval => cases overrides.confirmationTimeout <;> simp

theorem overrideConfirmation_eq_poll_iff (overrides : Overrides) (confirmation : Confirmation)
    (timeout interval : Nat) :
    overrideConfirmation overrides confirmation = .poll timeout interval ↔
      overrides.noWait = false ∧ ∃ before, confirmation = .poll before interval ∧
        overrides.confirmationTimeout.getD before = timeout := by
  unfold overrideConfirmation
  cases waits : overrides.noWait with
  | true => simp
  | false =>
      cases confirmation with
      | block => simp
      | poll before interval => cases overrides.confirmationTimeout <;> simp [and_comm]

/-- Of two timeouts the later one counts; between a timeout and a wait for blocks the order does
not matter. -/
theorem overrideConfirmation_andThen (first second : Overrides) (confirmation : Confirmation) :
    overrideConfirmation second (overrideConfirmation first confirmation) =
      overrideConfirmation (first.andThen second) confirmation := by
  have waits : (first.andThen second).noWait = (first.noWait || second.noWait) := rfl
  have timeout : (first.andThen second).confirmationTimeout =
      second.confirmationTimeout.or first.confirmationTimeout := rfl
  unfold overrideConfirmation
  rw [waits, timeout]
  cases second.noWait with
  | true => cases first.noWait <;> rfl
  | false =>
      cases first.noWait with
      | true => cases second.confirmationTimeout <;> rfl
      | false =>
          cases confirmation with
          | block => cases first.confirmationTimeout <;> cases second.confirmationTimeout <;> rfl
          | poll before interval =>
              cases first.confirmationTimeout <;> cases second.confirmationTimeout <;> rfl

/-! ### All settings -/

theorem withOverrides_withOverrides (settings : NetworkSettings) (first second : Overrides) :
    (settings.withOverrides first).withOverrides second =
      settings.withOverrides (first.andThen second) := by
  simp only [withOverrides, overrideConfirmation_andThen, Overrides.andThen, Option.getD_or,
    Option.or_assoc]

theorem settle_withOverrides (settings : NetworkSettings) (overrides : Overrides) :
    overrides.Settle settings (settings.withOverrides overrides) where
  chainId := rfl
  nodeUrl := rfl
  binary := rfl
  keyringBackend := rfl
  keyName := rfl
  gasPrices := rfl
  gasAdjustment := rfl
  block := overrideConfirmation_eq_block_iff overrides settings.confirmation
  poll := overrideConfirmation_eq_poll_iff overrides settings.confirmation

/-- A history of overrides is as good as all of them together. -/
theorem foldl_withOverrides (settings : NetworkSettings) (history : List Overrides) :
    history.foldl withOverrides settings = settings.withOverrides (together history) := by
  induction history generalizing settings with
  | nil => exact settings.withOverrides_none.symm
  | cons first rest ih =>
      rw [List.foldl_cons, ih, withOverrides_withOverrides]
      rfl

/-- Overrides act on settings as a monoid, and applying them a second time adds nothing. After a
history of them blocks are waited for if they were from the start or one of the overrides has asked
for it, in whatever place. -/
theorem withOverrides_acts (settings : NetworkSettings) :
    (∀ first second third : Overrides,
      (first.andThen second).andThen third = first.andThen (second.andThen third)) ∧
    (∀ overrides : Overrides,
      Overrides.none.andThen overrides = overrides ∧ overrides.andThen .none = overrides) ∧
    settings.withOverrides .none = settings ∧
    (∀ first second, (settings.withOverrides first).withOverrides second =
      settings.withOverrides (first.andThen second)) ∧
    (∀ overrides, (settings.withOverrides overrides).withOverrides overrides =
      settings.withOverrides overrides) ∧
    (∀ overrides : Overrides, overrides.Settle settings (settings.withOverrides overrides)) ∧
    ∀ history : List Overrides,
      (history.foldl withOverrides settings).confirmation = .block ↔
        settings.confirmation = .block ∨ ∃ overrides ∈ history, overrides.noWait = true := by
  refine ⟨Overrides.andThen_assoc,
    fun overrides => ⟨overrides.none_andThen, overrides.andThen_none⟩, settings.withOverrides_none,
    settings.withOverrides_withOverrides, fun overrides => ?_, settings.settle_withOverrides,
    fun history => ?_⟩
  · rw [withOverrides_withOverrides, Overrides.andThen_self]
  · rw [foldl_withOverrides, ← List.any_eq_true, ← Overrides.noWait_together]
    exact overrideConfirmation_eq_block_iff (together history) settings.confirmation

end NetworkSettings

end PerpDeploy
