/-
How many retries a wait has. They are counted in one word. With an interval of a second or more
there are never more of them than the timeout has seconds, so that the count is right; with no
interval at all there is one for each millisecond, and of a timeout with more milliseconds than a
word holds only a remainder is counted, which can be none.
-/

import PerpDeploy.Proofs.Chain.Inclusion

namespace PerpDeploy.Rpc

/-- As often as the interval fits into the timeout, both in seconds, where no interval counts as a
millisecond, and once at least. -/
def fittingRetries (timeout interval : Nat) : Nat :=
  max 1 (timeout * 1000 / max 1 (interval * 1000))

theorem retryAttempts_eq_mod (timeout interval : Nat) :
    retryAttempts (timeout * 1000) (interval * 1000) =
      fittingRetries timeout interval % Number.wordLimit := by
  rw [retryAttempts, fittingRetries, Nat.max_comm, Nat.max_comm (interval * 1000)]

theorem fittingRetries_of_no_interval (timeout : Nat) :
    fittingRetries timeout 0 = max 1 (timeout * 1000) := by
  rw [fittingRetries, Nat.zero_mul, Nat.max_eq_left (Nat.zero_le 1), Nat.div_one]

/-- The retries fit into a word, unless there is no interval between them and the timeout has more
milliseconds than a word. -/
theorem fittingRetries_lt_iff {timeout interval : Nat} (word : timeout < Number.wordLimit) :
    fittingRetries timeout interval < Number.wordLimit ↔
      0 < interval ∨ timeout * 1000 < Number.wordLimit := by
  have one : 1 < Number.wordLimit := by decide
  rcases Nat.eq_zero_or_pos interval with rfl | positive
  · rw [fittingRetries_of_no_interval]
    omega
  · have whole : max 1 (interval * 1000) = interval * 1000 := by omega
    have quotient : timeout * 1000 / (interval * 1000) = timeout / interval :=
      Nat.mul_div_mul_right timeout interval (by decide)
    have few : timeout / interval ≤ timeout := Nat.div_le_self timeout interval
    rw [fittingRetries, whole, quotient]
    omega

theorem retryAttempts_eq_fitting_iff {timeout interval : Nat}
    (word : timeout < Number.wordLimit) :
    retryAttempts (timeout * 1000) (interval * 1000) = fittingRetries timeout interval ↔
      0 < interval ∨ timeout * 1000 < Number.wordLimit := by
  rw [retryAttempts_eq_mod, Nat.mod_eq_iff_lt (by decide), fittingRetries_lt_iff word]

/-- A thousand is eight times an odd number: the milliseconds of a timeout fill whole words exactly
if its seconds are a multiple of an eighth of a word. -/
theorem wordLimit_dvd_milliseconds_iff (timeout : Nat) :
    Number.wordLimit ∣ timeout * 1000 ↔ Nat.pow 2 61 ∣ timeout := by
  have milliseconds : timeout * 1000 = timeout * 125 * 8 := by omega
  have word : Number.wordLimit = Nat.pow 2 61 * 8 := by decide
  rw [milliseconds, word, Nat.mul_dvd_mul_iff_right (by decide)]
  constructor
  · have odd : Nat.Coprime (Nat.pow 2 61) 125 := by decide
    exact odd.dvd_of_dvd_mul_right
  · intro seconds
    exact Nat.dvd_mul_right_of_dvd seconds 125

theorem retryAttempts_eq_zero_iff {timeout interval : Nat} (word : timeout < Number.wordLimit) :
    retryAttempts (timeout * 1000) (interval * 1000) = 0 ↔
      interval = 0 ∧ 0 < timeout ∧ Nat.pow 2 61 ∣ timeout := by
  have least : 1 ≤ fittingRetries timeout interval := Nat.le_max_left 1 _
  rcases Nat.eq_zero_or_pos interval with rfl | positive
  · rw [retryAttempts_eq_mod, fittingRetries_of_no_interval, ← Nat.dvd_iff_mod_eq_zero]
    rcases Nat.eq_zero_or_pos timeout with rfl | lasting
    · simp [Json.wordLimit_eq]
    · have milliseconds : max 1 (timeout * 1000) = timeout * 1000 := by omega
      rw [milliseconds, wordLimit_dvd_milliseconds_iff]
      simp [lasting]
  · have exact := (retryAttempts_eq_fitting_iff word).mpr (Or.inl positive)
    rw [exact]
    omega

/-- The number of retries is right, unless there is no interval and the timeout has more
milliseconds than a word holds. Of some of these timeouts nothing at all is left; but settings that
have been checked never have them. -/
theorem retryAttempts_exact_iff {timeout interval : Nat} (word : timeout < Number.wordLimit) :
    let retries := retryAttempts (timeout * 1000) (interval * 1000)
    (retries = fittingRetries timeout interval ↔
      0 < interval ∨ timeout * 1000 < Number.wordLimit) ∧
    (retries = 0 ↔ interval = 0 ∧ 0 < timeout ∧ Nat.pow 2 61 ∣ timeout) ∧
    1 ≤ fittingRetries timeout interval ∧
    ∀ settings nodeUrl, NetworkSettings.validate settings = .ok nodeUrl →
      settings.confirmation = .poll timeout interval →
      retries = fittingRetries timeout interval := by
  refine ⟨retryAttempts_eq_fitting_iff word, retryAttempts_eq_zero_iff word, Nat.le_max_left 1 _,
    ?_⟩
  intro settings nodeUrl valid polls
  obtain ⟨-, positive⟩ := settings.times_of_validate valid polls
  exact (retryAttempts_eq_fitting_iff word).mpr (Or.inl positive)

theorem retryAttempts_exact_iff_longest :
    let longest := Number.wordLimit - 1
    longest < Number.wordLimit ∧
    retryAttempts (longest * 1000) (1 * 1000) = fittingRetries longest 1 ∧
    retryAttempts (longest * 1000) (0 * 1000) ≠ fittingRetries longest 0 ∧
    ∃ nodeUrl, briefSettings.validate = .ok nodeUrl ∧
      retryAttempts (5 * 1000) (2 * 1000) = fittingRetries 5 2 := by
  have word : Number.wordLimit - 1 < Number.wordLimit := by decide
  have small : 5 < Number.wordLimit := by decide
  obtain ⟨nodeUrl, valid⟩ := briefSettings_valid
  exact ⟨word, (retryAttempts_exact_iff word).1.mpr (Or.inl (by decide)),
    fun same => absurd ((retryAttempts_exact_iff word).1.mp same) (by decide),
    nodeUrl, valid, (retryAttempts_exact_iff small).2.2.2 briefSettings nodeUrl valid rfl⟩

/-- Without a retry the node is asked once. -/
theorem waitForTransaction_unretried {url transaction : String} {hash : List UInt8}
    (reachable : Reachable url) (read : Codec.decodeHex transaction = .ok hash) {host : HttpHost}
    {timeout interval : Nat} (unretried : retryAttempts timeout interval = 0) {posted : Posted}
    {trail : Trail}
    (missed : outcome (host posted.length) = .error trail) :
    waitForTransaction host url transaction timeout interval posted =
      (.error (trail.within ("Timeout waiting for transaction " ++ transaction ++ " after " ++
        toString (timeout / 1000) ++ "s")), posted ++ [lookup url (lookupParams hash)]) := by
  have empty : included? (host posted.length) = none := by
    rw [included?_eq, missed]
    rfl
  have others : ∀ offset ≤ retryAttempts timeout interval,
      included? (host (posted.length + offset)) = none := by
    intro offset within
    rw [unretried, Nat.le_zero] at within
    rw [within, Nat.add_zero]
    exact empty
  have last : outcome (host (posted.length + retryAttempts timeout interval)) = .error trail := by
    rw [unretried]
    exact missed
  have once := waitForTransaction_missed reachable read others last
  rw [unretried] at once
  exact once

/-- With a timeout of this many seconds and no interval there should be retries without end, and
there is none: a node that tells of the transaction in its third answer is asked once. -/
theorem retries_wrapped_away :
    Nat.pow 2 61 < Number.wordLimit ∧
    retryAttempts (Nat.pow 2 61 * 1000) (0 * 1000) = 0 ∧
    fittingRetries (Nat.pow 2 61) 0 = 125 * Number.wordLimit ∧
    FirstInclusion reluctantHost 0 2 { code := 5, log := "out of gas", events := [] } ∧
    ∃ trail request,
      waitForTransaction reluctantHost "http://[::1]:26657" "00aB" (Nat.pow 2 61 * 1000)
        (0 * 1000) [] = (.error trail, [request]) := by
  have none : retryAttempts (Nat.pow 2 61 * 1000) (0 * 1000) = 0 := by decide
  have reachable : Reachable "http://[::1]:26657" :=
    reachable_of_scheme (by decide +kernel) (.inl rfl)
  have pairs : Codec.HexPairs "00aB" := ⟨by decide, List.all_eq_true.mp (by decide)⟩
  obtain ⟨hash, read⟩ := Codec.decodeHex_of_pairs pairs
  exact ⟨by decide, none, by decide, reluctantHost_first, _, _,
    waitForTransaction_unretried reachable read none rfl⟩

end PerpDeploy.Rpc
