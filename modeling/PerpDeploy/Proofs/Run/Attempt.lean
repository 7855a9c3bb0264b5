/-
A step of a run as the chain gets to see it: the step, the one request that it makes, and
the answer. What becomes of a step is read off its attempt, and a run is told by the
attempts that it consists of. Only runs over steps that are admitted are described here.
-/

import PerpDeploy.Proofs.Chain.Conversation
import PerpDeploy.Proofs.Pipeline.Admission
import PerpDeploy.Proofs.Pipeline.Rendering
import PerpDeploy.Run.Deployer

namespace PerpDeploy

def StepOutcome.record? : StepOutcome → Option ContractRecord
  | .deployed record => some record
  | _ => none

def StepOutcome.snapshot? : StepOutcome → Option Json
  | .queried answer => some answer
  | _ => none

inductive Attempt
  | deploy (step : Step) (message : Json) (reply : Except Trail DeployedContract)
  | execute (step : Step) (address : String) (message : Json)
      (reply : Except Trail ExecuteReceipt)
  | query (step : Step) (address : String) (message : Json) (reply : Except Trail Json)

namespace RunSetting

variable {σ : Type}

/-- The request that a step makes when each contract has the given address. -/
def requestOf (setting : RunSetting σ) (address : ContractName → String) (step : Step) :
    ChainRequest :=
  let message := step.payload.message setting.profile address
  match step.kind with
  | .deploy =>
      .deploy setting.identity (setting.deployer.artifacts.pathFor step.contract) message
        step.instanceLabel
  | .execute => .execute setting.identity (address step.contract) message
  | .query => .query (address step.contract) message

def artifactName (setting : RunSetting σ) (contract : ContractName) : String :=
  (Path.fileName? (setting.deployer.artifacts.pathFor contract)).getD ""

end RunSetting

namespace Attempt

variable {σ : Type}

def step : Attempt → Step
  | .deploy step _ _ => step
  | .execute step _ _ _ => step
  | .query step _ _ _ => step

def exchange (setting : RunSetting σ) : Attempt → Exchange
  | .deploy step message reply =>
      ⟨.deploy setting.identity (setting.deployer.artifacts.pathFor step.contract) message
        step.instanceLabel, reply⟩
  | .execute _ address message reply => ⟨.execute setting.identity address message, reply⟩
  | .query _ address message reply => ⟨.query address message, reply⟩

/-- The failure that ends the run. A query has none. -/
def failure? : Attempt → Option Failure
  | .deploy step _ (.error source) => some (.deployment step.label step.contract source)
  | .execute step address _ (.error source) =>
      some (.execution step.label step.contract address source)
  | _ => none

/-- A failure and all its causes in one line. -/
def lament (failure : Failure) (source : Trail) : String :=
  ": ".intercalate (failure.message :: source.causes.map Cause.message)

/-- What an observer is told when `deployed` contracts have been recorded before. -/
def outcome (setting : RunSetting σ) (deployed : Nat) : Attempt → StepOutcome
  | .deploy step _ (.ok contract) =>
      .deployed
        { name := step.contract
          address := contract.address
          ordinal := deployed + 1
          deployedAt := setting.clock (.recording (deployed + 1))
          artifact := setting.artifactName step.contract
          codeId := contract.codeId }
  | .deploy step _ (.error source) =>
      .failed (lament (.deployment step.label step.contract source) source)
  | .execute _ _ _ (.ok receipt) => .executed receipt
  | .execute step address _ (.error source) =>
      .failed (lament (.execution step.label step.contract address source) source)
  | .query _ _ _ (.ok answer) => .queried answer
  | .query step address _ (.error source) =>
      .queryFailed (lament (.query step.label step.contract address source) source)

def outcomes (setting : RunSetting σ) (deployed : Nat) : List Attempt → List StepOutcome
  | [] => []
  | attempt :: rest =>
      let outcome := attempt.outcome setting deployed
      outcome :: outcomes setting (deployed + outcome.record?.toList.length) rest

/-- The records of the contracts that the attempts have made. -/
def records (setting : RunSetting σ) (attempts : List Attempt) : List ContractRecord :=
  (outcomes setting 0 attempts).filterMap StepOutcome.record?

def addresses (setting : RunSetting σ) (attempts : List Attempt) : ContractName → String :=
  Registry.addressOf { records := records setting attempts }

theorem outcomes_append (setting : RunSetting σ) (deployed : Nat) (front back : List Attempt) :
    outcomes setting deployed (front ++ back) =
      outcomes setting deployed front ++
        outcomes setting
          (deployed + ((outcomes setting deployed front).filterMap StepOutcome.record?).length)
          back := by
  induction front generalizing deployed with
  | nil => rfl
  | cons attempt rest ih =>
      simp only [List.cons_append, outcomes, List.filterMap_cons]
      rw [ih]
      cases (attempt.outcome setting deployed).record? with
      | none => simp only [Option.toList_none, List.length_nil, Nat.add_zero]
      | some record =>
          simp only [Option.toList_some, List.length_cons, List.length_nil, Nat.zero_add,
            Nat.add_assoc, Nat.add_comm 1]

theorem outcomes_append_single (setting : RunSetting σ) (attempts : List Attempt)
    (last : Attempt) :
    outcomes setting 0 (attempts ++ [last]) =
      outcomes setting 0 attempts ++
        [last.outcome setting (records setting attempts).length] := by
  rw [outcomes_append, Nat.zero_add]
  rfl

theorem outcomes_length (setting : RunSetting σ) (deployed : Nat) (attempts : List Attempt) :
    (outcomes setting deployed attempts).length = attempts.length := by
  induction attempts generalizing deployed with
  | nil => rfl
  | cons attempt rest ih => simp only [outcomes, List.length_cons, ih]

theorem getElem?_outcomes {attempts : List Attempt} {position : Nat} {attempt : Attempt}
    (there : attempts[position]? = some attempt) (setting : RunSetting σ) (deployed : Nat) :
    ∃ before, (outcomes setting deployed attempts)[position]? =
      some (attempt.outcome setting before) := by
  induction attempts generalizing position deployed with
  | nil => cases there
  | cons first rest ih =>
      cases position with
      | zero =>
          cases there
          exact ⟨deployed, rfl⟩
      | succ position => exact ih there _

/-- Every record has been made by one of the attempts. -/
theorem made_of_mem_records {setting : RunSetting σ} {attempts : List Attempt}
    {record : ContractRecord} (member : record ∈ records setting attempts) :
    ∃ attempt ∈ attempts, ∃ deployed,
      (attempt.outcome setting deployed).record? = some record := by
  obtain ⟨outcome, among, made⟩ := List.mem_filterMap.mp member
  obtain ⟨position, there⟩ := List.mem_iff_getElem?.mp among
  have within : position < attempts.length := by
    rw [← outcomes_length setting 0 attempts]
    exact (List.getElem?_eq_some_iff.mp there).1
  have found := List.getElem?_eq_getElem within
  obtain ⟨deployed, same⟩ := getElem?_outcomes found setting 0
  rw [there] at same
  cases same
  exact ⟨_, List.getElem_mem within, deployed, made⟩

theorem records_append_single (setting : RunSetting σ) (attempts : List Attempt)
    (last : Attempt) :
    records setting (attempts ++ [last]) =
      records setting attempts ++
        (last.outcome setting (records setting attempts).length).record?.toList := by
  have single : [last.outcome setting (records setting attempts).length].filterMap
      StepOutcome.record? =
        (last.outcome setting (records setting attempts).length).record?.toList := by
    cases kept : (last.outcome setting (records setting attempts).length).record? <;>
      simp [kept]
  rw [← single, records, outcomes_append_single, List.filterMap_append]
  rfl

theorem record?_outcome {setting : RunSetting σ} {deployed : Nat} {attempt : Attempt}
    {record : ContractRecord} (made : (attempt.outcome setting deployed).record? = some record) :
    record.ordinal = deployed + 1 := by
  unfold outcome at made
  split at made <;> cases made
  rfl

theorem artifact_outcome {setting : RunSetting σ} {deployed : Nat} {attempt : Attempt}
    {record : ContractRecord} (made : (attempt.outcome setting deployed).record? = some record) :
    record.artifact = setting.artifactName record.name := by
  unfold outcome at made
  split at made <;> cases made
  rfl

/-- The ordinals count the contracts from one on. -/
theorem ordinals_outcomes (setting : RunSetting σ) (deployed : Nat) (attempts : List Attempt) :
    ((outcomes setting deployed attempts).filterMap StepOutcome.record?).map
        ContractRecord.ordinal =
      List.range' (deployed + 1)
        ((outcomes setting deployed attempts).filterMap StepOutcome.record?).length := by
  induction attempts generalizing deployed with
  | nil => rfl
  | cons attempt rest ih =>
      simp only [outcomes, List.filterMap_cons]
      cases made : (attempt.outcome setting deployed).record? with
      | none => exact ih deployed
      | some record =>
          simp only [Option.toList_some, List.length_cons, List.length_nil, Nat.zero_add,
            List.map_cons, record?_outcome made, ih (deployed + 1), List.range'_succ]

end Attempt

end PerpDeploy
