/-
What a profile has to fulfil, as a list of requirements in the order in which they are checked.
A profile is accepted if it is well formed, that is, if it fulfils all of them; otherwise
each of them that it violates is told, once and in that order.
-/

import PerpDeploy.Proofs.Json.Decoding
import PerpDeploy.Proofs.Number.Natural
import PerpDeploy.Proofs.Profile.Collateral

namespace PerpDeploy

/-- A numeral for a number of at most 128 bits. -/
def IsAmount (text : String) : Prop := ∃ value, Number.Denotes text value ∧ value < Nat.pow 2 128

def IsPositiveAmount (text : String) : Prop :=
  ∃ value, Number.Denotes text value ∧ 0 < value ∧ value < Nat.pow 2 128

/-- A field of a profile and the name under which it is told of. -/
structure ProfileField (α : Type) where
  name : String
  value : Profile → α

inductive Requirement
  | filled (field : ProfileField String)
  | positive (field : ProfileField Nat)
  | unset (field : ProfileField String)
  | positiveAmount (field : ProfileField String)
  | ratio (field : ProfileField String)
  | collateral
  | engineUnset

namespace Requirement

def Holds (profile : Profile) : Requirement → Prop
  | .filled field => field.value profile ≠ ""
  | .positive field => 0 < field.value profile
  | .unset field => field.value profile = ""
  | .positiveAmount field => IsPositiveAmount (field.value profile)
  | .ratio field => IsAmount (field.value profile)
  | .collateral => Collateral profile.addressPrefix profile.eligibleCollateral
  | .engineUnset =>
      profile.engineInit.insuranceFund = "" ∧ profile.engineInit.feePool = "" ∧
        profile.engineInit.vamms = []

/-- The text for a requirement that is not fulfilled. -/
inductive ToldAs (profile : Profile) : Requirement → String → Prop
  | empty {field : ProfileField String} (lacking : field.value profile = "") :
      ToldAs profile (.filled field) (field.name ++ " is empty")
  | zero {field : ProfileField Nat} (lacking : field.value profile = 0) :
      ToldAs profile (.positive field) (field.name ++ " must be positive")
  | set {field : ProfileField String} (given : field.value profile ≠ "") :
      ToldAs profile (.unset field) (field.name ++ " must be left empty in the profile")
  | noAmount {field : ProfileField String} (zero : Number.Denotes (field.value profile) 0) :
      ToldAs profile (.positiveAmount field) (field.name ++ " must be non-zero")
  | badAmount {field : ProfileField String} (unread : ¬ IsAmount (field.value profile)) :
      ToldAs profile (.positiveAmount field)
        (field.name ++ " is not an amount: '" ++ field.value profile ++ "'")
  | badRatio {field : ProfileField String} (unread : ¬ IsAmount (field.value profile)) :
      ToldAs profile (.ratio field)
        (field.name ++ " is not a ratio: '" ++ field.value profile ++ "'")
  | noCollateral (lacking : profile.eligibleCollateral = "") :
      ToldAs profile .collateral "eligible_collateral is empty"
  | badAddress {data : String}
      (address : MarkedAddress profile.addressPrefix profile.eligibleCollateral data)
      (invalid : ¬ ChainAddress profile.addressPrefix profile.eligibleCollateral) :
      ToldAs profile .collateral
        ("eligible_collateral '" ++ profile.eligibleCollateral ++ "' is not a valid " ++
          profile.addressPrefix ++ " address")
  | badDenomination (given : profile.eligibleCollateral ≠ "")
      (unmarked : ∀ data,
        ¬ MarkedAddress profile.addressPrefix profile.eligibleCollateral data)
      (invalid : ¬ NativeDenomination profile.eligibleCollateral) :
      ToldAs profile .collateral
        ("eligible_collateral '" ++ profile.eligibleCollateral ++
          "' is neither a native denom nor a " ++ profile.addressPrefix ++ " address")
  | engineSet
      (given : ¬ (profile.engineInit.insuranceFund = "" ∧ profile.engineInit.feePool = "" ∧
        profile.engineInit.vamms = [])) :
      ToldAs profile .engineUnset
        "engine_init_msg contract references must be left empty in the profile"

end Requirement

namespace Profile

/-- The texts are those for the requirements that are not fulfilled, one for each of them and in
their order. -/
inductive Reports (profile : Profile) : List Requirement → List String → Prop
  | done : Reports profile [] []
  | met {requirement : Requirement} {rest : List Requirement} {texts : List String}
      (holds : requirement.Holds profile) (later : Reports profile rest texts) :
      Reports profile (requirement :: rest) texts
  | violated {requirement : Requirement} {rest : List Requirement} {text : String}
      {texts : List String} (fails : ¬ requirement.Holds profile)
      (told : requirement.ToldAs profile text) (later : Reports profile rest texts) :
      Reports profile (requirement :: rest) (text :: texts)

def vammRequirements : List Requirement :=
  [ .positive ⟨"vamm_init_msg.decimals", fun profile => profile.vammInit.decimals⟩,
    .unset ⟨"vamm_init_msg.pricefeed", fun profile => profile.vammInit.priceFeed⟩,
    .filled ⟨"vamm_init_msg.quote_asset", fun profile => profile.vammInit.quoteAsset⟩,
    .filled ⟨"vamm_init_msg.base_asset", fun profile => profile.vammInit.baseAsset⟩,
    .positiveAmount ⟨"vamm_init_msg.quote_asset_reserve",
      fun profile => profile.vammInit.quoteAssetReserve⟩,
    .positiveAmount ⟨"vamm_init_msg.base_asset_reserve",
      fun profile => profile.vammInit.baseAssetReserve⟩,
    .ratio ⟨"vamm_init_msg.toll_ratio", fun profile => profile.vammInit.tollRatio⟩,
    .ratio ⟨"vamm_init_msg.spread_ratio", fun profile => profile.vammInit.spreadRatio⟩,
    .ratio ⟨"vamm_init_msg.fluctuation_limit_ratio",
      fun profile => profile.vammInit.fluctuationLimitRatio⟩,
    .positive ⟨"vamm_init_msg.funding_period", fun profile => profile.vammInit.fundingPeriod⟩ ]

def engineRequirements : List Requirement :=
  [ .positive ⟨"engine_init_msg.decimals", fun profile => profile.engineInit.decimals⟩,
    .ratio ⟨"engine_init_msg.initial_margin_ratio",
      fun profile => profile.engineInit.initialMarginRatio⟩,
    .ratio ⟨"engine_init_msg.maintenance_margin_ratio",
      fun profile => profile.engineInit.maintenanceMarginRatio⟩,
    .ratio ⟨"engine_init_msg.liquidation_fee", fun profile => profile.engineInit.liquidationFee⟩,
    .engineUnset ]

/-- All requirements, in the order in which they are checked. -/
def requirements : List Requirement :=
  .filled ⟨"network name", Profile.network⟩ :: .collateral ::
    .positive ⟨"price_feed_init_msg.decimals", fun profile => profile.priceFeedInit.decimals⟩ ::
    (vammRequirements ++ engineRequirements)

/-- Everything is there that a run relies on, and nothing that a run fills in. -/
structure WellFormed (profile : Profile) : Prop where
  network : profile.network ≠ ""
  collateral : Collateral profile.addressPrefix profile.eligibleCollateral
  priceFeedDecimals : 0 < profile.priceFeedInit.decimals
  vammDecimals : 0 < profile.vammInit.decimals
  priceFeed : profile.vammInit.priceFeed = ""
  quoteAsset : profile.vammInit.quoteAsset ≠ ""
  baseAsset : profile.vammInit.baseAsset ≠ ""
  quoteAssetReserve : IsPositiveAmount profile.vammInit.quoteAssetReserve
  baseAssetReserve : IsPositiveAmount profile.vammInit.baseAssetReserve
  tollRatio : IsAmount profile.vammInit.tollRatio
  spreadRatio : IsAmount profile.vammInit.spreadRatio
  fluctuationLimitRatio : IsAmount profile.vammInit.fluctuationLimitRatio
  fundingPeriod : 0 < profile.vammInit.fundingPeriod
  engineDecimals : 0 < profile.engineInit.decimals
  initialMarginRatio : IsAmount profile.engineInit.initialMarginRatio
  maintenanceMarginRatio : IsAmount profile.engineInit.maintenanceMarginRatio
  liquidationFee : IsAmount profile.engineInit.liquidationFee
  insuranceFund : profile.engineInit.insuranceFund = ""
  feePool : profile.engineInit.feePool = ""
  vamms : profile.engineInit.vamms = []

theorem wellFormed_iff (profile : Profile) :
    profile.WellFormed ↔ ∀ requirement ∈ requirements, requirement.Holds profile := by
  simp only [requirements, vammRequirements, engineRequirements, List.cons_append,
    List.nil_append, List.forall_mem_cons, List.not_mem_nil, false_implies, implies_true,
    Requirement.Holds, and_true]
  constructor
  · intro formed
    exact ⟨formed.network, formed.collateral, formed.priceFeedDecimals, formed.vammDecimals,
      formed.priceFeed, formed.quoteAsset, formed.baseAsset, formed.quoteAssetReserve,
      formed.baseAssetReserve, formed.tollRatio, formed.spreadRatio,
      formed.fluctuationLimitRatio, formed.fundingPeriod, formed.engineDecimals,
      formed.initialMarginRatio, formed.maintenanceMarginRatio, formed.liquidationFee,
      formed.insuranceFund, formed.feePool, formed.vamms⟩
  · rintro ⟨network, collateral, feed, decimals, priceFeed, quote, base, quoteReserve, baseReserve,
      toll, spread, fluctuation, funding, engine, initial, maintenance, liquidation, insurance,
      feePool, vamms⟩
    constructor
    all_goals assumption

theorem amount?_eq_some_iff {text : String} {value : Nat} :
    amount? text = some value ↔ Number.Denotes text value ∧ value < Nat.pow 2 128 := by
  have positive : 0 < Number.doubleWordLimit := by decide
  have read : Number.readNatural Number.doubleWordLimit text = .ok value ↔
      Number.Denotes text value ∧ value < Nat.pow 2 128 := Number.readNatural_ok_iff positive
  rw [← read]
  unfold amount?
  constructor
  · exact Json.ok_of_toOption
  · intro ok
    rw [ok]
    rfl

theorem amount?_eq_none_iff {text : String} : amount? text = none ↔ ¬ IsAmount text := by
  rw [Option.eq_none_iff_forall_ne_some]
  simp only [ne_eq, amount?_eq_some_iff, IsAmount, not_exists]

theorem isPositiveAmount_of_amount? {text : String} {value : Nat}
    (read : amount? text = some (value + 1)) : IsPositiveAmount text := by
  obtain ⟨denotes, within⟩ := amount?_eq_some_iff.mp read
  exact ⟨value + 1, denotes, Nat.succ_pos value, within⟩

theorem exists_amount?_of_isPositiveAmount {text : String} (positive : IsPositiveAmount text) :
    ∃ value, amount? text = some (value + 1) := by
  obtain ⟨value, denotes, above, within⟩ := positive
  obtain ⟨before, rfl⟩ := Nat.exists_eq_succ_of_ne_zero (Nat.ne_of_gt above)
  exact ⟨before, amount?_eq_some_iff.mpr ⟨denotes, within⟩⟩

/-! ### The checks -/

variable {profile : Profile}

theorem Reports.append {requirements more : List Requirement} {texts others : List String}
    (front : profile.Reports requirements texts) (back : profile.Reports more others) :
    profile.Reports (requirements ++ more) (texts ++ others) := by
  induction front with
  | done => exact back
  | met holds _ ih => exact .met holds ih
  | violated fails told _ ih => exact .violated fails told ih

theorem Reports.eq_nil_iff {requirements : List Requirement} {texts : List String}
    (reports : profile.Reports requirements texts) :
    texts = [] ↔ ∀ requirement ∈ requirements, requirement.Holds profile := by
  induction reports with
  | done => simp
  | met holds _ ih => rw [ih, List.forall_mem_cons, and_iff_right holds]
  | violated fails told _ ih => simp [fails]

theorem toldAs_unique {requirement : Requirement} {text other : String}
    (told : requirement.ToldAs profile text) (again : requirement.ToldAs profile other) :
    text = other := by
  cases told with
  | empty | zero | set | badRatio | engineSet => cases again; rfl
  | noAmount zero =>
      cases again with
      | noAmount => rfl
      | badAmount unread => exact absurd ⟨0, zero, by decide⟩ unread
  | badAmount unread =>
      cases again with
      | noAmount zero => exact absurd ⟨0, zero, by decide⟩ unread
      | badAmount => rfl
  | noCollateral lacking =>
      cases again with
      | noCollateral => rfl
      | badAddress address => exact absurd lacking address.ne_empty
      | badDenomination given => exact absurd lacking given
  | badAddress address =>
      cases again with
      | noCollateral lacking => exact absurd lacking address.ne_empty
      | badAddress => rfl
      | badDenomination _ unmarked => exact absurd address (unmarked _)
  | badDenomination given unmarked =>
      cases again with
      | noCollateral lacking => exact absurd lacking given
      | badAddress address => exact absurd address (unmarked _)
      | badDenomination => rfl

theorem Reports.unique {requirements : List Requirement} {texts others : List String}
    (reports : profile.Reports requirements texts) (again : profile.Reports requirements others) :
    texts = others := by
  induction reports generalizing others with
  | done =>
      cases again
      rfl
  | met holds _ ih =>
      cases again with
      | met _ later => exact ih later
      | violated fails => exact absurd holds fails
  | violated fails told _ ih =>
      cases again with
      | met holds => exact absurd holds fails
      | violated _ toldAgain later => rw [toldAs_unique told toldAgain, ih later]

/-- A check that tells its one text exactly when its requirement does not hold. -/
theorem reports_problemIf {requirement : Requirement} {condition : Bool} {text : String}
    (holds : condition = false → requirement.Holds profile)
    (fails : condition = true → ¬ requirement.Holds profile)
    (told : condition = true → requirement.ToldAs profile text) :
    profile.Reports [requirement] (problemIf condition text) := by
  cases decided : condition with
  | false => exact .met (holds decided) .done
  | true => exact .violated (fails decided) (told decided) .done

theorem reports_filled (field : ProfileField String) :
    profile.Reports [.filled field]
      (problemIf (field.value profile).isEmpty (field.name ++ " is empty")) := by
  apply reports_problemIf
  · intro full empty
    rw [String.isEmpty_iff.mpr empty] at full
    cases full
  · exact fun empty holds => holds (String.isEmpty_iff.mp empty)
  · exact fun empty => .empty (String.isEmpty_iff.mp empty)

theorem reports_positive (field : ProfileField Nat) :
    profile.Reports [.positive field]
      (problemIf (field.value profile == 0) (field.name ++ " must be positive")) := by
  apply reports_problemIf
  · exact fun other => Nat.pos_of_ne_zero (ne_of_beq_false other)
  · exact fun zero holds => Nat.ne_of_gt holds (beq_iff_eq.mp zero)
  · exact fun zero => .zero (beq_iff_eq.mp zero)

theorem reports_unset (field : ProfileField String) :
    profile.Reports [.unset field]
      (problemIf (!(field.value profile).isEmpty)
        (field.name ++ " must be left empty in the profile")) := by
  have filled : (!(field.value profile).isEmpty) = true → field.value profile ≠ "" := by
    intro full empty
    rw [empty] at full
    cases full
  apply reports_problemIf
  · exact fun empty => String.isEmpty_iff.mp ((Bool.not_eq_false' _).mp empty)
  · exact filled
  · exact fun full => .set (filled full)

theorem reports_positiveAmount {field : ProfileField String} {name : String}
    (named : field.name = "vamm_init_msg." ++ name) :
    profile.Reports [.positiveAmount field] (reserveProblems name (field.value profile)) := by
  unfold reserveProblems
  rw [← named]
  split
  · rename_i zero
    refine .violated ?_ (.noAmount (amount?_eq_some_iff.mp zero).1) .done
    intro positive
    obtain ⟨value, read⟩ := exists_amount?_of_isPositiveAmount positive
    rw [zero] at read
    cases read
  · rename_i value nonzero read
    obtain ⟨before, rfl⟩ := Nat.exists_eq_succ_of_ne_zero nonzero
    exact .met (isPositiveAmount_of_amount? read) .done
  · rename_i unread
    refine .violated ?_ (.badAmount (amount?_eq_none_iff.mp unread)) .done
    intro positive
    obtain ⟨value, read⟩ := exists_amount?_of_isPositiveAmount positive
    rw [unread] at read
    cases read

theorem reports_ratio {field : ProfileField String} {message name : String}
    (named : field.name = message ++ "." ++ name) :
    profile.Reports [.ratio field] (ratioProblems message name (field.value profile)) := by
  have unread : (amount? (field.value profile)).isNone = true → ¬ IsAmount (field.value profile) :=
    fun missing => amount?_eq_none_iff.mp (Option.isNone_iff_eq_none.mp missing)
  unfold ratioProblems
  rw [← named]
  apply reports_problemIf
  · intro found
    obtain ⟨value, read⟩ := Option.isSome_iff_exists.mp (Option.isNone_eq_false_iff.mp found)
    exact ⟨value, amount?_eq_some_iff.mp read⟩
  · exact unread
  · exact fun missing => .badRatio (unread missing)

theorem reports_collateral : profile.Reports [.collateral] profile.collateralProblems := by
  unfold collateralProblems collateralProblem?
  split
  · rename_i empty
    have lacking := String.isEmpty_iff.mp empty
    refine .violated ?_ (.noCollateral lacking) .done
    intro collateral
    have collateral : Collateral profile.addressPrefix profile.eligibleCollateral := collateral
    rw [lacking] at collateral
    exact not_collateral_empty collateral
  rename_i full
  split
  · rename_i data found
    have address : MarkedAddress profile.addressPrefix profile.eligibleCollateral
        (String.ofList data) := by
      rw [← afterAddressMark?_eq_some_iff, found, String.toList_ofList]
    have valid := chainAddress_iff address
    rw [String.toList_ofList] at valid
    split
    · rename_i checked
      exact .met (.address (valid.mpr checked)) .done
    · rename_i refused
      have invalid := mt valid.mp refused
      refine .violated ?_ (.badAddress address invalid) .done
      rintro (⟨-, unmarked⟩ | chainAddress)
      · exact unmarked _ address
      · exact invalid chainAddress
  · rename_i unfound
    have unmarked := afterAddressMark?_eq_none_iff.mp unfound
    split
    · rename_i denomination
      exact .met (.native (isDenomination_iff.mp denomination) unmarked) .done
    · rename_i other
      have invalid := mt isDenomination_iff.mpr other
      have given : profile.eligibleCollateral ≠ "" :=
        fun empty => full (String.isEmpty_iff.mpr empty)
      refine .violated ?_ (.badDenomination given unmarked invalid) .done
      rintro (⟨denomination, -⟩ | ⟨address, -, -, -⟩)
      · exact invalid denomination
      · exact unmarked _ address

theorem engineUnset_iff :
    (!profile.engineInit.insuranceFund.isEmpty || !profile.engineInit.feePool.isEmpty ||
      !profile.engineInit.vamms.isEmpty) = false ↔ Requirement.engineUnset.Holds profile := by
  simp only [Requirement.Holds, Bool.or_eq_false_iff, Bool.not_eq_false', String.isEmpty_iff,
    List.isEmpty_iff, and_assoc]

theorem reports_engineUnset :
    profile.Reports [.engineUnset]
      (problemIf
        (!profile.engineInit.insuranceFund.isEmpty || !profile.engineInit.feePool.isEmpty ||
          !profile.engineInit.vamms.isEmpty)
        "engine_init_msg contract references must be left empty in the profile") := by
  have given : (!profile.engineInit.insuranceFund.isEmpty ||
      !profile.engineInit.feePool.isEmpty || !profile.engineInit.vamms.isEmpty) = true →
      ¬ Requirement.engineUnset.Holds profile := by
    intro set
    rw [← engineUnset_iff, set]
    exact Bool.noConfusion
  exact reports_problemIf engineUnset_iff.mp given fun set => .engineSet (given set)

/-! ### All of them -/

theorem vammProblems_reports :
    profile.Reports vammRequirements (vammProblems profile.vammInit) :=
  (reports_positive _).append (reports_unset _) |>.append (reports_filled _)
    |>.append (reports_filled _) |>.append (reports_positiveAmount rfl)
    |>.append (reports_positiveAmount rfl) |>.append (reports_ratio rfl)
    |>.append (reports_ratio rfl) |>.append (reports_ratio rfl) |>.append (reports_positive _)

theorem engineProblems_reports :
    profile.Reports engineRequirements (engineProblems profile.engineInit) :=
  (reports_positive _).append (reports_ratio rfl) |>.append (reports_ratio rfl)
    |>.append (reports_ratio rfl) |>.append reports_engineUnset

/-- The checks stand in the order of the requirements, so that the two can be matched piece by
piece. -/
theorem problems_reports (profile : Profile) :
    profile.Reports requirements profile.problems :=
  (reports_filled _).append reports_collateral |>.append (reports_positive _)
    |>.append vammProblems_reports |>.append engineProblems_reports

example :
    { localChain with
      eligibleCollateral := "terra1short"
      vammInit :=
        { localChain.vammInit with quoteAsset := "", baseAssetReserve := "+0" } }.problems =
      ["eligible_collateral 'terra1short' is not a valid terra address",
        "vamm_init_msg.quote_asset is empty",
        "vamm_init_msg.base_asset_reserve must be non-zero"] := by
  decide +kernel

theorem problems_eq_nil_iff (profile : Profile) : profile.problems = [] ↔ profile.WellFormed := by
  rw [wellFormed_iff, (problems_reports profile).eq_nil_iff]

theorem validate_ok_iff (profile : Profile) :
    profile.validate = .ok () ↔ profile.problems = [] := by
  unfold validate
  cases profile.problems with
  | nil => exact ⟨fun _ => rfl, fun _ => rfl⟩
  | cons problem rest => exact ⟨nofun, nofun⟩

theorem validate_error_iff (profile : Profile) (failure : Failure) :
    profile.validate = .error failure ↔
      profile.problems ≠ [] ∧ failure = .configuration
        ("profile '" ++ profile.network ++ "' is invalid: " ++
          "; ".intercalate profile.problems) := by
  unfold validate
  cases profile.problems with
  | nil => exact ⟨nofun, fun told => absurd rfl told.1⟩
  | cons problem rest =>
      rw [Except.error.injEq]
      exact ⟨fun told => ⟨List.cons_ne_nil problem rest, told.symm⟩, fun told => told.2.symm⟩

/-- A profile is accepted exactly if it is well formed; otherwise the failure tells each
requirement that is not fulfilled, in order, and nothing else. -/
theorem validate_reports_every_defect (profile : Profile) :
    (profile.validate = .ok () ↔ profile.WellFormed) ∧
      ∀ failure, profile.validate = .error failure ↔
        ¬ profile.WellFormed ∧ ∃ texts, profile.Reports requirements texts ∧
          failure = .configuration
            ("profile '" ++ profile.network ++ "' is invalid: " ++ "; ".intercalate texts) := by
  refine ⟨(validate_ok_iff profile).trans (problems_eq_nil_iff profile), fun failure => ?_⟩
  rw [validate_error_iff, Ne, problems_eq_nil_iff]
  refine and_congr_right fun _ => ⟨fun told => ⟨_, problems_reports profile, told⟩, ?_⟩
  rintro ⟨texts, reports, told⟩
  rwa [reports.unique (problems_reports profile)] at told

end Profile

end PerpDeploy
