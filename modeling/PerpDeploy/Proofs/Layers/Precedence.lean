/-
Which layer a setting comes from. Each setting is the value of the strongest layer that sets it,
whatever the weaker layers hold, and nothing but the values of the settings counts: neither the
tables of other networks nor fields of other names make a difference.
-/

import Mathlib.Logic.Relation
import PerpDeploy.Proofs.Json.Decoding
import PerpDeploy.Proofs.Layers.Source

namespace PerpDeploy

namespace Layers

inductive Layer
  | commandLine
  | environment
  /-- The table of the file that holds for all networks. -/
  | everywhere
  /-- The table of the network. -/
  | network
  | default
  deriving DecidableEq, Repr

def Layer.strength : Layer → Nat
  | .commandLine => 4
  | .environment => 3
  | .everywhere => 2
  | .network => 1
  | .default => 0

/-- What settings are made from. -/
structure Inputs where
  tables : Tables
  environment : Environment
  network : String
  given : Overrides

namespace Inputs

def Sets (inputs : Inputs) (layer : Layer) (name : String) (value : Value) : Prop :=
  match layer with
  | .commandLine => inputs.given.Gives name value
  | .environment => inputs.environment.Sets name value
  | .everywhere => inputs.tables.Sets "global" name value
  | .network => inputs.tables.Sets inputs.network name value
  | .default => inputs.tables.Sets "default" name value

/-- The layer sets the field to the value, and no stronger layer sets it. -/
structure Prevails (inputs : Inputs) (layer : Layer) (name : String) (value : Value) : Prop where
  sets : inputs.Sets layer name value
  strongest : ∀ other, layer.strength < other.strength → ∀ value, ¬ inputs.Sets other name value

/-- The setting of a name: the value that prevails, which is of the kind of the setting, or nothing
if no layer sets it. -/
inductive Yields {α : Type} (inputs : Inputs) (kind : Value → α → Prop) (name : String) :
    Option α → Prop
  | unset (nowhere : ∀ layer value, ¬ inputs.Sets layer name value) : Yields inputs kind name none
  | set {layer : Layer} {value : Value} {content : α} (prevails : inputs.Prevails layer name value)
      (is : kind value content) : Yields inputs kind name (some content)

/-- Each setting is the one that its name yields; without a flag there is no wait for blocks. -/
structure Settles (inputs : Inputs) (overrides : Overrides) : Prop where
  chainId : inputs.Yields Value.IsText "chain_id" overrides.chainId
  nodeUrl : inputs.Yields Value.IsText "node_url" overrides.nodeUrl
  binary : inputs.Yields Value.IsText "binary" overrides.binary
  keyringBackend : inputs.Yields Value.IsText "keyring_backend" overrides.keyringBackend
  keyName : inputs.Yields Value.IsText "key_name" overrides.keyName
  gasPrices : inputs.Yields Value.IsText "gas_prices" overrides.gasPrices
  gasAdjustment : inputs.Yields Value.IsFraction "gas_adjustment" overrides.gasAdjustment
  confirmationTimeout :
    inputs.Yields Value.IsSeconds "confirmation_timeout_secs" overrides.confirmationTimeout
  noWait : ∃ flag?, inputs.Yields Value.IsFlag "no_wait" flag? ∧ overrides.noWait = flag?.getD false

/-- Something is left out that is no setting of the network: a table of another network, a field
of another name, or a variable that leads to no setting. -/
inductive Omits (inputs : Inputs) : Inputs → Prop
  | table {before after : Tables} {spelled : String} {fields : Fields}
      (tables : inputs.tables = before ++ (spelled, fields) :: after)
      (other : ∀ table ∈ ["global", inputs.network, "default"],
        sameIgnoringCase spelled table = false) :
      Omits inputs { inputs with tables := before ++ after }
  | field {before after : Tables} {spelled key : String} {front back : Fields} {value : Value}
      (tables : inputs.tables = before ++ (spelled, front ++ (key, value) :: back) :: after)
      (unknown : key ∉ settingNames) :
      Omits inputs { inputs with tables := before ++ (spelled, front ++ back) :: after }
  | entry {before after : Environment} {key text : String}
      (environment : inputs.environment = before ++ (key, text) :: after)
      (astray : ∀ name ∈ settingNames, ∀ path, ¬ Environment.LeadsTo key (name :: path)) :
      Omits inputs { inputs with environment := before ++ after }

end Inputs

/-! ### The strongest layer -/

/-- All layers, the strongest first. -/
def Layer.all : List Layer := [.commandLine, .environment, .everywhere, .network, .default]

theorem Layer.mem_all (layer : Layer) : layer ∈ Layer.all := by
  cases layer <;> decide

theorem Layer.pairwise_all :
    Layer.all.Pairwise fun layer other => other.strength < layer.strength := by
  decide

/-- What stands before a layer is what is stronger than it. -/
theorem Layer.mem_before_iff {before after : List Layer} {layer other : Layer}
    (split : Layer.all = before ++ layer :: after) :
    other ∈ before ↔ layer.strength < other.strength := by
  have ordered := Layer.pairwise_all
  rw [split, List.pairwise_append, List.pairwise_cons] at ordered
  -- weaker layers stand behind, stronger ones before, and there are no others
  obtain ⟨-, ⟨weaker, -⟩, stronger⟩ := ordered
  constructor
  · exact fun member => stronger other member layer List.mem_cons_self
  · intro above
    have member := Layer.mem_all other
    rw [split, List.mem_append, List.mem_cons] at member
    rcases member with member | rfl | member
    · exact member
    · exact absurd above (Nat.lt_irrefl _)
    · exact absurd above (Nat.lt_asymm (weaker other member))

namespace Inputs

variable {inputs : Inputs} {name : String}

def layers (inputs : Inputs) : Layers :=
  ofTables inputs.tables inputs.network inputs.environment.fields inputs.given.fields

def fieldsOf (inputs : Inputs) : Layer → Fields
  | .commandLine => inputs.given.fields
  | .environment => inputs.environment.fields
  | .everywhere => inputs.tables.named everywhereTable
  | .network => inputs.tables.named inputs.network
  | .default => inputs.tables.named defaultTable

theorem lookup?_fieldsOf_iff {layer : Layer} {value : Value} :
    (inputs.fieldsOf layer).lookup? name = some value ↔ inputs.Sets layer name value := by
  cases layer with
  | commandLine => exact lookup?_given_iff
  | environment => exact Environment.lookup?_fields_iff
  | everywhere | network | default => exact lookup?_named_iff

theorem lookup?_fieldsOf_eq_none_iff {layer : Layer} :
    (inputs.fieldsOf layer).lookup? name = none ↔ ∀ value, ¬ inputs.Sets layer name value := by
  rw [Option.eq_none_iff_forall_ne_some]
  exact forall_congr' fun value => not_congr lookup?_fieldsOf_iff

theorem value?_eq (inputs : Inputs) (name : String) :
    inputs.layers.value? name =
      Layer.all.findSome? fun layer => (inputs.fieldsOf layer).lookup? name := rfl

theorem value?_eq_some_iff {value : Value} :
    inputs.layers.value? name = some value ↔ ∃ layer, inputs.Prevails layer name value := by
  rw [value?_eq, List.findSome?_eq_some_iff]
  constructor
  · rintro ⟨before, layer, after, split, found, missing⟩
    refine ⟨layer, ⟨lookup?_fieldsOf_iff.mp found, fun other above => ?_⟩⟩
    exact lookup?_fieldsOf_eq_none_iff.mp
      (missing other ((Layer.mem_before_iff split).mpr above))
  · rintro ⟨layer, sets, strongest⟩
    obtain ⟨before, after, split⟩ := List.append_of_mem layer.mem_all
    refine ⟨before, layer, after, split, lookup?_fieldsOf_iff.mpr sets, fun other member => ?_⟩
    exact lookup?_fieldsOf_eq_none_iff.mpr
      (strongest other ((Layer.mem_before_iff split).mp member))

theorem value?_eq_none_iff :
    inputs.layers.value? name = none ↔ ∀ layer value, ¬ inputs.Sets layer name value := by
  rw [value?_eq, List.findSome?_eq_none_iff]
  constructor
  · exact fun missing layer => lookup?_fieldsOf_eq_none_iff.mp (missing layer layer.mem_all)
  · exact fun nowhere layer _ => lookup?_fieldsOf_eq_none_iff.mpr (nowhere layer)

theorem setting?_eq_some_iff {α : Type} {read? : Value → Option α} {kind : Value → α → Prop}
    (reads : ∀ {value content}, read? value = some content ↔ kind value content)
    {found : Option α} :
    inputs.layers.setting? read? name = some found ↔ inputs.Yields kind name found := by
  unfold setting?
  cases held : inputs.layers.value? name with
  | none =>
      constructor
      · intro none
        cases none
        exact .unset (value?_eq_none_iff.mp held)
      · rintro (_ | ⟨prevails, -⟩)
        · rfl
        · rw [value?_eq_some_iff.mpr ⟨_, prevails⟩] at held
          cases held
  | some value =>
      rw [Option.map_eq_some_iff]
      constructor
      · rintro ⟨content, read, rfl⟩
        obtain ⟨layer, prevails⟩ := value?_eq_some_iff.mp held
        exact .set prevails (reads.mp read)
      · rintro (nowhere | ⟨prevails, is⟩)
        · rw [value?_eq_none_iff.mpr nowhere] at held
          cases held
        · rw [value?_eq_some_iff.mpr ⟨_, prevails⟩] at held
          cases held
          exact ⟨_, reads.mpr is, rfl⟩

theorem Yields.unique_flag {found other : Option Bool}
    (yields : inputs.Yields Value.IsFlag name found)
    (again : inputs.Yields Value.IsFlag name other) : found = other := by
  have setting := (setting?_eq_some_iff Value.asFlag?_eq_some_iff).mpr yields
  rw [(setting?_eq_some_iff Value.asFlag?_eq_some_iff).mpr again, Option.some.injEq] at setting
  exact setting.symm

theorem overrides?_eq_some_iff {overrides : Overrides} :
    inputs.layers.overrides? = some overrides ↔ inputs.Settles overrides := by
  unfold overrides?
  simp only [Option.bind_eq_bind, Option.bind_eq_some_iff, Option.some.injEq,
    setting?_eq_some_iff Value.asText?_eq_some_iff,
    setting?_eq_some_iff Value.asFraction?_eq_some_iff,
    setting?_eq_some_iff Value.asSeconds?_eq_some_iff,
    setting?_eq_some_iff Value.asFlag?_eq_some_iff]
  constructor
  · rintro ⟨_, chainId, _, nodeUrl, _, binary, _, keyringBackend, _, keyName, _, gasPrices, _,
      gasAdjustment, _, confirmationTimeout, flag?, noWait, rfl⟩
    exact { chainId, nodeUrl, binary, keyringBackend, keyName, gasPrices, gasAdjustment,
            confirmationTimeout, noWait := ⟨flag?, noWait, rfl⟩ }
  · rintro ⟨chainId, nodeUrl, binary, keyringBackend, keyName, gasPrices, gasAdjustment,
      confirmationTimeout, flag?, noWait, is⟩
    refine ⟨_, chainId, _, nodeUrl, _, binary, _, keyringBackend, _, keyName, _, gasPrices, _,
      gasAdjustment, _, confirmationTimeout, _, noWait, ?_⟩
    rw [← is]

/-! ### What makes no difference -/

/-- The layers of both set the same settings to the same values. -/
def Alike (inputs others : Inputs) : Prop :=
  ∀ layer, ∀ name ∈ settingNames, ∀ value,
    inputs.Sets layer name value ↔ others.Sets layer name value

variable {others : Inputs}

theorem Prevails.of_alike (alike : inputs.Alike others) (known : name ∈ settingNames)
    {layer : Layer} {value : Value} (prevails : inputs.Prevails layer name value) :
    others.Prevails layer name value where
  sets := (alike layer name known value).mp prevails.sets
  strongest other above value sets :=
    prevails.strongest other above value ((alike other name known value).mpr sets)

theorem Yields.of_alike (alike : inputs.Alike others) (known : name ∈ settingNames) {α : Type}
    {kind : Value → α → Prop} {found : Option α} (yields : inputs.Yields kind name found) :
    others.Yields kind name found := by
  cases yields with
  | unset nowhere =>
      exact .unset fun layer value sets =>
        nowhere layer value ((alike layer name known value).mpr sets)
  | set prevails is => exact .set (prevails.of_alike alike known) is

theorem Settles.of_alike (alike : inputs.Alike others) {overrides : Overrides}
    (settles : inputs.Settles overrides) : others.Settles overrides where
  chainId := settles.chainId.of_alike alike (by decide)
  nodeUrl := settles.nodeUrl.of_alike alike (by decide)
  binary := settles.binary.of_alike alike (by decide)
  keyringBackend := settles.keyringBackend.of_alike alike (by decide)
  keyName := settles.keyName.of_alike alike (by decide)
  gasPrices := settles.gasPrices.of_alike alike (by decide)
  gasAdjustment := settles.gasAdjustment.of_alike alike (by decide)
  confirmationTimeout := settles.confirmationTimeout.of_alike alike (by decide)
  noWait := by
    obtain ⟨flag?, yields, is⟩ := settles.noWait
    exact ⟨flag?, yields.of_alike alike (by decide), is⟩

theorem Alike.symm (alike : inputs.Alike others) : others.Alike inputs :=
  fun layer name known value => (alike layer name known value).symm

theorem Alike.trans {further : Inputs} (alike : inputs.Alike others)
    (onward : others.Alike further) : inputs.Alike further :=
  fun layer name known value =>
    (alike layer name known value).trans (onward layer name known value)

theorem Omits.alike (omits : inputs.Omits others) : inputs.Alike others := by
  intro layer name known value
  obtain ⟨tables, environment, network, given⟩ := inputs
  cases omits with
  | table split other =>
      cases split
      cases layer with
      | commandLine | environment => exact Iff.rfl
      | everywhere => exact Tables.sets_without (other _ (by simp)) value
      | network => exact Tables.sets_without (other _ (by simp)) value
      | default => exact Tables.sets_without (other _ (by simp)) value
  | field split unknown =>
      rename_i before after spelled key front back held
      cases split
      have differs : key ≠ name := fun same => unknown (same ▸ known)
      cases layer with
      | commandLine | environment => exact Iff.rfl
      | everywhere | network | default => exact Tables.sets_without_field differs value
  | entry split astray =>
      cases split
      cases layer with
      | environment => exact Environment.sets_without (astray name known) value
      | commandLine | everywhere | network | default => exact Iff.rfl

theorem alike_of_omissions (omissions : Relation.ReflTransGen Omits inputs others) :
    inputs.Alike others := by
  induction omissions with
  | refl => exact fun _ _ _ _ => Iff.rfl
  | tail _ omits ih => exact ih.trans omits.alike

end Inputs

end Layers

open Layers (Inputs Layer Value Tables Environment readTables)

theorem loadOverrides_ok_iff {files : FileTree} {environment : Environment} {config : Path}
    {network : String} {given overrides : Overrides} :
    loadOverrides files environment config network given = .ok overrides ↔
      ∃ tables, readTables files config = some tables ∧
        (Inputs.mk tables environment network given).Settles overrides := by
  have merged : ((readTables files config).bind fun tables =>
      (Inputs.mk tables environment network given).layers.overrides?) = some overrides ↔
      ∃ tables, readTables files config = some tables ∧
        (Inputs.mk tables environment network given).Settles overrides := by
    simp only [Option.bind_eq_some_iff, Inputs.overrides?_eq_some_iff]
  rw [← merged]
  unfold loadOverrides
  dsimp only
  split
  · rename_i loaded load
    rw [Except.ok.injEq, ← Option.some.injEq, ← load]
    rfl
  · rename_i missing
    constructor
    · exact nofun
    · intro found
      cases missing.symm.trans found

/-- A flag that is not given leaves the choice to the other layers. -/
theorem noWait_of_not_given {inputs : Inputs} {overrides : Overrides}
    (settles : inputs.Settles overrides) (absent : inputs.given.noWait = false) {layer : Layer}
    {flag : Bool} (sets : inputs.Sets layer "no_wait" (.flag flag))
    (strongest : ∀ other, other ≠ .commandLine → layer.strength < other.strength →
      ∀ value, ¬ inputs.Sets other "no_wait" value) : overrides.noWait = flag := by
  have silent : ∀ value, ¬ inputs.Sets .commandLine "no_wait" value := by
    intro value gives
    rw [gives.flag rfl] at absent
    cases absent
  have prevails : inputs.Prevails layer "no_wait" (.flag flag) := by
    refine ⟨sets, fun other above => ?_⟩
    by_cases top : other = .commandLine
    · rw [top]
      exact silent
    · exact strongest other top above
  obtain ⟨flag?, yields, is⟩ := settles.noWait
  rw [is, yields.unique_flag (.set prevails (.flag flag)), Option.getD_some]

/-- Settings that are loaded come from the strongest layer that has them. A flag that is not given
leaves the choice to the other layers, and what is no setting of the network has no effect. -/
theorem loadOverrides_takes_strongest (files : FileTree) (environment : Environment)
    (config : Path) (network : String) (given : Overrides) :
    (∀ overrides, loadOverrides files environment config network given = .ok overrides ↔
      ∃ tables, readTables files config = some tables ∧
        (Inputs.mk tables environment network given).Settles overrides) ∧
    (∀ overrides tables, loadOverrides files environment config network given = .ok overrides →
      readTables files config = some tables → given.noWait = false →
      ∀ layer flag,
        (Inputs.mk tables environment network given).Sets layer "no_wait" (.flag flag) →
        (∀ other, other ≠ .commandLine → layer.strength < other.strength → ∀ value,
          ¬ (Inputs.mk tables environment network given).Sets other "no_wait" value) →
        overrides.noWait = flag) ∧
    (∀ otherFiles otherEnvironment otherConfig tables otherTables,
      readTables files config = some tables →
      readTables otherFiles otherConfig = some otherTables →
      Relation.ReflTransGen Inputs.Omits (Inputs.mk tables environment network given)
        (Inputs.mk otherTables otherEnvironment network given) →
      ∀ overrides, loadOverrides files environment config network given = .ok overrides ↔
        loadOverrides otherFiles otherEnvironment otherConfig network given = .ok overrides) := by
  refine ⟨fun overrides => loadOverrides_ok_iff, ?_, ?_⟩
  · intro overrides tables loaded read absent layer flag sets strongest
    obtain ⟨found, readAgain, settles⟩ := loadOverrides_ok_iff.mp loaded
    rw [read, Option.some.injEq] at readAgain
    subst readAgain
    exact noWait_of_not_given settles absent sets strongest
  · intro otherFiles otherEnvironment otherConfig tables otherTables read readOther omissions
      overrides
    have alike := Inputs.alike_of_omissions omissions
    rw [loadOverrides_ok_iff, loadOverrides_ok_iff, read, readOther]
    simp only [Option.some.injEq, exists_eq_left']
    exact ⟨fun settles => settles.of_alike alike, fun settles => settles.of_alike alike.symm⟩

/-- A file with a table for each layer and one for another network. -/
def layeredText : String :=
  "[Default]\nbinary = \"wasmd\"\ngas_prices = \"1uluna\"\n" ++
    "[staging]\nchain_id = 7\n" ++
    "[TestNet]\nchain_id = \"test-1\"\ngas_prices = \"2uluna\"\nretries = 3\n" ++
    "[GLOBAL]\ngas_prices = \"3uluna\"\n"

def layeredFiles : FileTree :=
  { entries := [(["margined.toml"], .file layeredText.toUTF8)], workingDirectory := [] }

def usedVariables : Environment := [("PATH", "/bin"), ("Margined_No_Wait", "true")]

/-- The last variable leads to no setting. -/
def layeredVariables : Environment := usedVariables ++ [("MARGINED_LOG.LEVEL", "info")]

def layeredGiven : Overrides := { Overrides.none with confirmationTimeout := some 30 }

def layeredOverrides : Overrides :=
  { Overrides.none with
    chainId := some "test-1"
    binary := some "wasmd"
    gasPrices := some "3uluna"
    confirmationTimeout := some 30
    noWait := true }

/-- The flag is given in a variable, though the command line is stronger. -/
theorem layeredVariables_sets_flag : layeredVariables.Sets "no_wait" (.flag true) := by
  have held : (layeredVariables.fields.lookup? "no_wait").bind Value.asFlag? = some true := by
    decide +kernel
  obtain ⟨value, found, read⟩ := Option.bind_eq_some_iff.mp held
  cases Value.asFlag?_eq_some_iff.mp read
  exact Environment.lookup?_fields_iff.mp found

theorem layeredVariables_omits (tables : Tables) :
    Inputs.Omits (Inputs.mk tables layeredVariables "testnet" layeredGiven)
      (Inputs.mk tables (usedVariables ++ []) "testnet" layeredGiven) := by
  have leads : Environment.LeadsTo "MARGINED_LOG.LEVEL" ["log", "level"] :=
    Environment.settingPath?_eq_some_iff.mp (by decide +kernel)
  refine .entry rfl fun name known path astray => ?_
  obtain ⟨rfl, -⟩ := List.cons.inj (leads.unique astray)
  exact absurd known (by decide)

theorem loadOverrides_takes_strongest_layered :
    loadOverrides layeredFiles layeredVariables "margined.toml" "testnet" layeredGiven =
        .ok layeredOverrides ∧
      layeredGiven.noWait = false ∧ layeredOverrides.noWait = true ∧
      loadOverrides layeredFiles usedVariables "margined.toml" "testnet" layeredGiven =
        .ok layeredOverrides ∧
      ∃ tables, readTables layeredFiles "margined.toml" = some tables ∧
        (Inputs.mk tables layeredVariables "testnet" layeredGiven).Settles layeredOverrides := by
  have loads : (loadOverrides layeredFiles layeredVariables "margined.toml" "testnet"
      layeredGiven).toOption = some layeredOverrides := by
    decide +kernel
  have loaded := Json.ok_of_toOption loads
  obtain ⟨settled, chosen, unmoved⟩ := loadOverrides_takes_strongest layeredFiles
    layeredVariables "margined.toml" "testnet" layeredGiven
  obtain ⟨tables, read, settles⟩ := (settled layeredOverrides).mp loaded
  have waits : layeredOverrides.noWait = true := by
    apply chosen layeredOverrides tables loaded read rfl .environment true
    · exact layeredVariables_sets_flag
    · intro other below above
      cases other with
      | commandLine => exact absurd rfl below
      | environment | everywhere | network | default => exact absurd above (by decide)
  have without := (unmoved layeredFiles usedVariables "margined.toml" tables tables read read
    (.single (layeredVariables_omits tables)) layeredOverrides).mp loaded
  exact ⟨loaded, rfl, waits, without, tables, read, settles⟩

end PerpDeploy
