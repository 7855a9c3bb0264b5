/-
What a mode selects. Everything about a run follows from its network, the settings and the one
mnemonic to sign with, and the key that is built in signs on a local chain only.
-/

import PerpDeploy.CommandLine.Program
import PerpDeploy.Proofs.Text.Trim

namespace PerpDeploy

open Text (Trimmed isBlank)

namespace Network

/-- The profile that a network is deployed with. -/
def standardProfile : Network → Profile
  | .localChain => .localChain
  | .testnet => .testnet

theorem profile_eq (network : Network) : network.profile = .ok network.standardProfile := by
  cases network <;> rfl

theorem standardProfile_valid (network : Network) : network.standardProfile.validate = .ok () := by
  cases network <;> rfl

theorem parse_text (network : Network) : parse network.text = .ok network := by
  cases network <;> rfl

theorem parse_ok_iff {mode : String} {network : Network} :
    parse mode = .ok network ↔ mode = network.text := by
  constructor
  · intro parsed
    unfold parse at parsed
    split at parsed
    case h_1 found among =>
      cases parsed
      have same := List.find?_some among
      exact (beq_iff_eq.mp same).symm
    case h_2 => cases parsed
  · intro named
    rw [named, parse_text]

theorem configuration_of_parse {mode : String} {failure : Failure}
    (unknown : parse mode = .error failure) : ∃ reason, failure = .configuration reason := by
  unfold parse at unknown
  split at unknown
  case h_1 => cases unknown
  case h_2 =>
    cases unknown
    exact ⟨_, rfl⟩

/-- Where the mnemonic comes from that a run on a network signs with. -/
inductive Signs (secrets : Secrets) : Network → String → Prop
  | supplied {network : Network} {given mnemonic : String}
      (present : secrets.mnemonic = some given) (trimmed : Trimmed given mnemonic)
      (nonempty : mnemonic ≠ "") : Signs secrets network mnemonic
  | builtIn (blank : ∀ given ∈ secrets.mnemonic, ∀ c ∈ given.toList, isBlank c = true) :
      Signs secrets .localChain localMnemonic

theorem Signs.ne_empty {secrets : Secrets} {network : Network} {mnemonic : String}
    (signs : Signs secrets network mnemonic) : mnemonic ≠ "" := by
  cases signs with
  | supplied present trimmed nonempty => exact nonempty
  | builtIn blank => decide

end Network

open Network (Signs)

theorem NetworkSettings.configuration_of_validate {settings : NetworkSettings} {failure : Failure}
    (refused : settings.validate = .error failure) :
    ∃ reason, failure = .configuration reason := by
  unfold validate at refused
  split at refused
  case h_1 =>
    cases refused
    exact ⟨_, rfl⟩
  case h_2 =>
    split at refused
    case h_1 =>
      cases refused
      exact ⟨_, rfl⟩
    case h_2 =>
      split at refused
      case h_1 => cases refused
      case h_2 =>
        cases refused
        exact ⟨_, rfl⟩

namespace Selection

/-! ### The mnemonic -/

theorem usableMnemonic_eq_some_iff {secrets : Secrets} {mnemonic : String} :
    usableMnemonic secrets = some mnemonic ↔
      ∃ given, secrets.mnemonic = some given ∧ Trimmed given mnemonic ∧ mnemonic ≠ "" := by
  rw [usableMnemonic, Option.filter_eq_some_iff, Option.map_eq_some_iff, Bool.not_eq_true',
    Bool.eq_false_iff, Ne, String.isEmpty_iff]
  constructor
  · intro ⟨⟨given, present, trimmed⟩, nonempty⟩
    exact ⟨given, present, Text.trim_eq_iff.mp trimmed, nonempty⟩
  · intro ⟨given, present, trimmed, nonempty⟩
    exact ⟨⟨given, present, trimmed.eq_trim⟩, nonempty⟩

theorem usableMnemonic_eq_none_iff {secrets : Secrets} :
    usableMnemonic secrets = none ↔
      ∀ given ∈ secrets.mnemonic, ∀ c ∈ given.toList, isBlank c = true := by
  rw [usableMnemonic, Option.filter_eq_none_iff]
  constructor
  · intro unusable given present
    have empty := unusable (Text.trim given) (Option.mem_map_of_mem Text.trim present)
    rw [Bool.not_eq_true', Bool.not_eq_false, String.isEmpty_iff] at empty
    exact Text.trim_eq_empty_iff.mp empty
  · intro blank mnemonic trimmed
    obtain ⟨given, present, same⟩ := Option.map_eq_some_iff.mp trimmed
    rw [← same, Text.trim_eq_empty_iff.mpr (blank given present)]
    exact Bool.false_ne_true

theorem signs_iff {network : Network} {secrets : Secrets} {mnemonic : String} :
    Signs secrets network mnemonic ↔
      usableMnemonic secrets = some mnemonic ∨
        usableMnemonic secrets = none ∧ network = .localChain ∧
          mnemonic = Network.localMnemonic := by
  rw [usableMnemonic_eq_some_iff, usableMnemonic_eq_none_iff]
  constructor
  · intro signs
    cases signs with
    | supplied present trimmed nonempty => exact Or.inl ⟨_, present, trimmed, nonempty⟩
    | builtIn blank => exact Or.inr ⟨blank, rfl, rfl⟩
  · rintro (⟨given, present, trimmed, nonempty⟩ | ⟨blank, rfl, rfl⟩)
    · exact .supplied present trimmed nonempty
    · exact .builtIn blank

theorem identityFor_ok_iff {network : Network} {keyName : String} {secrets : Secrets}
    {identity : Identity} :
    identityFor network keyName secrets = .ok identity ↔
      identity.keyName = keyName ∧
        ∃ mnemonic, identity.mnemonic = some mnemonic ∧ Signs secrets network mnemonic := by
  obtain ⟨name, held⟩ := identity
  cases usable : usableMnemonic secrets with
  | some mnemonic =>
      have chosen : identityFor network keyName secrets =
          .ok { keyName, mnemonic := some mnemonic } := by
        cases network <;> simp only [identityFor, usable]
      simp [chosen, signs_iff, usable, eq_comm]
  | none =>
      cases network with
      | localChain => simp [identityFor, usable, signs_iff, eq_comm]
      | testnet => simp [identityFor, usable, signs_iff]

/-- An identity is wanting only on a testnet, for lack of a mnemonic. -/
theorem identityFor_error_iff {network : Network} {keyName : String} {secrets : Secrets}
    {failure : Failure} :
    identityFor network keyName secrets = .error failure ↔
      network = .testnet ∧
      (∀ given ∈ secrets.mnemonic, ∀ c ∈ given.toList, isBlank c = true) ∧
      failure = .configuration "a deployer mnemonic is required for testnet deployments" := by
  rw [← usableMnemonic_eq_none_iff]
  cases usable : usableMnemonic secrets with
  | some mnemonic => cases network <;> simp [identityFor, usable]
  | none => cases network <;> simp [identityFor, usable, eq_comm]

/-! ### The selection -/

/-- A selection that is all of one piece. -/
structure Resolves (selection : Selection) (mode : String) (overrides : Overrides)
    (secrets : Secrets) : Prop where
  named : mode = selection.network.text
  profile : Profile.forNetwork mode = .ok selection.profile
  profileValid : selection.profile.validate = .ok ()
  settings : selection.settings = selection.network.defaultSettings.withOverrides overrides
  settingsValid : selection.settings.validate = .ok selection.nodeUrl
  keyName : selection.identity.keyName = selection.settings.keyName
  signs : ∃ mnemonic, selection.identity.mnemonic = some mnemonic ∧
    Signs secrets selection.network mnemonic

/-- The client that a selection talks to its node with. -/
def client (selection : Selection) (host : NodeHost) : NodeClient :=
  { host, settings := selection.settings, nodeUrl := selection.nodeUrl.text }

theorem Resolves.profile_eq {selection : Selection} {mode : String} {overrides : Overrides}
    {secrets : Secrets} (resolves : selection.Resolves mode overrides secrets) :
    selection.profile = selection.network.standardProfile := by
  have profile := resolves.profile
  rw [resolves.named] at profile
  exact Except.ok.inj (profile.symm.trans selection.network.profile_eq)

theorem ofMode_of_unknown {mode : String} {failure : Failure}
    (unknown : Network.parse mode = .error failure) (overrides : Overrides) (secrets : Secrets) :
    ofMode mode overrides secrets = .error failure := by
  simp only [ofMode, unknown, bind, Except.bind]

/-- What a network comes to with these overrides, the address of its node and the identity that
signs. -/
def ofNetwork (network : Network) (overrides : Overrides) (nodeUrl : Url) (identity : Identity) :
    Selection :=
  { network
    profile := network.standardProfile
    settings := network.defaultSettings.withOverrides overrides
    nodeUrl
    identity }

section

variable {network : Network} {overrides : Overrides}

theorem ofMode_of_refused {failure : Failure}
    (refused : (network.defaultSettings.withOverrides overrides).validate = .error failure)
    (secrets : Secrets) : ofMode network.text overrides secrets = .error failure := by
  simp only [ofMode, network.parse_text, network.profile_eq, network.standardProfile_valid, refused,
    bind, Except.bind]

theorem ofMode_of_valid {nodeUrl : Url}
    (valid : (network.defaultSettings.withOverrides overrides).validate = .ok nodeUrl)
    (secrets : Secrets) :
    ofMode network.text overrides secrets =
      (identityFor network (network.defaultSettings.withOverrides overrides).keyName secrets).map
        (ofNetwork network overrides nodeUrl) := by
  simp only [ofMode, network.parse_text, network.profile_eq, network.standardProfile_valid, valid,
    bind, Except.bind]
  rfl

theorem ofNetwork_resolves {nodeUrl : Url} {secrets : Secrets} {identity : Identity}
    (valid : (network.defaultSettings.withOverrides overrides).validate = .ok nodeUrl)
    (identified : identityFor network
      (network.defaultSettings.withOverrides overrides).keyName secrets = .ok identity) :
    (ofNetwork network overrides nodeUrl identity).Resolves network.text overrides secrets where
  named := rfl
  profile := network.profile_eq
  profileValid := network.standardProfile_valid
  settings := rfl
  settingsValid := valid
  keyName := (identityFor_ok_iff.mp identified).1
  signs := (identityFor_ok_iff.mp identified).2

end

/-- The mode, the settings and the mnemonic are looked at in this order. -/
theorem ofMode_cases (mode : String) (overrides : Overrides) (secrets : Secrets) :
    (∃ failure, Network.parse mode = .error failure ∧
      ofMode mode overrides secrets = .error failure) ∨
    (∃ (network : Network) (failure : Failure), mode = network.text ∧
      (network.defaultSettings.withOverrides overrides).validate = .error failure ∧
      ofMode mode overrides secrets = .error failure) ∨
    (∃ (network : Network) (keyName : String) (failure : Failure), mode = network.text ∧
      identityFor network keyName secrets = .error failure ∧
      ofMode mode overrides secrets = .error failure) ∨
    ∃ selection : Selection, selection.Resolves mode overrides secrets ∧
      ofMode mode overrides secrets = .ok selection := by
  cases parsed : Network.parse mode with
  | error failure => exact Or.inl ⟨failure, rfl, ofMode_of_unknown parsed overrides secrets⟩
  | ok network =>
      obtain rfl := Network.parse_ok_iff.mp parsed
      refine Or.inr ?_
      cases valid : (network.defaultSettings.withOverrides overrides).validate with
      | error failure =>
          exact Or.inl ⟨network, failure, rfl, valid, ofMode_of_refused valid secrets⟩
      | ok nodeUrl =>
          have selected := ofMode_of_valid valid secrets
          refine Or.inr ?_
          cases identified : identityFor network
            (network.defaultSettings.withOverrides overrides).keyName secrets with
          | error failure =>
              rw [identified] at selected
              exact Or.inl ⟨network, _, failure, rfl, identified, selected⟩
          | ok identity =>
              rw [identified] at selected
              exact Or.inr ⟨_, ofNetwork_resolves valid identified, selected⟩

theorem ofMode_of_resolves {mode : String} {overrides : Overrides} {secrets : Secrets}
    {selection : Selection} (resolves : selection.Resolves mode overrides secrets) :
    ofMode mode overrides secrets = .ok selection := by
  have valid := resolves.settingsValid
  have identified := identityFor_ok_iff.mpr ⟨resolves.keyName, resolves.signs⟩
  rw [resolves.settings] at valid identified
  rw [resolves.named, ofMode_of_valid valid, identified, Except.map, ofNetwork,
    ← resolves.profile_eq, ← resolves.settings]

theorem ofMode_ok_iff {mode : String} {overrides : Overrides} {secrets : Secrets}
    {selection : Selection} :
    ofMode mode overrides secrets = .ok selection ↔
      selection.Resolves mode overrides secrets := by
  constructor
  · intro selected
    obtain ⟨_, _, refused⟩ | ⟨_, _, _, _, refused⟩ | ⟨_, _, _, _, _, refused⟩ |
      ⟨found, resolves, ended⟩ := ofMode_cases mode overrides secrets
    · rw [refused] at selected
      cases selected
    · rw [refused] at selected
      cases selected
    · rw [refused] at selected
      cases selected
    · rw [ended] at selected
      cases selected
      exact resolves
  · exact ofMode_of_resolves

/-- What nothing is selected for is always told as a problem of the configuration. -/
theorem configuration_of_ofMode {mode : String} {overrides : Overrides} {secrets : Secrets}
    {failure : Failure} (stopped : ofMode mode overrides secrets = .error failure) :
    ∃ reason, failure = .configuration reason := by
  obtain ⟨_, unknown, refused⟩ | ⟨_, _, _, invalid, refused⟩ | ⟨_, _, _, _, unsigned, refused⟩ |
    ⟨_, _, ended⟩ := ofMode_cases mode overrides secrets
  · rw [refused] at stopped
    cases stopped
    exact Network.configuration_of_parse unknown
  · rw [refused] at stopped
    cases stopped
    exact NetworkSettings.configuration_of_validate invalid
  · rw [refused] at stopped
    cases stopped
    exact ⟨_, (identityFor_error_iff.mp unsigned).2.2⟩
  · rw [ended] at stopped
    cases stopped

theorem exists_signs_iff {network : Network} {secrets : Secrets} :
    (∃ mnemonic, Signs secrets network mnemonic) ↔
      (network = .testnet →
        ∃ given ∈ secrets.mnemonic, ∃ c ∈ given.toList, isBlank c = false) := by
  have usable : usableMnemonic secrets ≠ none ↔
      ∃ given ∈ secrets.mnemonic, ∃ c ∈ given.toList, isBlank c = false := by
    rw [Ne, usableMnemonic_eq_none_iff]
    simp only [not_forall, Bool.not_eq_true, exists_prop]
  rw [← usable]
  simp only [signs_iff]
  cases held : usableMnemonic secrets with
  | some mnemonic => simp
  | none => cases network <;> simp

/-- A selection for a mode: its network has to exist, the settings have to be usable, and a testnet
needs a mnemonic that is not blank. -/
theorem exists_resolves_iff {mode : String} {overrides : Overrides} {secrets : Secrets} :
    (∃ selection : Selection, selection.Resolves mode overrides secrets) ↔
      ∃ network : Network, mode = network.text ∧
        (∃ nodeUrl, (network.defaultSettings.withOverrides overrides).validate = .ok nodeUrl) ∧
        (network = .testnet →
          ∃ given ∈ secrets.mnemonic, ∃ c ∈ given.toList, isBlank c = false) := by
  constructor
  · intro ⟨selection, resolves⟩
    obtain ⟨mnemonic, _, signs⟩ := resolves.signs
    exact ⟨selection.network, resolves.named,
      ⟨selection.nodeUrl, resolves.settings ▸ resolves.settingsValid⟩,
      exists_signs_iff.mp ⟨mnemonic, signs⟩⟩
  · intro ⟨network, named, ⟨nodeUrl, valid⟩, signed⟩
    obtain ⟨mnemonic, signs⟩ := exists_signs_iff.mpr signed
    have identified : identityFor network
        (network.defaultSettings.withOverrides overrides).keyName secrets =
        .ok { keyName := _, mnemonic := some mnemonic } :=
      identityFor_ok_iff.mpr ⟨rfl, mnemonic, rfl, signs⟩
    rw [named]
    exact ⟨_, ofNetwork_resolves valid identified⟩

end Selection

namespace CommandLine

/-- The run that a deployment makes. -/
def deploymentOf (world : World) (selection : Selection) (deployer : Deployer) :
    RunSetting NodeState :=
  let node : NodeClient :=
    { host := world.node, settings := selection.settings, nodeUrl := selection.nodeUrl.text }
  { deployer
    client := node.chainClient
    profile := selection.profile
    identity := selection.identity
    clock := world.clock }

theorem deploy_of_built {options : Options} {overrides : Overrides} {world : World}
    {selection : Selection} {files : FileTree} {deployer : Deployer}
    (selected : Selection.ofMode options.network overrides { mnemonic := options.mnemonic } =
      .ok selection)
    (built : (deploymentPlan options selection.settings).build world.temporary world.files =
      (files, .ok deployer)) :
    deploy options overrides world =
      .ofExecution ((deploymentOf world selection deployer).execute NodeState.initial files)
        id := by
  simp only [deploy, selected, built, deploymentOf]

theorem deploy_of_unselected {options : Options} {overrides : Overrides} {world : World}
    {failure : Failure}
    (refused : Selection.ofMode options.network overrides { mnemonic := options.mnemonic } =
      .error failure) :
    deploy options overrides world = .stopped failure.trail world.files := by
  simp only [deploy, refused]

/-- A mode selects something exactly if it names a network whose settings are usable with the
overrides, and for a testnet there is a mnemonic that is not blank; anything else is a problem of
the configuration. What is selected is all of one piece, and so is the run that is made with it. -/
theorem selection_coherent (mode : String) (overrides : Overrides) (secrets : Secrets) :
    ((∃ selection, Selection.ofMode mode overrides secrets = .ok selection) ↔
      ∃ network : Network, mode = network.text ∧
        (∃ nodeUrl, (network.defaultSettings.withOverrides overrides).validate = .ok nodeUrl) ∧
        (network = .testnet →
          ∃ given ∈ secrets.mnemonic, ∃ c ∈ given.toList, isBlank c = false)) ∧
    (∀ failure, Selection.ofMode mode overrides secrets = .error failure →
      ∃ reason, failure = .configuration reason) ∧
    (∀ selection, Selection.ofMode mode overrides secrets = .ok selection ↔
      selection.Resolves mode overrides secrets) ∧
    ∀ options : Options, options.network = mode → options.mnemonic = secrets.mnemonic →
      ∀ world : World,
        (∀ failure, Selection.ofMode mode overrides secrets = .error failure →
          deploy options overrides world = .stopped failure.trail world.files) ∧
        ∀ selection files deployer, Selection.ofMode mode overrides secrets = .ok selection →
          (deploymentPlan options selection.settings).build world.temporary world.files =
            (files, .ok deployer) →
          ∃ setting : RunSetting NodeState,
            setting.client = (selection.client world.node).chainClient ∧
            setting.profile = selection.profile ∧ setting.identity = selection.identity ∧
            deploy options overrides world =
              .ofExecution (setting.execute NodeState.initial files) id := by
  refine ⟨?_, fun failure => Selection.configuration_of_ofMode, fun selection =>
    Selection.ofMode_ok_iff, ?_⟩
  · rw [← Selection.exists_resolves_iff]
    exact exists_congr fun selection => Selection.ofMode_ok_iff
  · intro options named signed world
    rw [← named]
    have same : secrets = { mnemonic := options.mnemonic } := by rw [signed]
    rw [same]
    refine ⟨fun failure => deploy_of_unselected, fun selection files deployer selected built => ?_⟩
    exact ⟨deploymentOf world selection deployer, rfl, rfl, rfl, deploy_of_built selected built⟩

end CommandLine

end PerpDeploy
