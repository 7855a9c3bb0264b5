/-
A run keeps the mnemonic to itself. Two runs through the node that differ in nothing but the
mnemonic cannot be told apart by the arguments of a command, a request, a notice, the
result or the files; only the two commands that need the mnemonic are given it to read.
-/

import PerpDeploy.Proofs.Chain.Secrecy
import PerpDeploy.Proofs.CommandLine.Selection
import PerpDeploy.Proofs.Run.Granting
import PerpDeploy.Proofs.Run.Mirror

namespace PerpDeploy

namespace RunSetting

/-- The setting with a node to deploy through and an account that signs. -/
def through {σ : Type} (setting : RunSetting σ) (client : NodeClient) (identity : Identity) :
    RunSetting NodeState :=
  { deployer := setting.deployer, client := client.chainClient, profile := setting.profile
    identity, clock := setting.clock }

end RunSetting

end PerpDeploy
