import PerpDeploy.Chain.Scripted
import PerpDeploy.Main
import PerpDeploy.Proofs.Run.Agreement
import PerpDeploy.Proofs.Run.Confidentiality
import PerpDeploy.Proofs.Run.Independence
import PerpDeploy.Proofs.Run.Persistence
import PerpDeploy.Proofs.Run.Signing
import PerpDeploy.Proofs.Run.StaticCheck
import PerpDeploy.Proofs.Run.Wiring
import PerpDeploy.Proofs.Manifest.RoundTrip
import PerpDeploy.Proofs.Manifest.History
import PerpDeploy.Proofs.Run.Preflight
import PerpDeploy.Proofs.Codec.Hex
import PerpDeploy.Proofs.Chain.Polling
import PerpDeploy.Proofs.Chain.Reply
import PerpDeploy.Proofs.Chain.Pairing
import PerpDeploy.Proofs.Chain.Confirmation
import PerpDeploy.Proofs.Run.Replay
import PerpDeploy.Proofs.Run.Confirmation
import PerpDeploy.Proofs.Pipeline.History
import PerpDeploy.Proofs.Run.Diagnosis
import PerpDeploy.Proofs.Json.Writing
import PerpDeploy.Proofs.Contract.Message
import PerpDeploy.Proofs.Settings.Confirmation
import PerpDeploy.Proofs.Profile.Fingerprint
import PerpDeploy.Proofs.Json.Place
import PerpDeploy.Proofs.Pipeline.Injection
import PerpDeploy.Proofs.Run.Rehearsal
import PerpDeploy.Proofs.Run.Granting
import PerpDeploy.Proofs.CommandLine.DryRun
import PerpDeploy.Proofs.Codec.Base64
import PerpDeploy.Proofs.Chain.Attribute
import PerpDeploy.Proofs.Chain.Inclusion
import PerpDeploy.Proofs.Number.Natural
import PerpDeploy.Proofs.Profile.Requirement
import PerpDeploy.Proofs.Layers.Environment
import PerpDeploy.Proofs.Layers.Precedence
import PerpDeploy.Proofs.Text.Trim
import PerpDeploy.Proofs.Settings.Overriding
import PerpDeploy.Proofs.CommandLine.Selection
import PerpDeploy.Proofs.Chain.Address
import PerpDeploy.Proofs.Run.Addressing
import PerpDeploy.Proofs.Contract.Registration
import PerpDeploy.Proofs.Chain.Numbering
import PerpDeploy.Proofs.Chain.Retrying
