import Rollout.Abi.Call
import Rollout.Abi.Encoding
import Rollout.Abi.Interface
import Rollout.Abi.Kind
import Rollout.Abi.Parameters
import Rollout.Address
import Rollout.Artifact
import Rollout.Bytecode
import Rollout.Chain.Node
import Rollout.Client
import Rollout.CommandLine.Argument
import Rollout.CommandLine.Option
import Rollout.CommandLine.Parser
import Rollout.CommandLine.Run
import Rollout.CommandLine.Settings
import Rollout.Consent
import Rollout.Contract
import Rollout.Deployment
import Rollout.Fault
import Rollout.File.Path
import Rollout.File.Problem
import Rollout.File.Tree
import Rollout.Genesis
import Rollout.Genesis.Source
import Rollout.Hash.Keccak
import Rollout.Hash.Mac
import Rollout.Hash.Sha2
import Rollout.Hex
import Rollout.Json.Body
import Rollout.Json.Parser
import Rollout.Json.Printer
import Rollout.Main
import Rollout.Number.Binary64
import Rollout.Number.Binary64.Shortest
import Rollout.Number.Literal
import Rollout.Octets
import Rollout.Proofs.Abi.Call
import Rollout.Proofs.Abi.Creation
import Rollout.Proofs.Abi.Legible
import Rollout.Proofs.Abi.Parameters
import Rollout.Proofs.Action
import Rollout.Proofs.Address
import Rollout.Proofs.Artifact
import Rollout.Proofs.Bytecode
import Rollout.Proofs.Bytecode.Digits
import Rollout.Proofs.Bytecode.Simultaneous
import Rollout.Proofs.Client
import Rollout.Proofs.Client.Discipline
import Rollout.Proofs.Client.Memory
import Rollout.Proofs.Client.Plan
import Rollout.Proofs.Client.Rounds
import Rollout.Proofs.Client.Showing
import Rollout.Proofs.CommandLine.Settings
import Rollout.Proofs.CommandLine.Supplied
import Rollout.Proofs.Consent
import Rollout.Proofs.Deployment.Calls
import Rollout.Proofs.Deployment.Completed
import Rollout.Proofs.Deployment.Consent
import Rollout.Proofs.Deployment.Malformed
import Rollout.Proofs.Deployment.Order
import Rollout.Proofs.Deployment.Outage
import Rollout.Proofs.Deployment.Output
import Rollout.Proofs.Deployment.Record
import Rollout.Proofs.Deployment.Rerun
import Rollout.Proofs.Deployment.Run
import Rollout.Proofs.Deployment.Stages
import Rollout.Proofs.Deployment.Steps
import Rollout.Proofs.Deployment.Supplied
import Rollout.Proofs.Except
import Rollout.Proofs.File.Directories
import Rollout.Proofs.File.Overwrite
import Rollout.Proofs.File.Path
import Rollout.Proofs.File.Tree
import Rollout.Proofs.Hex
import Rollout.Proofs.Octets
import Rollout.Proofs.Outage
import Rollout.Proofs.Parallel
import Rollout.Proofs.Registry.Agreement
import Rollout.Proofs.Registry.Last
import Rollout.Proofs.Registry.Log
import Rollout.Proofs.Registry.Publish
import Rollout.Proofs.Registry.Record
import Rollout.Proofs.Registry.Resolve
import Rollout.Proofs.Registry.RoundTrip
import Rollout.Proofs.Resolution.Closure
import Rollout.Proofs.Resolution.Creation
import Rollout.Proofs.Resolution.Deploy
import Rollout.Proofs.Resolution.Initializer
import Rollout.Proofs.Resolution.Lazy
import Rollout.Proofs.Resolution.Order
import Rollout.Proofs.Resolution.Steps
import Rollout.Proofs.Script
import Rollout.Proofs.Text
import Rollout.Proofs.Text.Lines
import Rollout.Proofs.Text.Utf8
import Rollout.Registry
import Rollout.Registry.Command
import Rollout.Registry.Completion
import Rollout.Registry.Record
import Rollout.Registry.Resolve
import Rollout.Resolution
import Rollout.Session
import Rollout.Text.Blank
import Rollout.Text.Digit
import Rollout.Text.Lines
import Rollout.Text.Order
import Rollout.Text.Printable
import Rollout.Text.Quoted
import Rollout.Text.Similarity
import Rollout.Text.Surrogate
import Rollout.Text.Utf16
import Rollout.Text.Utf8
import Rollout.Value
import Rollout.Wallet.Curve
import Rollout.Wallet.KeyPath
import Rollout.Wallet.Mnemonic
import Rollout.Wallet.WordList
import Rollout.Web
import Rollout.Proofs.Abi.Parameters
import Rollout.Proofs.Resolution.Initializer
import Rollout.Proofs.Registry.Parts
import Rollout.Proofs.Address.Spelling
import Rollout.Proofs.CommandLine.Argument
import Rollout.Proofs.Registry.Conflict
import Rollout.Proofs.Bytecode.Placeholder
import Rollout.Proofs.Bytecode.Missing
import Rollout.Proofs.Number.Numeral
import Rollout.Proofs.Number.Literal
import Rollout.Proofs.Genesis
import Rollout.Proofs.Json.Parser
import Rollout.Proofs.Genesis.Answer
import Rollout.Proofs.Genesis.Calls
import Rollout.Proofs.File.Way
import Rollout.Proofs.File.Room
import Rollout.Proofs.Registry.Target
import Rollout.Proofs.Artifact.Document
import Rollout.Proofs.Artifact.History
