import AgentAnvil.Lib.GuardedRun
import AgentAnvil.Lib.Sha256
import AgentAnvil.Operator.Types
import AgentAnvil.Operator.Build
import AgentAnvil.Operator.Cluster
import AgentAnvil.Operator.Reconcile
import AgentAnvil.Operator.System
import AgentAnvil.Operator.Proofs.Versions
import AgentAnvil.Operator.Proofs.OnePod
import AgentAnvil.Operator.Proofs.WellMade
import AgentAnvil.Operator.Proofs.Egress
import AgentAnvil.Operator.Proofs.StatusHistory
import AgentAnvil.Operator.Proofs.TerminalPhase
import AgentAnvil.Operator.Proofs.Lifecycle
import AgentAnvil.Operator.Proofs.Settling
import AgentAnvil.Operator.Proofs.TaskYaml
import AgentAnvil.Lib.Json
import AgentAnvil.Lib.JsonFields
import AgentAnvil.Operator.SpecJson
import AgentAnvil.Lib.Py
import AgentAnvil.Lib.Lines
import AgentAnvil.Sdk.Clock
import AgentAnvil.Sdk.Events
import AgentAnvil.Sdk.Config
import AgentAnvil.Sdk.Pricing
import AgentAnvil.Sdk.Client
import AgentAnvil.Sdk.Tools
import AgentAnvil.Lib.Utf8
import AgentAnvil.Lib.FileTree
import AgentAnvil.Lib.Disk
import AgentAnvil.Sdk.FileTools
import AgentAnvil.Sdk.Builtins
import AgentAnvil.Sdk.Loop
import AgentAnvil.Sdk.Script
import AgentAnvil.Sdk.Legs
import AgentAnvil.Sdk.Transcript
import AgentAnvil.Sdk.Proofs.Grammar
import AgentAnvil.Sdk.Proofs.Conversation
import AgentAnvil.Sdk.Proofs.RequestHash
import AgentAnvil.Sdk.Proofs.Replay
import AgentAnvil.Sdk.Proofs.LineNumbers
import AgentAnvil.Sdk.Proofs.FileEffects
import AgentAnvil.Sdk.Proofs.Confinement
import AgentAnvil.Sdk.Proofs.ToolResults
import AgentAnvil.Sdk.Proofs.Journal
import AgentAnvil.Sdk.Trace
import AgentAnvil.Sdk.Proofs.Totals
import AgentAnvil.Sdk.Proofs.StepCount
import AgentAnvil.Sdk.Anthropic
import AgentAnvil.Sdk.Proofs.OwnTurn
import AgentAnvil.Sdk.Pydantic
import AgentAnvil.Sdk.TraceFile
import AgentAnvil.Sdk.Proofs.TraceReading
import AgentAnvil.Sdk.TaskFile
import AgentAnvil.Sdk.Proofs.TaskLoading
import AgentAnvil.Sdk.Proofs.Splice
import AgentAnvil.Sdk.Proofs.Rewriting
import AgentAnvil.Sdk.Proofs.FailedMutations
import AgentAnvil.Sdk.Proofs.EventPaths
import AgentAnvil.Lib.Dns1123
import AgentAnvil.Operator.Proofs.ObjectNames
import AgentAnvil.Operator.Proofs.StatusWrites
import AgentAnvil.Sdk.Proofs.Truncation
import AgentAnvil.Sdk.Proofs.StepBound
import AgentAnvil.Sdk.Proofs.ExitCodes
import AgentAnvil.Sdk.Proofs.ReplayClock
import AgentAnvil.Lib.WorkQueue
import AgentAnvil.Operator.Watch
import AgentAnvil.Operator.Proofs.Wakeups
import AgentAnvil.Operator.Proofs.Collection
import AgentAnvil.Sdk.Proofs.RunEffects
import AgentAnvil.Sdk.Proofs.HashChain
import AgentAnvil.Sdk.Main
import AgentAnvil.Sdk.Proofs.EntryPoint
import AgentAnvil.Sdk.Proofs.MainEffects
import AgentAnvil.Sdk.Proofs.PodRuns
import AgentAnvil.Lib.KeyedStore
import AgentAnvil.Sdk.Proofs.TextStore
import AgentAnvil.Sdk.EventJson
import AgentAnvil.Sdk.Proofs.Recording
import AgentAnvil.Lib.Ration
import AgentAnvil.Sdk.Proofs.CutReplay
