import Unchain.Kernel.Mirror
import Unchain.Optimizers.ToolPairSafety
import Unchain.Kernel.Protection
import Unchain.Context.AtMostOnce
import Unchain.Context.Projector
import Unchain.Workspace.Undo
import Unchain.ContextContent.PagedRead
import Unchain.Tools.OutputManagement
import Unchain.Jobs.Logs
import Unchain.Context.CheckpointIdentity
import Unchain.Journal.Freeze
import Unchain.Journal.Recovery
import Unchain.Accounting.Wire
import Unchain.Memory.Fencing
import Unchain.Interaction.Accounting
import Unchain.Interaction.StaysBound
import Unchain.Memory.RestoreAgreement
import Unchain.Kernel.LoopOutcomes
import Unchain.Tools.ExposurePlans
import Unchain.Providers.TurnRuns
import Unchain.MemorySpace.Interleavings
import Unchain.Optimizers.WindowBudget
import Unchain.Artifacts.FileDiff
import Unchain.Skills.BlockScalars
import Unchain.Skills.Quoting
import Unchain.Subagents.Caps
import Unchain.Execution.Lifecycle
import Unchain.Tools.BudgetAccounting
import Unchain.Accounting.ContinuationChains
import Unchain.Accounting.Details
import Unchain.Accounting.Estimates
import Unchain.Accounting.UsageSums
import Unchain.Jobs.ErrorPath
import Unchain.Jobs.Pump
import Unchain.Retry.Executor
import Unchain.Kernel.ProviderAttempts
import Unchain.Toolkits.ShellOutput
import Unchain.Tools.ArgumentRepair
import Unchain.Toolkits.LineNumbers
