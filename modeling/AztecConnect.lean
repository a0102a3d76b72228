import AztecConnect.Basic
import AztecConnect.BridgeTxQueue
import AztecConnect.PreSort
import AztecConnect.Selection
import AztecConnect.Publish
import AztecConnect.SelectionLimits
import AztecConnect.Summary
import AztecConnect.Distinct
import AztecConnect.Chains
import AztecConnect.DepositController
import AztecConnect.DepositFlow
import AztecConnect.AztecSdk
import AztecConnect.Lifecycle
import AztecConnect.TickSegments
