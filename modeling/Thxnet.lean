import Thxnet.Agent.Escrows
import Thxnet.Agent.Metadata
import Thxnet.Agent.Pages
import Thxnet.Agent.Standing
import Thxnet.Agent.Stranded
import Thxnet.Agent.Validations
import Thxnet.Crowdfunding.Caps
import Thxnet.Crowdfunding.Completion
import Thxnet.Crowdfunding.Milestones
import Thxnet.Crowdfunding.Outcome
import Thxnet.Crowdfunding.Pausing
import Thxnet.Crowdfunding.Queries
import Thxnet.Crowdfunding.RefundOrder
import Thxnet.Crowdfunding.Refunds
import Thxnet.Crowdfunding.Slots
import Thxnet.Crowdfunding.WhitelistCount
import Thxnet.Crowdfunding.Withdrawals
import Thxnet.Dao.Backing
import Thxnet.Dao.Interference
import Thxnet.Dao.Topics
import Thxnet.Fork.Rotation
import Thxnet.Fork.SessionKeys
import Thxnet.Fork.Supply
import Thxnet.Grandpa.Migration
import Thxnet.Parachains.Configuration
import Thxnet.Proxy.Lattice
import Thxnet.Runtime.Guard
import Thxnet.Runtime.Outliving
import Thxnet.Rwa.Cap
import Thxnet.Rwa.Deactivation
import Thxnet.Rwa.Escrow
import Thxnet.Rwa.Queries
import Thxnet.Rwa.Renewal
import Thxnet.Rwa.Slashing
import Thxnet.Rwa.TryState
import Thxnet.Xcm.Reserve
