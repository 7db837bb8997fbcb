import ChainGateway.Main
import ChainGateway.Proofs.Affinity.Origins
import ChainGateway.Proofs.Affinity.Overflow
import ChainGateway.Proofs.Affinity.Span
import ChainGateway.Proofs.Check.Cancellation
import ChainGateway.Proofs.Check.Launches
import ChainGateway.Proofs.Check.Runs
import ChainGateway.Proofs.Check.Specification
import ChainGateway.Proofs.Documents
import ChainGateway.Proofs.FrontDoor.Canonical
import ChainGateway.Proofs.FrontDoor.Forwarding
import ChainGateway.Proofs.FrontDoor.Payload
import ChainGateway.Proofs.Gateway.Acceptance
import ChainGateway.Proofs.Gateway.Accounting
import ChainGateway.Proofs.Gateway.CallerIdentity
import ChainGateway.Proofs.SessionCache.Lifetime
import ChainGateway.Proofs.Gateway.Indifference
import ChainGateway.Proofs.Gateway.Selection
import ChainGateway.Proofs.Net.Failover
import ChainGateway.Proofs.Repository.Resolution
