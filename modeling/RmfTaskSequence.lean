import RmfTaskSequence.Activity
import RmfTaskSequence.Description
import RmfTaskSequence.Simple
import RmfTaskSequence.Live
import RmfTaskSequence.Proofs.Latch
import RmfTaskSequence.Proofs.Timeout
import RmfTaskSequence.Proofs.Requests
import RmfTaskSequence.Proofs.Refinement
import RmfTaskSequence.Proofs.Estimate
import RmfTaskSequence.Shared
import RmfTaskSequence.Proofs.Topics
