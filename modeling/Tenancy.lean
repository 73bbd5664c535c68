import Tenancy.Estate
import Tenancy.Main
import Tenancy.Proofs.Program.Action
import Tenancy.Proofs.Program.Trail
import Tenancy.Proofs.Teardown.Completion
import Tenancy.Proofs.Teardown.Gate
import Tenancy.Proofs.Batch
import Tenancy.Proofs.Cleanup.Orderly
import Tenancy.Proofs.Cleanup.Pass
import Tenancy.Proofs.Cleanup.Safety
import Tenancy.Proofs.Cleanup.Tags
import Tenancy.Proofs.Batch.Course
import Tenancy.Proofs.Batch.Single
import Tenancy.Proofs.Program.Ensuring
import Tenancy.Proofs.Teardown.Reliability
import Tenancy.Proofs.Fleet.Frame
import Tenancy.Proofs.Cleanup.Opening
import Tenancy.Proofs.Cleanup.Convergence
import Tenancy.Proofs.Cleanup.Containment
import Tenancy.Proofs.Program.Steady
import Tenancy.Proofs.Teardown.Stage
import Tenancy.Proofs.Teardown.Halting
import Tenancy.Proofs.Cleanup.Shutdown
import Tenancy.Proofs.Batch.Pace
import Tenancy.Proofs.Program.Muting
import Tenancy.Proofs.Teardown.Heedless
import Tenancy.Proofs.Estate.Determinacy
import Tenancy.Proofs.Cleanup.Policies
import Tenancy.Proofs.Cleanup.Independence
import Tenancy.Proofs.Cleanup.Interchange
import Tenancy.Proofs.Batch.Scene
import Tenancy.Proofs.Cleanup.Concurrence
import Tenancy.Proofs.Cleanup.Retries
import Tenancy.Proofs.DeviceApi.Contract
import Tenancy.Proofs.Fleet.Furnishing
import Tenancy.Proofs.Provisioning.Course
import Tenancy.Proofs.Provisioning.Creation
import Tenancy.Proofs.Cleanup.Restoration
import Tenancy.Proofs.Batch.Window
import Tenancy.Proofs.Batch.Sequence
import Tenancy.Proofs.Cleanup.Parallelism
import Tenancy.Proofs.Batch.Unsignalled
import Tenancy.Proofs.Agenda
import Tenancy.Proofs.Signal.History
import Tenancy.Proofs.Signal.Pauses
import Tenancy.Proofs.Cleanup.Ports
import Tenancy.Proofs.Deletion.Attempts
import Tenancy.Proofs.Text.Percent
import Tenancy.Proofs.Web.Path
import Tenancy.Proofs.DeviceApi.Addresses
import Tenancy.Proofs.Web.Query
import Tenancy.Proofs.Gateway
import Tenancy.Proofs.DeviceApi.Classification
import Tenancy.Proofs.Blame
import Tenancy.Proofs.Teardown.Rereading
import Tenancy.Proofs.Cleanup.Offers
import Tenancy.Proofs.Forms
import Tenancy.Proofs.Complaints
import Tenancy.Proofs.Gateway.Credentials
