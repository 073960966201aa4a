import KernelWait.Operation
import KernelWait.Stored.Refusals
import KernelWait.Stored.Settings
import KernelWait.Stored.Watches
import KernelWait.Trace
import KernelWait.Wait.Syscall
import KernelWait.Proofs.Accounts
import KernelWait.Proofs.Alignment
import KernelWait.Proofs.Broadcast
import KernelWait.Proofs.Channels
import KernelWait.Proofs.Deadlines
import KernelWait.Proofs.Directory
import KernelWait.Proofs.Displacement
import KernelWait.Proofs.Permits
import KernelWait.Proofs.Rearrangement
import KernelWait.Proofs.SingleShot
import KernelWait.Proofs.StoredForms
import KernelWait.Proofs.Tenure
import KernelWait.Proofs.Truthfulness
import KernelWait.Proofs.Undisturbed
import KernelWait.Proofs.Vigil
