import NpuStack.Main
import NpuStack.Device.Mapped
import NpuStack.Device.Scripted
import NpuStack.Host.Record
import NpuStack.Proofs.Codec
import NpuStack.Proofs.Checked
import NpuStack.Proofs.Lowering.Coverage
import NpuStack.Proofs.Lowering.Discipline
import NpuStack.Proofs.Accounting
import NpuStack.Proofs.Host.StateMachine
import NpuStack.Proofs.Host.Fault
import NpuStack.Proofs.Host.Refusal
import NpuStack.Proofs.Host.Uninitialised
import NpuStack.Proofs.Host.Ending
import NpuStack.Proofs.Host.Duration
import NpuStack.Proofs.Simulator.Memory
import NpuStack.Proofs.Simulator.History
import NpuStack.Proofs.Simulator.Transfer
import NpuStack.Proofs.Model.Image
import NpuStack.Proofs.Simulator.Loading
import NpuStack.Proofs.Loading
import NpuStack.Proofs.Reload
import NpuStack.Proofs.Oversized
import NpuStack.Proofs.Model.Header
import NpuStack.Proofs.Model.Draft
import NpuStack.Proofs.Model.Grammar
import NpuStack.Proofs.Agreement
import NpuStack.Proofs.Completion
import NpuStack.Proofs.Delivery
import NpuStack.Proofs.Launch
import NpuStack.Proofs.Conservation
import NpuStack.Proofs.Recovery
import NpuStack.Proofs.Boot
import NpuStack.Proofs.Disabled
import NpuStack.Proofs.Ledger
import NpuStack.Proofs.Simulator.Flat
import NpuStack.Proofs.Mapped
import NpuStack.Proofs.Encoding
import NpuStack.Proofs.Operand
import NpuStack.Proofs.Lowering.Growth
import NpuStack.Proofs.Lowering.Acceptance
import NpuStack.Proofs.Lowering.Overflow
import NpuStack.Proofs.Lowering.Flattening
import NpuStack.Proofs.Lowering.Movement
import NpuStack.Proofs.Placement
import NpuStack.Proofs.Host.Deadline
import NpuStack.Proofs.Waiting
import NpuStack.Proofs.Host.Slot
import NpuStack.Proofs.Output
import NpuStack.Proofs.Model.Corruption
import NpuStack.Proofs.Listing
import NpuStack.Proofs.SelfTest
import NpuStack.Proofs.Geometry
import NpuStack.Proofs.Lowering.Splitting
