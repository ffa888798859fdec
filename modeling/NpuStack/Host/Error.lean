import NpuStack.Compiler.Error
import NpuStack.Model.Header
import NpuStack.Trap

/-! Errors that the host reports, with the numeric codes shared with firmware. -/

set_option autoImplicit false

namespace NpuStack

inductive HostError where
  | invalidParam (reason : String)
  | notInitialized
  | busy (operation : String)
  | timeout (microseconds : UInt64)
  | hwFault (code : UInt32)
  | overflow (what : String) (requested capacity : UInt64)
  | invalidModel (reason : String)
  | invalidOp (reason : String)
  | notReady (reason : String)
  | dma (reason : String)
  | invalidState (state : String)
  | file (reason : String)
  | compile (cause : CompileError)
  deriving DecidableEq, Repr

namespace HostError

def message : HostError → String
  | .invalidParam reason => "Invalid parameter: " ++ reason
  | .notInitialized => "Runtime not initialized"
  | .busy operation => "Device busy, cannot " ++ operation
  | .timeout microseconds => "Operation timeout after " ++ toString microseconds.toNat ++ "us"
  | .hwFault code => "Hardware fault (error code " ++ Text.hexMarkedFixed 8 code.toNat ++ ")"
  | .overflow what requested capacity =>
    what ++ " overflow: " ++ toString requested.toNat ++ " bytes requested, capacity "
      ++ toString capacity.toNat
  | .invalidModel reason => "Invalid model: " ++ reason
  | .invalidOp reason => "Invalid operation: " ++ reason
  | .notReady reason => "Not ready: " ++ reason
  | .dma reason => "DMA error: " ++ reason
  | .invalidState state => "Device in invalid state: " ++ state
  | .file reason => "I/O error: " ++ reason
  | .compile cause => "Compile error: " ++ cause.message

def statusCode : HostError → Int
  | .invalidParam _ | .invalidModel _ => -2
  | .timeout _ => -3
  | .busy _ => -4
  | .hwFault _ => -5
  | .dma _ => -6
  | .overflow _ _ _ => -7
  | .invalidOp _ => -8
  | .notInitialized | .notReady _ => -9
  | .compile (.sequenceOverflow _) => -7
  | .compile (.unsupportedLayer _) => -8
  | .compile (.invalidLayer _) => -2
  | .invalidState _ | .file _ => -1

def ofModelFault (fault : Model.Fault) : HostError :=
  if fault.isOperation then .invalidOp fault.message else .invalidModel fault.message

def unmapped (addr : UInt32) (len : Nat) : HostError :=
  .invalidParam ("device range " ++ Text.hexMarked addr.toNat ++ "+" ++ Text.hexMarked len
    ++ " is not mapped")

end HostError

end NpuStack
