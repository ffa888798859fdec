/-! Why a layer cannot be lowered. -/

set_option autoImplicit false

namespace NpuStack

inductive CompileError where
  | invalidLayer (reason : String)
  | unsupportedLayer (kind : String)
  | sequenceOverflow (bound : Nat)
  deriving DecidableEq, Repr

def CompileError.message : CompileError → String
  | .invalidLayer reason => "Invalid layer: " ++ reason
  | .unsupportedLayer kind => "Unsupported layer: " ++ kind
  | .sequenceOverflow bound =>
    "Instruction sequence exceeds bound of " ++ toString bound ++ " instructions"

end NpuStack
