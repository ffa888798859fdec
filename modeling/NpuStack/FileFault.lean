/-! What the machine says about a path. -/

set_option autoImplicit false

namespace NpuStack

/-- Why a path cannot be opened, read, written or mapped, in the words of the machine. -/
structure FileFault where
  message : String
  deriving DecidableEq, Repr

def FileFault.noMemory : FileFault := ⟨"Cannot allocate memory (os error 12)"⟩

end NpuStack
