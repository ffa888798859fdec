import NpuStack.FileFault

/-! Files that commands read and write. -/

set_option autoImplicit false

namespace NpuStack.Cli

structure FileAccess (m : Type → Type) where
  read : String → m (Except FileFault ByteArray)
  write : String → ByteArray → m (Except FileFault Unit)

end NpuStack.Cli
