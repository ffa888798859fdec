import NpuStack.Cli.Run

/-! The command line tool. -/

set_option autoImplicit false

namespace NpuStack

def FileFault.ofSystem : IO.Error → FileFault
  | .noFileOrDirectory _ code reason | .noSuchThing _ code reason | .permissionDenied _ code reason
  | .inappropriateType _ code reason | .resourceExhausted _ code reason
  | .invalidArgument _ code reason =>
    ⟨reason ++ " (os error " ++ toString code.toNat ++ ")"⟩
  | cause => ⟨toString cause⟩

namespace Cli

def systemFiles : FileAccess IO where
  read path := do
    try return .ok (← IO.FS.readBinFile path)
    catch cause => return .error (.ofSystem cause)
  write path data := do
    try return .ok (← IO.FS.writeBinFile path data)
    catch cause => return .error (.ofSystem cause)

def Outcome.emit (outcome : Outcome) : IO UInt32 := do
  match outcome with
  | .success output => IO.print output
  | .failure report => IO.eprint (renderReport report)
  | .misuse detail => IO.eprintln ("error: " ++ detail.getD "invalid arguments")
  | .trapped cause => IO.eprintln cause.message
  return outcome.exitCode

end Cli

end NpuStack

def main (arguments : List String) : IO UInt32 := do
  (← NpuStack.Cli.run NpuStack.Cli.systemFiles arguments).emit
