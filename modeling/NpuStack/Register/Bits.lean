/-! Bits of the control and status registers. -/

set_option autoImplicit false

namespace NpuStack

namespace Ctrl

def enable : UInt32 := 0x1
def start : UInt32 := 0x2
def reset : UInt32 := 0x4
def abort : UInt32 := 0x8

end Ctrl

namespace Status

def busy : UInt32 := 0x1
def done : UInt32 := 0x2
def error : UInt32 := 0x4
def idle : UInt32 := 0x8

def stateField (status : UInt32) : UInt8 := ((status >>> 4) &&& 0xF).toUInt8

def word (bits : UInt32) (state : UInt32) : UInt32 := bits ||| (state <<< 4)

end Status

namespace Irq

def done : UInt32 := 0x1
def error : UInt32 := 0x2
def dmaDone : UInt32 := 0x4
def dmaError : UInt32 := 0x8

def clearAll : UInt32 := 0xFFFFFFFF

/-- Interrupts that the host serves when it runs with interrupts. -/
def served : UInt32 := done ||| error ||| dmaDone

end Irq

namespace DmaCtrl

def start : UInt32 := 0x1
def abort : UInt32 := 0x2
def irqEnable : UInt32 := 0x4
def mode2d : UInt32 := 0x8

def channel (select : UInt32) : UInt32 := select <<< 4

end DmaCtrl

namespace DmaStatus

def busy : UInt32 := 0x1
def done : UInt32 := 0x2
def error : UInt32 := 0x4

end DmaStatus

namespace PeCtrl

def clearAcc : UInt32 := 0x2

end PeCtrl

namespace PerfCtrl

def enable : UInt32 := 0x1
def reset : UInt32 := 0x2

end PerfCtrl

end NpuStack
