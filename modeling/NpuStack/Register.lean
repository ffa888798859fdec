/-! The register block: a window of 32-bit words, some of which are registers. -/

set_option autoImplicit false

namespace NpuStack

inductive Register where
  | ctrl
  | status
  | irqEn
  | irqStatus
  | version
  | config
  | errorCode
  | debugCtrl
  | instBase
  | instSize
  | instPtr
  | instCtrl
  | weightBase
  | weightSize
  | weightCtrl
  | actInBase
  | actInSize
  | actOutBase
  | actOutSize
  | actCtrl
  | dmaCtrl
  | dmaStatus
  | dmaSrc
  | dmaDst
  | dmaLen
  | dmaSrcStride
  | dmaDstStride
  | peCtrl
  | peStatus
  | peConfig
  | perfCtrl
  | perfCyclesLo
  | perfCyclesHi
  | perfInstCnt
  | perfMacLo
  | perfMacHi
  | perfStallCnt
  | perfDmaCnt
  | layerType
  | layerInCh
  | layerOutCh
  | layerInH
  | layerInW
  | layerOutH
  | layerOutW
  | layerKernel
  | layerStride
  | layerPadding
  | layerActType
  | layerPoolType
  | layerQuantScale
  | layerQuantZero
  deriving DecidableEq, Repr

namespace Register

def windowBytes : Nat := 0x1000

def windowWords : Nat := 1024

def offset : Register → Nat
  | .ctrl => 0x000
  | .status => 0x004
  | .irqEn => 0x008
  | .irqStatus => 0x00C
  | .version => 0x010
  | .config => 0x014
  | .errorCode => 0x018
  | .debugCtrl => 0x01C
  | .instBase => 0x100
  | .instSize => 0x104
  | .instPtr => 0x108
  | .instCtrl => 0x10C
  | .weightBase => 0x200
  | .weightSize => 0x204
  | .weightCtrl => 0x208
  | .actInBase => 0x300
  | .actInSize => 0x304
  | .actOutBase => 0x308
  | .actOutSize => 0x30C
  | .actCtrl => 0x310
  | .dmaCtrl => 0x400
  | .dmaStatus => 0x404
  | .dmaSrc => 0x408
  | .dmaDst => 0x40C
  | .dmaLen => 0x410
  | .dmaSrcStride => 0x414
  | .dmaDstStride => 0x418
  | .peCtrl => 0x500
  | .peStatus => 0x504
  | .peConfig => 0x508
  | .perfCtrl => 0x600
  | .perfCyclesLo => 0x604
  | .perfCyclesHi => 0x608
  | .perfInstCnt => 0x60C
  | .perfMacLo => 0x610
  | .perfMacHi => 0x614
  | .perfStallCnt => 0x618
  | .perfDmaCnt => 0x61C
  | .layerType => 0x700
  | .layerInCh => 0x704
  | .layerOutCh => 0x708
  | .layerInH => 0x70C
  | .layerInW => 0x710
  | .layerOutH => 0x714
  | .layerOutW => 0x718
  | .layerKernel => 0x71C
  | .layerStride => 0x720
  | .layerPadding => 0x724
  | .layerActType => 0x728
  | .layerPoolType => 0x72C
  | .layerQuantScale => 0x730
  | .layerQuantZero => 0x734

def name : Register → String
  | .ctrl => "Ctrl"
  | .status => "Status"
  | .irqEn => "IrqEn"
  | .irqStatus => "IrqStatus"
  | .version => "Version"
  | .config => "Config"
  | .errorCode => "ErrorCode"
  | .debugCtrl => "DebugCtrl"
  | .instBase => "InstBase"
  | .instSize => "InstSize"
  | .instPtr => "InstPtr"
  | .instCtrl => "InstCtrl"
  | .weightBase => "WeightBase"
  | .weightSize => "WeightSize"
  | .weightCtrl => "WeightCtrl"
  | .actInBase => "ActInBase"
  | .actInSize => "ActInSize"
  | .actOutBase => "ActOutBase"
  | .actOutSize => "ActOutSize"
  | .actCtrl => "ActCtrl"
  | .dmaCtrl => "DmaCtrl"
  | .dmaStatus => "DmaStatus"
  | .dmaSrc => "DmaSrc"
  | .dmaDst => "DmaDst"
  | .dmaLen => "DmaLen"
  | .dmaSrcStride => "DmaSrcStride"
  | .dmaDstStride => "DmaDstStride"
  | .peCtrl => "PeCtrl"
  | .peStatus => "PeStatus"
  | .peConfig => "PeConfig"
  | .perfCtrl => "PerfCtrl"
  | .perfCyclesLo => "PerfCyclesLo"
  | .perfCyclesHi => "PerfCyclesHi"
  | .perfInstCnt => "PerfInstCnt"
  | .perfMacLo => "PerfMacLo"
  | .perfMacHi => "PerfMacHi"
  | .perfStallCnt => "PerfStallCnt"
  | .perfDmaCnt => "PerfDmaCnt"
  | .layerType => "LayerType"
  | .layerInCh => "LayerInCh"
  | .layerOutCh => "LayerOutCh"
  | .layerInH => "LayerInH"
  | .layerInW => "LayerInW"
  | .layerOutH => "LayerOutH"
  | .layerOutW => "LayerOutW"
  | .layerKernel => "LayerKernel"
  | .layerStride => "LayerStride"
  | .layerPadding => "LayerPadding"
  | .layerActType => "LayerActType"
  | .layerPoolType => "LayerPoolType"
  | .layerQuantScale => "LayerQuantScale"
  | .layerQuantZero => "LayerQuantZero"

def all : List Register :=
  [.ctrl, .status, .irqEn, .irqStatus, .version, .config, .errorCode, .debugCtrl, .instBase,
   .instSize, .instPtr, .instCtrl, .weightBase, .weightSize, .weightCtrl, .actInBase,
   .actInSize, .actOutBase, .actOutSize, .actCtrl, .dmaCtrl, .dmaStatus, .dmaSrc, .dmaDst,
   .dmaLen, .dmaSrcStride, .dmaDstStride, .peCtrl, .peStatus, .peConfig, .perfCtrl,
   .perfCyclesLo, .perfCyclesHi, .perfInstCnt, .perfMacLo, .perfMacHi, .perfStallCnt,
   .perfDmaCnt, .layerType, .layerInCh, .layerOutCh, .layerInH, .layerInW, .layerOutH,
   .layerOutW, .layerKernel, .layerStride, .layerPadding, .layerActType, .layerPoolType,
   .layerQuantScale, .layerQuantZero]

def ofOffset? (offset : Nat) : Option Register := all.find? (·.offset == offset)

def ofName? (name : String) : Option Register := all.find? (·.name == name)

def wordIndex (reg : Register) : Nat := reg.offset / 4

theorem wordIndex_lt (reg : Register) : reg.wordIndex < windowWords := by
  cases reg <;> decide

theorem ofOffset?_offset (reg : Register) : ofOffset? reg.offset = some reg := by
  cases reg <;> rfl

theorem wordIndex_mul (reg : Register) : reg.wordIndex * 4 = reg.offset := by
  cases reg <;> rfl

theorem eq_of_wordIndex {first second : Register} (same : first.wordIndex = second.wordIndex) :
    first = second := by
  have offsets : first.offset = second.offset := by
    rw [← wordIndex_mul, ← wordIndex_mul, same]
  have found := ofOffset?_offset first
  rw [offsets, ofOffset?_offset] at found
  exact (Option.some.inj found).symm

end Register

structure RegisterFile where
  words : Vector UInt32 Register.windowWords
  deriving DecidableEq

namespace RegisterFile

def zero : RegisterFile := ⟨Vector.replicate _ 0⟩

def get (file : RegisterFile) (reg : Register) : UInt32 :=
  have inWindow := reg.wordIndex_lt
  file.words[reg.wordIndex]

def set (file : RegisterFile) (reg : Register) (value : UInt32) : RegisterFile :=
  ⟨file.words.set reg.wordIndex value reg.wordIndex_lt⟩

@[simp] theorem get_set_same (file : RegisterFile) (reg : Register) (value : UInt32) :
    (file.set reg value).get reg = value := by
  simp [get, set]

@[simp] theorem get_set_of_ne (file : RegisterFile) {reg other : Register} (value : UInt32)
    (apart : reg ≠ other) : (file.set reg value).get other = file.get other := by
  have distinct : reg.wordIndex ≠ other.wordIndex := fun same => apart (Register.eq_of_wordIndex same)
  simp [get, set, distinct]

end RegisterFile

end NpuStack
