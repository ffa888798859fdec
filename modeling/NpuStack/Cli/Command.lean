import NpuStack.Cli.Arguments
import NpuStack.Cli.Number
import NpuStack.Compiler.Lowering
import NpuStack.Text.Terminal

/-! Commands and their arguments, and the layer that layer arguments describe. -/

set_option autoImplicit false

namespace NpuStack.Cli

inductive LayerChoice where
  | conv
  | dwconv
  | fc
  | maxpool
  | avgpool
  | gap
  | gmp
  deriving DecidableEq, Repr

namespace LayerChoice

def name : LayerChoice → String
  | .conv => "conv"
  | .dwconv => "dwconv"
  | .fc => "fc"
  | .maxpool => "maxpool"
  | .avgpool => "avgpool"
  | .gap => "gap"
  | .gmp => "gmp"

def all : List LayerChoice := [.conv, .dwconv, .fc, .maxpool, .avgpool, .gap, .gmp]

def ofName? (name : String) : Option LayerChoice := all.find? (·.name == name)

end LayerChoice

structure LayerArgs where
  kind : LayerChoice := .conv
  inChannels : UInt32 := 16
  outChannels : UInt32 := 16
  height : UInt32 := 8
  width : UInt32 := 8
  kernel : UInt8 := 3
  stride : UInt8 := 1
  pad : UInt8 := 0
  relu : Bool := false
  deriving DecidableEq, Repr

inductive Command where
  | encode (opcode : String) (flags operand : UInt64)
  | decode (words : List UInt64)
  | disasm (model : String)
  | inspect (model : String)
  | compile (layer : LayerArgs) (weights : Option String) (output : String)
  | simulate (layer : LayerArgs)
  | help
  deriving DecidableEq, Repr

/-- A report: what went wrong, then its causes from the outermost in. -/
abbrev Report := List String

namespace LayerArgs

def narrowing : String := NumberFault.tooLarge.message

def narrow (value : UInt64) (what : String) : Attempt Report UInt32 :=
  if value.toNat < UInt32.size then pure value.toUInt32 else Failure.report [what, narrowing]

def outputExtent (args : LayerArgs) (extent pad : UInt32) : Attempt Report UInt32 := do
  let kernel := args.kernel.toUInt32
  let padded ← Checked.add32 extent (2 * pad)
  if padded < kernel then
    Failure.report ["kernel " ++ toString kernel.toNat ++ " larger than padded input "
      ++ toString padded.toNat]
  return (padded - kernel) / args.stride.toUInt32 + 1

def windowed (args : LayerArgs) (addr channels pad : UInt32) : Attempt Report Tensor := do
  let height ← args.outputExtent args.height pad
  let width ← args.outputExtent args.width pad
  return .single addr channels height width

def poolingOf (kind : LayerKind) (input output : Tensor) (pool : PoolParams) : Attempt Report Layer :=
  match Layer.pooling kind input output pool with
  | .ok layer => pure layer
  | .error fault => Failure.report [fault.toError.message]

/-- The layer without its activation. The output starts where the input ends. -/
def plain (args : LayerArgs) : Attempt Report Layer := do
  if args.stride = 0 ∨ args.kernel = 0 then
    Failure.report ["kernel and stride must be non-zero"]
  let input := Tensor.single 0 args.inChannels args.height args.width
  let outAddr ← narrow (← input.byteSize) "input tensor too large"
  let area := args.kernel.toUInt32 * args.kernel.toUInt32
  let conv := ((ConvParams.square args.kernel).withStride args.stride).withPadding args.pad
  match args.kind with
  | .conv =>
    let output ← args.windowed outAddr args.outChannels args.pad.toUInt32
    return .conv2d input output (.single 0 args.outChannels args.inChannels area) conv
  | .dwconv =>
    let output ← args.windowed outAddr args.inChannels args.pad.toUInt32
    return .depthwiseConv2d input output (.single 0 args.inChannels args.inChannels area) conv
  | .fc =>
    let features ← narrow (← input.elements) "input too large"
    return .fullyConnected input (.single outAddr args.outChannels 1 1)
      (.single 0 args.outChannels features 1)
  | .maxpool =>
    let output ← args.windowed outAddr args.inChannels 0
    poolingOf .maxPool input output (.square args.kernel args.stride)
  | .avgpool =>
    let output ← args.windowed outAddr args.inChannels 0
    poolingOf .avgPool input output (.square args.kernel args.stride)
  | .gap => poolingOf .globalAvgPool input (.single outAddr args.inChannels 1 1) {}
  | .gmp => poolingOf .globalMaxPool input (.single outAddr args.inChannels 1 1) {}

def layer (args : LayerArgs) : Attempt Report Layer := do
  let plain ← args.plain
  return if args.relu then { plain with activation := .relu } else plain

end LayerArgs

def helpHint : String := "\n\nFor more information, try '\x1b[1m--help\x1b[0m'.\n"

/-- The first line that a terminal shows of a refusal. A control sequence that the refusal leaves open
goes on into the hint. -/
def Misuse.ofText (text : String) : Misuse where
  detail := ((Text.plain (text ++ helpHint)).splitOn "\n").head?

/-- A value that is a 64-bit word; the refusal quotes it. -/
def checkWord (text : String) : Except Misuse Unit :=
  match readWord text with
  | .ok _ => .ok ()
  | .error fault => .error (.ofText ("'" ++ text ++ "': " ++ fault.message))

def checkBelow (limit : Nat) (text : String) : Except Misuse Unit :=
  if (readBelow? limit text).isSome then .ok () else .error {}

def checkPath (text : String) : Except Misuse Unit := if text = "" then .error {} else .ok ()

def checkKind (text : String) : Except Misuse Unit :=
  if (LayerChoice.ofName? text).isSome then .ok () else .error {}

def encodeParameters : List Parameter :=
  [{ name := "opcode", shape := .place, required := true },
   { name := "flags", shape := .option, check := checkWord },
   { name := "operand", shape := .option, check := checkWord }]

def decodeParameters : List Parameter :=
  [{ name := "words", shape := .places, required := true, check := checkWord }]

def modelParameters : List Parameter :=
  [{ name := "model", shape := .place, required := true, check := checkPath }]

def layerParameters : List Parameter :=
  [{ name := "kind", shape := .option, check := checkKind },
   { name := "in-ch", shape := .option, check := checkBelow UInt32.size },
   { name := "out-ch", shape := .option, check := checkBelow UInt32.size },
   { name := "height", shape := .option, check := checkBelow UInt32.size },
   { name := "width", shape := .option, check := checkBelow UInt32.size },
   { name := "kernel", shape := .option, check := checkBelow UInt8.size },
   { name := "stride", shape := .option, check := checkBelow UInt8.size },
   { name := "pad", shape := .option, check := checkBelow UInt8.size },
   { name := "relu", shape := .switch }]

def compileParameters : List Parameter :=
  layerParameters ++
  [{ name := "weights", shape := .option, check := checkPath },
   { name := "output", shape := .option, short := some 'o', required := true, check := checkPath }]

def Bindings.word (bindings : Bindings) (name : String) : UInt64 :=
  match (bindings.value? name).map readWord with
  | some (.ok value) => value
  | _ => 0

def Bindings.number (bindings : Bindings) (name : String) (limit default : Nat) : Nat :=
  ((bindings.value? name).bind (readBelow? limit)).getD default

def Bindings.layerArgs (bindings : Bindings) : LayerArgs where
  kind := ((bindings.value? "kind").bind LayerChoice.ofName?).getD .conv
  inChannels := .ofNat (bindings.number "in-ch" UInt32.size 16)
  outChannels := .ofNat (bindings.number "out-ch" UInt32.size 16)
  height := .ofNat (bindings.number "height" UInt32.size 8)
  width := .ofNat (bindings.number "width" UInt32.size 8)
  kernel := .ofNat (bindings.number "kernel" UInt8.size 3)
  stride := .ofNat (bindings.number "stride" UInt8.size 1)
  pad := .ofNat (bindings.number "pad" UInt8.size 0)
  relu := (bindings.lookup "relu").isSome

/-- Read the arguments of one command; asking for help is a command of its own. -/
def readCommand (parameters : List Parameter) (make : Bindings → Command)
    (arguments : List String) : Except Misuse Command := do
  match ← readArguments parameters arguments with
  | none => return .help
  | some bindings => return make bindings

def Bindings.text (bindings : Bindings) (name : String) : String := (bindings.value? name).getD ""

def commandNames : List String := ["encode", "decode", "disasm", "inspect", "compile", "simulate"]

def Command.parse : List String → Except Misuse Command
  | [] => .error {}
  | "encode" :: rest => readCommand encodeParameters
      (fun b => .encode (b.text "opcode") (b.word "flags") (b.word "operand")) rest
  | "decode" :: rest => readCommand decodeParameters
      (fun b => .decode (((b.lookup "words").getD []).map fun text =>
        match readWord text with
        | .ok value => value
        | .error _ => 0)) rest
  | "disasm" :: rest => readCommand modelParameters (fun b => .disasm (b.text "model")) rest
  | "inspect" :: rest => readCommand modelParameters (fun b => .inspect (b.text "model")) rest
  | "compile" :: rest => readCommand compileParameters
      (fun b => .compile b.layerArgs (b.value? "weights") (b.text "output")) rest
  | "simulate" :: rest => readCommand layerParameters (fun b => .simulate b.layerArgs) rest
  | ["help"] => .ok .help
  | ["help", name] => if name ∈ "help" :: commandNames then .ok .help else .error {}
  | first :: _ =>
    match first.toList with
    | '-' :: 'h' :: _ => .ok .help
    | '-' :: 'V' :: _ => .ok .help
    | _ => if first ∈ ["--help", "--version"] then .ok .help else .error {}

end NpuStack.Cli
