import NpuStack.Cli.Command
import NpuStack.Cli.Files
import NpuStack.Device.Simulator
import NpuStack.Host.Running
import NpuStack.Model.Image

/-! What each command does and prints. -/

set_option autoImplicit false

namespace NpuStack.Cli

inductive Outcome where
  | success (output : String)
  | failure (report : Report)
  | misuse (detail : Option String)
  | trapped (cause : Trap)
  deriving DecidableEq, Repr

namespace Outcome

def exitCode : Outcome → UInt32
  | .success _ => 0
  | .failure _ => 1
  | .misuse _ => 2
  | .trapped _ => 101

end Outcome

/-- Causes one to a line; several are numbered. -/
def causeLines : List String → List String
  | [cause] => ["    " ++ cause ++ "\n"]
  | causes => causes.mapIdx fun index cause =>
      Text.padLeft 5 (toString index) ++ ": " ++ cause ++ "\n"

def renderReport : Report → String
  | [] => "Error: \n"
  | [outer] => "Error: " ++ outer ++ "\n"
  | outer :: causes => "Error: " ++ outer ++ "\n\nCaused by:\n" ++ String.join (causeLines causes)

def hostCauses (cause : HostError) : List String :=
  match cause with
  | .compile inner => [cause.message, inner.message]
  | .file inner => [cause.message, inner]
  | _ => [cause.message]

def Outcome.ofAttempt (attempt : Attempt Report String) : Outcome :=
  match attempt with
  | .ok output => .success output
  | .error (.trap cause) => .trapped cause
  | .error (.error report) => .failure report

def readOpcode (text : String) : Attempt Report Opcode :=
  match readWord text with
  | .ok value =>
    if value.toNat < UInt8.size then pure (.ofByte value.toUInt8)
    else Failure.report
      ["opcode " ++ Text.hexMarked value.toNat ++ " exceeds one byte", LayerArgs.narrowing]
  | .error _ =>
    match Opcode.ofMnemonic? text with
    | some op => pure op
    | none => Failure.report ["unknown mnemonic '" ++ text ++ "'"]

def wordLine (inst : Instruction) : String :=
  Text.hexMarkedFixed 16 inst.word.toNat ++ "  " ++ inst.text ++ "\n"

def runEncode (opcode : String) (flags operand : UInt64) : Attempt Report String := do
  let op ← readOpcode opcode
  if UInt8.size ≤ flags.toNat then
    Failure.report ["flags exceed one byte", LayerArgs.narrowing]
  return wordLine (.encode op flags.toUInt8 operand)

def runDecode (words : List UInt64) : String :=
  String.join (words.map fun word => wordLine ⟨word⟩)

def headerText (path : String) (h : Model.Header) : String :=
  "Model        : " ++ path ++ "\n"
    ++ "Version      : " ++ toString (h.version.toNat / 256) ++ "."
    ++ toString (h.version.toNat % 256) ++ "\n"
    ++ "Layers       : " ++ toString h.layerCount.toNat ++ "\n"
    ++ "Instructions : " ++ toString h.instCount.toNat ++ "\n"
    ++ "Weights      : " ++ toString h.weightBytes.toNat ++ " bytes\n"
    ++ "Bias         : " ++ toString h.biasBytes.toNat ++ " bytes\n"
    ++ "Input        : " ++ toString h.inputBytes.toNat ++ " bytes\n"
    ++ "Output       : " ++ toString h.outputBytes.toNat ++ " bytes\n"
    ++ "Workspace    : " ++ toString h.workspaceBytes.toNat ++ " bytes\n"
    ++ "Checksum     : "
    ++ (if h.checksum = 0 then "none\n"
        else Text.hexMarkedFixed 8 h.checksum.toNat ++ " (verified)\n")

def runSimulate (args : LayerArgs) : Attempt Report String := do
  let layer ← args.layer
  let simulator ← Simulator.ofProfile .reference
  let (booted, host) := Host.boot.run (Host.ofBus simulator)
  let info ← inContext ["booting simulator"] booted
  let (ready, host) := (Host.init (.ofProfile info.profile)).run host
  inContext [] ready
  let (ran, _) := (Host.compileAndRun layer).run host
  let perf ← inContext ["running layer"] ran
  return "Device: " ++ info.text ++ "\nLayer : " ++ layer.kind.name ++ "\n" ++ perf.text ++ "\n"
where
  inContext {α : Type} (context : List String) : Attempt HostError α → Attempt Report α
    | .ok value => .ok value
    | .error (.trap cause) => .error (.trap cause)
    | .error (.error cause) => Failure.report (context ++ hostCauses cause)

def draftLayer (args : LayerArgs) : Attempt Report (Layer × Program × Model.Draft) := do
  let layer ← args.layer
  let program ← match layer.compile .reference with
    | .ok program => pure program
    | .error (.trap cause) => .error (.trap cause)
    | .error (.error cause) => Failure.report ["compiling layer", cause.message]
  let inputBytes ← LayerArgs.narrow (← layer.input.byteSize) "input too large"
  let outputBytes ← LayerArgs.narrow (← layer.output.byteSize) "output too large"
  let draft := ({ hasChecksum := true } : Model.Draft).layer program.instructions
  return (layer, program, { draft with inputBytes, outputBytes })

section Access

variable {m : Type → Type} [Monad m] (files : FileAccess m)

def readModel (path : String) : m (Attempt Report Model.Image) := do
  match ← files.read path with
  | .error fault => return Failure.report ["reading " ++ path, fault.message]
  | .ok data =>
    match Model.Image.parse data with
    | .ok image => return .ok image
    | .error (.error fault) =>
      return Failure.report ["parsing " ++ path, (HostError.ofModelFault fault).message]
    | .error (.trap cause) => return .error (.trap cause)

/-- The weights of a model to compile; none are asked for without a path. -/
def readWeights (path : Option String) : m (Attempt Report ByteArray) := do
  match path with
  | none => return .ok .empty
  | some path =>
    match ← files.read path with
    | .error fault => return Failure.report ["reading " ++ path, fault.message]
    | .ok data => return .ok data

def runCompile (args : LayerArgs) (weights : Option String) (output : String) :
    m (Attempt Report String) := do
  match draftLayer args with
  | .error cause => return .error cause
  | .ok (layer, program, draft) =>
    match ← readWeights files weights with
    | .error cause => return .error cause
    | .ok weights =>
      match ({ draft with weights }).build with
      | .error what => return Failure.report [(HostError.invalidParam (what ++ " too large")).message]
      | .ok data =>
        match ← files.write output data with
        | .error fault => return Failure.report ["writing " ++ output, fault.message]
        | .ok () =>
          return .ok ("✅ " ++ layer.kind.name ++ ": " ++ toString program.size
            ++ " instructions, " ++ toString data.size ++ " bytes -> " ++ output ++ "\n")

def helpText : String :=
  "EdgeNPU instruction and model tool\n\nUsage: npu <COMMAND>\n\nCommands:\n"
    ++ "  encode    Assemble one instruction word\n"
    ++ "  decode    Disassemble raw instruction words\n"
    ++ "  disasm    List the instruction stream of a model binary\n"
    ++ "  inspect   Print the header of a model binary\n"
    ++ "  compile   Lower one layer and write it as a model binary\n"
    ++ "  simulate  Run one layer on the simulated device and print the counters\n"
    ++ "  help      Print this message\n"

def Command.run : Command → m Outcome
  | .encode opcode flags operand => return .ofAttempt (runEncode opcode flags operand)
  | .decode words => return .success (runDecode words)
  | .disasm path => do
    return .ofAttempt ((← readModel files path).map fun image => image.program.listing)
  | .inspect path => do
    return .ofAttempt ((← readModel files path).map fun image => headerText path image.header)
  | .compile layer weights output => do
    return .ofAttempt (← runCompile files layer weights output)
  | .simulate layer => return .ofAttempt (runSimulate layer)
  | .help => return .success helpText

def run (arguments : List String) : m Outcome :=
  match Command.parse arguments with
  | .ok command => command.run files
  | .error misuse => return .misuse misuse.detail

end Access

end NpuStack.Cli
