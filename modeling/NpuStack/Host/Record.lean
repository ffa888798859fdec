import NpuStack.Host.State

/-! The host as a record, field by field, for diagnostics. -/

set_option autoImplicit false

namespace NpuStack

def recordText (name : String) (fields : List (String × String)) : String :=
  name ++ " \x7b " ++ String.intercalate ", " (fields.map fun (field, value) => field ++ ": " ++ value)
    ++ " \x7d"

def flagText (value : Bool) : String := if value then "true" else "false"

def Config.record (config : Config) : String :=
  recordText "RuntimeConfig" [
    ("inst_buf_addr", toString config.instAddr.toNat),
    ("inst_buf_entries", toString config.instEntries.toNat),
    ("weight_buf_addr", toString config.weightAddr.toNat),
    ("weight_buf_size", toString config.weightBytes.toNat),
    ("act_buf_addr", toString config.actAddr.toNat),
    ("act_buf_size", toString config.actBytes.toNat),
    ("enable_irq", flagText config.irq),
    ("enable_perf", flagText config.perf),
    ("poll_interval_us", toString config.pollInterval.toNat),
    ("run_timeout_us", toString config.runTimeout.toNat)]

def Counters.record (counters : Counters) : String :=
  recordText "PerfStats" [
    ("total_cycles", toString counters.totalCycles.toNat),
    ("compute_cycles", toString counters.computeCycles.toNat),
    ("stall_cycles", toString counters.stallCycles.toNat),
    ("mac_ops", toString counters.macOps.toNat),
    ("instructions", toString counters.instructions.toNat),
    ("layers_executed", toString counters.layers.toNat),
    ("dma_transfers", toString counters.transfers.toNat)]

def errorCodeText : Option Int → String
  | none => "None"
  | some code => "Some(" ++ toString code ++ ")"

def Context.record (context : Context) : String :=
  recordText "ExecutionContext" [
    ("state", context.state.label),
    ("last_error", errorCodeText context.lastError),
    ("inst_ptr", toString context.instPtr.toNat),
    ("inst_count", toString context.instCount.toNat),
    ("loop_count", toString context.loopCount.toNat),
    ("loop_start", toString context.loopStart.toNat),
    ("current_layer", toString context.currentLayer.toNat),
    ("total_layers", toString context.totalLayers.toNat),
    ("perf", context.perf.record)]

def Clock.record (clock : Clock) : String := recordText "SimClock" [("now", toString clock.now.toNat)]

/-- The host with the given text for its bus; the transfer engine is left out. -/
def Host.record {β : Type} (host : Host β) (busText : String) : String :=
  "Npu \x7b bus: " ++ busText ++ ", clock: " ++ host.link.clock.record ++ ", config: "
    ++ host.config.record ++ ", ctx: " ++ host.context.record ++ ", handler: "
    ++ flagText host.listening ++ ", .. \x7d"

end NpuStack
