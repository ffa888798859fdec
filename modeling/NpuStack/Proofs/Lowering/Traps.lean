import NpuStack.Compiler.Lowering

/-! The traps of a lowering are those of its arithmetic. It asks no device, so it
never waits for one. -/

set_option autoImplicit false

namespace NpuStack

def Avoids {ε α : Type} (cause : ε) (result : Except ε α) : Prop := result ≠ .error cause

namespace Avoids

variable {ε α γ : Type} {cause : ε}

theorem pure (value : α) : Avoids cause (Pure.pure value : Except ε α) := nofun

theorem bind {first : Except ε α} {next : α → Except ε γ} (left : Avoids cause first)
    (right : ∀ value, Avoids cause (next value)) : Avoids cause (first >>= next) := by
  cases first with
  | error other =>
    intro same
    cases same
    exact left rfl
  | ok value => exact right value

theorem ite {choice : Prop} [Decidable choice] {first second : Except ε α}
    (left : Avoids cause first) (right : Avoids cause second) :
    Avoids cause (if choice then first else second) := by
  split
  · exact left
  · exact right

/-- A step that is taken or skipped, and what follows it. -/
theorem guard {choice : Prop} [Decidable choice] {first : Except ε Unit} {next : Unit → Except ε α}
    (left : Avoids cause first) (right : ∀ value, Avoids cause (next value)) :
    Avoids cause (if choice then first >>= next else next ()) :=
  ite (left.bind right) (right ())

theorem lift {stop : Trap} {number : Checked α} (avoids : Avoids stop number) :
    Avoids (.trap stop) (liftM number : Attempt ε α) := by
  cases number with
  | error other =>
    intro same
    cases same
    exact avoids rfl
  | ok value => exact nofun

theorem report {stop : Trap} (fault : ε) : Avoids (.trap stop) (Failure.report fault : Attempt ε α) :=
  nofun

end Avoids

abbrev Checked.Prompt {α : Type} (number : Checked α) : Prop := Avoids Trap.endlessWait number

namespace Checked

theorem prompt_add32 (a b : UInt32) : Prompt (add32 a b) := .ite nofun nofun
theorem prompt_sub32 (a b : UInt32) : Prompt (sub32 a b) := .ite nofun nofun
theorem prompt_mul32 (a b : UInt32) : Prompt (mul32 a b) := .ite nofun nofun
theorem prompt_divCeil32 (a b : UInt32) : Prompt (divCeil32 a b) := .ite nofun nofun
theorem prompt_add64 (a b : UInt64) : Prompt (add64 a b) := .ite nofun nofun
theorem prompt_mul64 (a b : UInt64) : Prompt (mul64 a b) := .ite nofun nofun

end Checked

open Checked

theorem Tensor.prompt_elements (t : Tensor) : Prompt t.elements :=
  .bind (prompt_mul64 _ _) fun _ => .bind (prompt_mul64 _ _) fun _ => prompt_mul64 _ _

theorem Tensor.prompt_byteSize (t : Tensor) : Prompt t.byteSize :=
  .bind t.prompt_elements fun _ => prompt_mul64 _ _

theorem Layer.prompt_flattened (layer : Layer) : Prompt layer.flattened :=
  .bind (prompt_mul32 _ _) fun _ => .bind (prompt_mul32 _ _) fun _ => .pure _

theorem Tiling.prompt_ofLayer (target : Target) (layer : Layer) : Prompt (ofLayer target layer) :=
  .bind (prompt_divCeil32 _ _) fun _ => .bind (prompt_divCeil32 _ _) fun _ =>
    .bind (prompt_mul64 _ _) fun _ => .bind (prompt_mul64 _ _) fun _ =>
    .bind (prompt_mul64 _ _) fun _ => .bind (prompt_add64 _ _) fun _ => .pure _

namespace Lowering

variable {ε α : Type}

abbrev Prompt (result : Attempt ε α) : Prop := Avoids (.trap .endlessWait) result

theorem prompt_validate (layer : Layer) : Prompt layer.validate := by
  refine .bind (.lift layer.input.prompt_elements) fun _ => .guard (.report _) fun _ =>
    .bind (.lift layer.output.prompt_elements) fun _ => .guard (.report _) fun _ => ?_
  split
  · exact .guard (.report _) fun _ => .ite (.report _) (.pure _)
  · exact .guard (.report _) fun _ => .ite (.report _) (.pure _)
  · exact .ite (.report _) (.pure _)
  · exact .ite (.report _) (.pure _)
  · split
    · exact .report _
    · exact .bind (.lift (Tensor.prompt_byteSize _)) fun _ =>
        .bind (.lift (Tensor.prompt_byteSize _)) fun _ => .ite (.report _) (.pure _)
  · exact .pure _

theorem prompt_check (layer : Layer) : Prompt (check layer) := by
  have valid := prompt_validate layer
  unfold check
  split
  · exact .pure _
  case h_2 cause failed =>
    intro same
    cases same
    exact valid failed
  · exact .report _

theorem prompt_narrow (value : UInt64) (what : String) : Prompt (narrow value what) :=
  .ite (.pure _) (.report _)

theorem prompt_offsetAddress (base offset : UInt32) (what : String) :
    Prompt (offsetAddress base offset what) :=
  .ite (.pure _) (.report _)

theorem prompt_push (program : Program) (inst : Instruction) : Prompt (push program inst) := by
  unfold push
  split
  · exact .pure _
  · exact .report _

theorem prompt_pushChunks (op : Opcode) (src dst len : UInt32) (fuel : Nat) (done : UInt32)
    (program : Program) : Prompt (pushChunks op src dst len fuel done program) := by
  induction fuel generalizing done program with
  | zero => exact .pure _
  | succ fuel ih =>
    exact .bind (.lift (prompt_sub32 _ _)) fun _ => .bind (prompt_offsetAddress _ _ _) fun _ =>
      .bind (prompt_offsetAddress _ _ _) fun _ => .guard (.report _) fun _ =>
      .bind (prompt_push _ _) fun _ => .bind (.lift (prompt_add32 _ _)) fun _ =>
      .ite (.pure _) (ih _ _)

theorem prompt_pushTransfer (op : Opcode) (src dst len : UInt32) (program : Program) :
    Prompt (pushTransfer op src dst len program) :=
  prompt_pushChunks _ _ _ _ _ _ _

theorem prompt_pushInputTiles (inTiles count : UInt32) (fuse : UInt8) (remaining : Nat)
    (tile : UInt32) (program : Program) :
    Prompt (pushInputTiles inTiles count fuse remaining tile program) := by
  induction remaining generalizing tile program with
  | zero => exact .pure _
  | succ remaining ih =>
    exact .bind (prompt_push _ _) fun _ => .bind (.lift (prompt_sub32 _ _)) fun _ =>
      .bind (prompt_push _ _) fun _ => ih _ _

theorem prompt_pushOutputTile (target : Target) (layer : Layer) (tiling : Tiling) (tile : UInt32)
    (program : Program) : Prompt (pushOutputTile target layer tiling tile program) := by
  refine .bind (.lift (prompt_mul32 _ _)) fun _ => .bind (.lift (prompt_add32 _ _)) fun _ =>
    .bind (.lift (prompt_sub32 _ _)) fun _ => .bind (.lift (prompt_mul64 _ _)) fun _ =>
    .bind (prompt_narrow _ _) fun _ => .bind (.lift (prompt_mul64 _ _)) fun _ =>
    .bind (prompt_narrow _ _) fun _ => .bind (prompt_offsetAddress _ _ _) fun _ => ?_
  exact .bind (prompt_pushTransfer _ _ _ _ _) fun _ => .bind (prompt_push _ _) fun _ =>
    .bind (prompt_pushInputTiles _ _ _ _ _ _) fun _ => .bind (.lift (prompt_mul64 _ _)) fun _ =>
    .bind (prompt_narrow _ _) fun _ => .bind (prompt_offsetAddress _ _ _) fun _ =>
    .bind (prompt_push _ _) fun _ => .ite (prompt_push _ _) (.pure _)

theorem prompt_pushOutputTiles (target : Target) (layer : Layer) (tiling : Tiling) (remaining : Nat)
    (tile : UInt32) (program : Program) :
    Prompt (pushOutputTiles target layer tiling remaining tile program) := by
  induction remaining generalizing tile program with
  | zero => exact .pure _
  | succ remaining ih => exact .bind (prompt_pushOutputTile _ _ _ _ _) fun _ => ih _ _

theorem prompt_convolution (target : Target) (layer : Layer) : Prompt (convolution target layer) :=
  .bind (.lift (Tiling.prompt_ofLayer _ _)) fun _ => .bind (prompt_push _ _) fun _ =>
    .bind (prompt_pushOutputTiles _ _ _ _ _ _) fun _ => prompt_push _ _

theorem prompt_pooling (target : Target) (layer : Layer) (op : Opcode) :
    Prompt (pooling target layer op) :=
  .bind (.lift (Tensor.prompt_byteSize _)) fun _ => .bind (prompt_narrow _ _) fun _ =>
    .bind (.lift (Tensor.prompt_byteSize _)) fun _ => .bind (prompt_narrow _ _) fun _ =>
    .bind (prompt_pushTransfer _ _ _ _ _) fun _ => .bind (prompt_push _ _) fun _ =>
    .bind (prompt_push _ _) fun _ => .bind (prompt_pushTransfer _ _ _ _ _) fun _ =>
    .bind (prompt_push _ _) fun _ => prompt_push _ _

theorem prompt_elementwise (target : Target) (layer : Layer) (op : EltwiseOp) (second : Tensor) :
    Prompt (elementwise target layer op second) :=
  .bind (.lift (Tensor.prompt_byteSize _)) fun _ => .bind (prompt_narrow _ _) fun _ =>
    .bind (.lift (Tensor.prompt_byteSize _)) fun _ => .bind (prompt_narrow _ _) fun _ =>
    .bind (prompt_pushTransfer _ _ _ _ _) fun _ => .bind (prompt_push _ _) fun _ =>
    .bind (prompt_pushTransfer _ _ _ _ _) fun _ => .bind (prompt_push _ _) fun _ =>
    .bind (prompt_push _ _) fun _ => .bind (prompt_pushTransfer _ _ _ _ _) fun _ =>
    .bind (prompt_push _ _) fun _ => prompt_push _ _

/-- A layer is compiled, refused, or stopped by a number out of range. -/
theorem prompt_compile (target : Target) (layer : Layer) : Prompt (layer.compile target) := by
  refine .bind (prompt_check layer) fun _ => .guard (.report _) fun _ => ?_
  split
  · exact prompt_convolution _ _
  · exact prompt_convolution _ _
  · exact .bind (.lift layer.prompt_flattened) fun _ => prompt_convolution _ _
  · exact prompt_pooling _ _ _
  · exact prompt_pooling _ _ _
  · exact prompt_pooling _ _ _
  · exact prompt_pooling _ _ _
  · split
    · exact prompt_elementwise _ _ _ _
    · exact .report _
  all_goals exact .report _

end Lowering

end NpuStack
