import NpuStack.Proofs.Host.Access
import NpuStack.Proofs.Host.Polling

/-! What the operations of the host do to its state, whatever the device
answers. -/

set_option autoImplicit false

namespace NpuStack

def RunState.loadable : RunState → Bool
  | .idle | .loading | .done => true
  | _ => false

namespace Host

variable {β α : Type}

abbrev state (host : Host β) : RunState := host.context.state

section Switching

variable {s t : RunState}

theorem preserves_state_onLink (action : LinkM β α) :
    Preserves (fun host => host.state = s) (onLink action) :=
  preserves_onLink fun _ => .of_state fun _ held => held

/-- An operation that goes from one state to another, or reports an error and stays. -/
abbrev Switches (s t : RunState) (action : HostM β α) : Prop :=
  Turns (fun host : Host β => host.state = s) (fun host => host.state = t) action

theorem switches_modifyContext {change : Context → Context}
    (reached : ∀ context, (change context).state = t) :
    Switches s t (modifyContext change : HostM β Unit) :=
  fun host _ => reached host.context

/-- What asks for an initialised host first goes on there, and is refused elsewhere. -/
theorem wlp_initialized {next : Unit → HostM β α} {value : α → Host β → Prop}
    {report : HostError → Host β → Prop} {host : Host β}
    (on : host.state.isInitialized = true → wlp (next ()) value report host)
    (off : host.state.isInitialized = false → ∀ cause, report cause host) :
    wlp (ensureInitialized >>= next) value report host := by
  unfold ensureInitialized
  rw [wlp_bind, wlp_bind, wlp_getContext]
  cases here : host.context.state.isInitialized with
  | true => exact on here
  | false => exact off here _

/-- What asks for a loadable host first goes on there, and is refused elsewhere. -/
theorem wlp_accepted {operation : String} {next : Unit → HostM β α} {value : α → Host β → Prop}
    {report : HostError → Host β → Prop} {host : Host β}
    (yes : host.state.loadable = true → wlp (next ()) value report host)
    (no : host.state.loadable = false → ∀ cause, report cause host) :
    wlp (ensureLoadable operation >>= next) value report host := by
  unfold ensureLoadable
  rw [wlp_bind, wlp_bind, wlp_getContext]
  cases here : host.context.state with
  | idle | loading | done => exact yes (congrArg RunState.loadable here)
  | reset | init | running | draining | error => exact no (congrArg RunState.loadable here) _

/-- What starts by asking for a loadable host gives values on no other host. -/
theorem wlp_loadable (operation : String) (next : Unit → HostM β α) (host : Host β) :
    wlp (ensureLoadable operation >>= next) (fun _ _ => host.state.loadable = true)
      (fun _ _ => True) host :=
  wlp_accepted (fun loadable => wlp_of_fact loadable _ _) fun _ _ => trivial

def Loads (action : HostM β Unit) : Prop :=
  ∀ host, wlp action (fun _ after => host.state.loadable = true ∧ after.state = .loading)
    (fun _ after => after.state = host.state) host

theorem loads_of_switches {operation : String} {next : Unit → HostM β Unit}
    (switches : ∀ s, Switches s .loading (ensureLoadable operation >>= next)) :
    Loads (ensureLoadable operation >>= next) :=
  fun host => ((wlp_loadable operation next host).and (switches host.state host rfl)).imp
    (fun _ _ both => both) fun _ _ both => both.2

end Switching

section Silence

theorem silent_checked (number : Checked α) : Silent (checked number : HostM β α) := by
  intro host
  rw [wlp_checked]
  exact fun _ _ => trivial

theorem silent_delay (microseconds : UInt64) : Silent (delay microseconds : HostM β Unit) :=
  fun _ => trivial

theorem silent_delayLink (microseconds : UInt64) : Silent (Link.delay microseconds : LinkM β Unit) :=
  fun _ => trivial

variable [Bus β] (reg : Register) (word : UInt32)

theorem silent_writeLink : Silent (Link.write reg word : LinkM β Unit) := fun _ => trivial

theorem silent_setBits : Silent (setBits reg word : HostM β Unit) := fun _ => trivial

theorem silent_write : Silent (Host.write reg word : HostM β Unit) := fun _ => trivial

theorem silent_programBuffers : Silent (programBuffers : HostM β Unit) :=
  .bind (fun _ => trivial) fun _ => .bind (silent_write _ _) fun _ => .bind (silent_write _ _) fun _ =>
    .bind (silent_write _ _) fun _ => .bind (silent_checked _) fun _ =>
    .bind (silent_write _ _) fun _ => silent_write _ _

end Silence

variable [Bus β]

theorem stable_state (s : RunState) :
    Stable (fun _ => True) .notes fun host : Host β => host.state = s where
  link _ := ⟨fun _ _ held => held, fun _ _ _ _ held => held, fun _ _ _ _ _ held => held,
    fun _ _ held => held⟩
  memory _ _ _ _ _ same held := (congrArg Context.state same.extent).trans held

theorem preserves_state_startTransfer (s : RunState) (d : Descriptor) :
    Preserves (fun host : Host β => host.state = s) (startTransfer d) :=
  (stable_state s).preserves_startTransfer rfl (fun _ _ => trivial) d

section Loading

variable (s : RunState)

theorem switches_loadInstructions (instructions : Array Instruction) :
    Switches s .loading (loadInstructions instructions : HostM β Unit) := by
  refine .bind (preserves_ensureLoadable _) fun _ => .guard (preserves_raise _) fun _ =>
    .bind preserves_getConfig fun config => .guard ((stable_state s).preserves_fail _) fun _ => ?_
  refine .bind (preserves_state_onLink _) fun _ => .bind (preserves_state_onLink _) fun _ =>
    .bind (preserves_state_onLink _) fun _ => ?_
  exact switches_modifyContext fun _ => rfl

theorem switches_loadWeights (data : ByteArray) (offset : UInt32) :
    Switches s .loading (loadWeights data offset : HostM β Unit) := by
  refine .bind (preserves_ensureLoadable _) fun _ => .guard (preserves_raise _) fun _ =>
    .bind preserves_getConfig fun config => .guard ((stable_state s).preserves_fail _) fun _ =>
    .bind (preserves_checked _) fun dst => ?_
  have finish (stop : UInt32) : Switches s .loading (do
      write .weightSize stop
      setState .loading : HostM β Unit) :=
    .bind (preserves_state_onLink _) fun _ => switches_modifyContext fun _ => rfl
  split
  · exact .bind (preserves_state_onLink _) fun src =>
      .bind ((stable_state s).preserves_transfer (preserves_state_startTransfer s) _) fun _ => finish _
  · exact .bind (preserves_state_onLink _) fun _ => finish _

theorem switches_loadInput (data : ByteArray) :
    Switches s .loading (loadInput data : HostM β Unit) := by
  refine .bind (preserves_ensureLoadable _) fun _ => .guard (preserves_raise _) fun _ =>
    .bind preserves_getConfig fun config => .guard ((stable_state s).preserves_fail _) fun _ => ?_
  refine .bind (preserves_state_onLink _) fun _ =>
    .bind ((stable_state s).preserves_transfer (preserves_state_startTransfer s) _) fun _ =>
    .bind (preserves_state_onLink _) fun _ => ?_
  exact switches_modifyContext fun _ => rfl

theorem loads_loadInstructions (instructions : Array Instruction) :
    Loads (loadInstructions instructions : HostM β Unit) :=
  loads_of_switches fun s => switches_loadInstructions s instructions

theorem loads_loadWeights (data : ByteArray) (offset : UInt32) :
    Loads (loadWeights data offset : HostM β Unit) :=
  loads_of_switches fun s => switches_loadWeights s data offset

theorem loads_loadInput (data : ByteArray) : Loads (loadInput data : HostM β Unit) :=
  loads_of_switches fun s => switches_loadInput s data

/-- A copy in part leaves the state alone or has reached loading. -/
theorem preserves_state_copyImage (image : Model.Image) :
    Preserves (fun host : Host β => host.state = s ∨ host.state = .loading) (copyImage image) := by
  have load {action : HostM β Unit} (switches : ∀ s, Switches s .loading action) :
      Preserves (fun host : Host β => host.state = s ∨ host.state = .loading) action := by
    rintro host (here | here)
    · exact (switches s host here).imp (fun _ _ => .inr) fun _ _ => .inl
    · exact (switches .loading host here).imp (fun _ _ => .inr) fun _ _ => .inr
  refine .guard (load fun s => switches_loadInstructions s _) fun _ =>
    .guard (load fun s => switches_loadWeights s _ _) fun _ => ?_
  exact .ite (load fun s => switches_loadWeights s _ _) (.pure _)

omit [Bus β] in
/-- A file that is no model is refused with the fault on record; else nothing happens. -/
theorem wlp_readModel {data : ByteArray} {value : Model.Image → Host β → Prop}
    {report : HostError → Host β → Prop} {host : Host β}
    (read : ∀ image, Model.Image.parse data = .ok image → value image host)
    (refused : ∀ cause, report cause
      { host with context := { host.context with lastError := some cause.statusCode } }) :
    wlp (readModel data) value report host := by
  unfold readModel
  split
  case h_1 image parsed => exact read image parsed
  case h_2 fault _ => exact refused _
  case h_3 => trivial

theorem wlp_loadModel (data : ByteArray) (host : Host β) :
    wlp (loadModel data)
      (fun _ after => host.state.loadable = true ∧
        (after.state = host.state ∨ after.state = .loading))
      (fun _ after => after.state = host.state ∨ host.state.loadable = true ∧ after.state = .idle)
      host := by
  refine wlp_accepted (fun loadable => ?_) fun _ _ => .inl rfl
  rw [wlp_bind]
  refine wlp_readModel (fun image _ => ?_) fun _ => .inl rfl
  rw [wlp_bind, wlp_getConfig]
  refine wlp_guard (fun _ => .inl rfl) fun _ => wlp_guard (fun _ => .inl rfl) fun _ => ?_
  rw [wlp_bind, wlp_attempt]
  refine (preserves_state_copyImage host.state _ host (.inl rfl)).imp (fun _ copied here => ?_)
    fun cause copied here => ?_
  · exact ⟨loadable, here⟩
  · -- Whatever was copied is discarded, which makes the host idle.
    exact .inr ⟨loadable, rfl⟩

end Loading

section Lifecycle

/-- Whatever a wait for an idle core answers, only the link has changed. -/
theorem wlp_waitIdle {value : Unit → Host β → Prop} {report : HostError → Host β → Prop}
    {host : Host β} (timeout : UInt64) (values : ∀ link, value () { host with link })
    (reports : ∀ cause link, report cause { host with link }) :
    wlp (waitIdle timeout) value report host := by
  unfold waitIdle
  rw [wlp_bind, wlp_getConfig]
  exact wlp_onLink_of_forall (fun _ => values) reports

theorem wlp_init (config : Config) (host : Host β) :
    wlp (init config) (fun _ after => host.state.isActive = false ∧ after.state = .idle)
      (fun _ after => after.state = host.state) host := by
  unfold init
  rw [wlp_bind, wlp_getContext]
  refine wlp_guard (fun _ => rfl) fun free => wlp_guard (fun _ => rfl) fun _ => ?_
  have free : host.state.isActive = false := by simpa using free
  rw [wlp_bind]
  show wlp (programBuffers >>= _) _ _ { host with
    config, context := { state := .init }, engine := { interval := config.pollInterval } }
  -- Only a trap can stop the rest, so the transient state is never seen.
  rw [wlp_bind]
  refine (silent_programBuffers _).imp (fun _ _ _ => ?_) fun _ _ no => no.elim
  exact wlp_guard (fun _ => ⟨free, rfl⟩) fun _ => ⟨free, rfl⟩

theorem wlp_stop (host : Host β) :
    wlp stop (fun _ after => host.state.isInitialized = true ∧ after.state = .idle)
      (fun _ after => host.state.isInitialized = false ∧ after.state = host.state ∨
        host.state.isInitialized = true ∧ after.state = .idle) host := by
  refine wlp_initialized (fun on => ?_) fun off _ => .inl ⟨off, rfl⟩
  rw [wlp_bind]
  show wlp (attempt (waitIdle idleTimeout) >>= _) _ _ _
  rw [wlp_bind, wlp_attempt]
  exact wlp_waitIdle _ (fun _ => ⟨on, rfl⟩) fun _ _ => .inr ⟨on, rfl⟩

theorem wlp_abort (host : Host β) :
    wlp abort (fun _ after => host.state.isInitialized = true ∧ after.state = .idle)
      (fun _ after => host.state.isInitialized = false ∧ after.state = host.state ∨
        host.state.isInitialized = true ∧ after.state = .error) host := by
  refine wlp_initialized (fun on => ?_) fun off _ => .inl ⟨off, rfl⟩
  rw [wlp_bind]
  show wlp (attempt (waitIdle idleTimeout) >>= _) _ _ _
  rw [wlp_bind, wlp_attempt]
  exact wlp_waitIdle _ (fun _ => ⟨on, rfl⟩) fun _ _ => .inr ⟨on, rfl⟩

theorem wlp_reset (host : Host β) :
    wlp reset (fun _ after => after.state = .idle) (fun _ _ => False) host := by
  unfold reset
  rw [wlp_bind]
  show wlp (programBuffers >>= _) _ _ _
  rw [wlp_bind]
  exact (silent_programBuffers _).imp (fun _ _ _ => rfl) fun _ _ no => no

theorem wlp_deinit (host : Host β) :
    wlp deinit
      (fun _ after => after.state = if host.state.isInitialized then .reset else host.state)
      (fun _ _ => False) host := by
  unfold deinit
  rw [wlp_bind, wlp_getContext]
  split
  · rw [wlp_bind, wlp_attempt]
    exact (wlp_stop host).imp (fun _ _ _ => rfl) fun _ _ _ => rfl
  · rfl

end Lifecycle

section Running

theorem wlp_start (host : Host β) :
    wlp start (fun _ after => host.state.loadable = true ∧ after.state = .running)
      (fun _ after => host.state.loadable = false ∧ after.state = host.state) host :=
  wlp_accepted (fun loadable => ⟨loadable, rfl⟩) fun refused _ => ⟨refused, rfl⟩

/-- A poll for completion fails by a fault of the core or by its deadline. -/
theorem wlp_poll_completion (interval timeout : UInt64) (link : Link β) :
    wlp (Link.poll interval timeout completionProbe) (fun _ _ => True)
      (fun cause _ => (∃ code, cause = .hwFault code) ∨ cause = .timeout timeout) link := by
  have known (bus : β) (cause : HostError)
      (seen : ((completionProbe : Probe β Unit) bus).1 = some (.error cause)) :
      ∃ code, cause = .hwFault code := by
    unfold completionProbe at seen
    dsimp only at seen
    split at seen
    · cases seen
      exact ⟨_, rfl⟩
    · split at seen <;> cases seen
  unfold wlp
  split
  case h_1 => trivial
  case h_2 cause after run =>
    exact Probe.loop_cause known (congrArg Prod.fst run)
  case h_3 => trivial

theorem wlp_wait (timeout : UInt64) (host : Host β) :
    wlp (wait timeout) (fun _ after => host.state.isInitialized = true ∧ after.state = .done)
      (fun cause after => host.state.isInitialized = false ∧ after.state = host.state ∨
        host.state.isInitialized = true ∧ ((∃ code, cause = .hwFault code) ∧ after.state = .error ∨
          cause = .timeout timeout ∧ after.state = host.state)) host := by
  refine wlp_initialized (fun on => ?_) fun off _ => .inl ⟨off, rfl⟩
  rw [wlp_bind, wlp_getConfig, wlp_bind, wlp_attempt, wlp_onLink]
  refine (wlp_poll_completion _ timeout host.link).imp (fun _ _ _ => ⟨on, rfl⟩)
    fun cause link known => ?_
  rcases known with ⟨code, rfl⟩ | rfl
  · exact .inr ⟨on, .inl ⟨⟨code, rfl⟩, rfl⟩⟩
  · exact .inr ⟨on, .inr ⟨rfl, rfl⟩⟩

/-- The state in which an interrupt leaves the host; a fault comes before a completion. -/
def servedState (pending : UInt32) (s : RunState) : RunState :=
  if pending &&& Irq.error != 0 then .error else if pending &&& Irq.done != 0 then .done else s

theorem wlp_serveFault (pending : UInt32) (listening : Bool) (told : List Completion) (host : Host β) :
    wlp (serveFault pending listening told)
      (fun answer after => answer.1 = pending ∧
        after.state = if pending &&& Irq.error != 0 then .error else host.state)
      (fun _ _ => False) host := by
  unfold serveFault
  split
  · cases listening <;> exact ⟨rfl, rfl⟩
  · exact ⟨rfl, rfl⟩

theorem wlp_handleIrq (host : Host β) :
    wlp handleIrq (fun answer after => after.state = servedState answer.1 host.state)
      (fun _ _ => False) host := by
  have look : wlp (Host.read .irqStatus) (fun _ after => after.state = host.state)
      (fun _ _ => False) host := rfl
  have finish (reached : Host β) : wlp complete (fun _ after => after.state = .done)
      (fun _ _ => False) reached := rfl
  unfold handleIrq
  rw [wlp_bind]
  refine look.imp (fun pending looked same => ?_) fun _ _ no => no
  split
  · exact same
  · have serve (listening : Bool) (told : List Completion) (reached : Host β)
        (here : reached.state = if pending &&& Irq.done != 0 then .done else host.state) :
        wlp (serveFault pending listening told)
          (fun answer after => after.state = servedState answer.1 host.state)
          (fun _ _ => False) reached := by
      refine (wlp_serveFault pending listening told reached).imp (fun answer after served => ?_)
        fun _ _ no => no
      rw [served.1, served.2, here]
      rfl
    rw [wlp_bind]
    show wlp (get >>= _) _ _ _
    rw [wlp_bind, wlp_get]
    split
    case isTrue done =>
      rw [wlp_bind]
      refine (finish _).imp (fun _ completed here => ?_) fun _ _ no => no
      split
      · exact serve _ _ completed (here.trans (if_pos done).symm)
      · exact serve _ _ completed (here.trans (if_pos done).symm)
    case isFalse pending => exact serve _ _ _ (same.trans (if_neg pending).symm)

/-- The size of what can be read is asked for on a host that is not active, and only the link has
changed then. -/
theorem wlp_readableBytes {buffer : ByteArray} {value : Nat → Host β → Prop}
    {report : HostError → Host β → Prop} {host : Host β}
    (values : host.state.isActive = false → ∀ size link, value size { host with link })
    (reports : ∀ cause, report cause host) : wlp (readableBytes buffer) value report host := by
  refine wlp_initialized (fun _ => ?_) fun _ cause => reports cause
  refine wlp_guard (fun _ => reports _) fun _ => ?_
  rw [wlp_bind, wlp_getContext]
  refine wlp_guard (fun _ => reports _) fun free => ?_
  exact values (by simpa using free) _ _

/-- Output that is read makes the host done. Where there is none, or it cannot be read, the state
stays. -/
theorem wlp_readOutput (host : Host β) (buffer : ByteArray) :
    wlp readOutput
      (fun size after => size = 0 ∧ after.1.state = host.state ∨
        0 < size ∧ host.state.isActive = false ∧ after.1.state = .done)
      (fun _ after => after.1.state = host.state) (host, buffer) := by
  unfold readOutput
  rw [wlp_bind]
  show wlp (onHost (readableBytes buffer) >>= _) _ _ (host, buffer)
  rw [wlp_bind, wlp_onHost]
  refine wlp_readableBytes (fun free size link => ?_) fun _ => rfl
  split
  · exact .inl ⟨rfl, rfl⟩
  case isFalse some =>
    rw [wlp_bind, wlp_onHost, wlp_getContext, wlp_bind, wlp_onHost]
    show wlp (attempt (drainOutput size) >>= _) _ _ _
    -- The transient state is left again whatever the transfer answers.
    rw [wlp_bind, wlp_attempt]
    exact ((stable_state .draining).preserves_drainOutput (preserves_state_startTransfer _) size
      _ rfl).imp (fun _ _ _ => .inr ⟨Nat.pos_of_ne_zero some, free, rfl⟩) fun _ _ _ => rfl

theorem wlp_compileAndRun (layer : Layer) (host : Host β) :
    wlp (compileAndRun layer)
      (fun _ after => host.state.loadable = true ∧ after.state = .done)
      (fun cause after => after.state = host.state ∨ host.state.loadable = true ∧
        ((∃ code, cause = .hwFault code) ∧ after.state = .error ∨
          (∃ timeout, cause = .timeout timeout) ∧ after.state = .running)) host := by
  refine wlp_accepted (fun loadable => ?_) fun _ _ => .inl rfl
  have stable := stable_state (β := β) host.state
  rw [wlp_bind]
  refine (stable.preserves_compileLayer layer host rfl).imp (fun program compiled here => ?_)
    fun _ _ here => .inl here
  rw [wlp_bind]
  refine (stable.preserves_configureLayer (fun _ _ => trivial) layer compiled here).imp
    (fun _ described here => ?_) fun _ _ here => .inl here
  rw [wlp_bind]
  refine (switches_loadInstructions _ _ described here).imp (fun _ loaded here => ?_)
    fun _ _ here => .inl here
  rw [wlp_bind]
  refine (wlp_start loaded).imp (fun _ started running => ?_) fun _ _ refused => ?_
  · rw [wlp_bind, wlp_getConfig, wlp_bind]
    refine (wlp_wait _ started).imp (fun _ _ done => ⟨loadable, done.2⟩) fun cause waited ended => ?_
    rcases ended with ⟨off, _⟩ | ⟨_, ⟨fault, here⟩ | ⟨late, here⟩⟩
    · rw [running.2] at off
      cases off
    · exact .inr ⟨loadable, .inl ⟨fault, here⟩⟩
    · exact .inr ⟨loadable, .inr ⟨⟨_, late⟩, here.trans running.2⟩⟩
  · rw [here] at refused
    cases refused.1

end Running

end Host

end NpuStack
