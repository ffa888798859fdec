import NpuStack.Host.Running

/-! Reasoning about operations by what they lead to. `wlp` takes one
postcondition for values and one for reported errors; a trap meets both, since
nothing is observed after it. -/

set_option autoImplicit false

namespace NpuStack

section Calculus

variable {σ α γ : Type}

def wlp (action : Act σ α) (value : α → σ → Prop) (report : HostError → σ → Prop) (state : σ) : Prop :=
  match action state with
  | (.ok result, after) => value result after
  | (.error (.error cause), after) => report cause after
  | (.error (.trap _), _) => True

variable {value : α → σ → Prop} {report : HostError → σ → Prop} {state : σ}

theorem act_bind (first : Act σ α) (next : α → Act σ γ) (state : σ) :
    (first >>= next) state = match first state with
      | (.ok result, after) => next result after
      | (.error cause, after) => (.error cause, after) := by
  show (StateT.bind first (ExceptT.bindCont next)) state = _
  simp only [StateT.bind, bind]
  rcases first state with ⟨cause | result, after⟩ <;> rfl

theorem wlp_bind {value : γ → σ → Prop} (first : Act σ α) (next : α → Act σ γ) :
    wlp (first >>= next) value report state ↔
      wlp first (fun result => wlp (next result) value report) report state := by
  unfold wlp
  rw [act_bind]
  rcases first state with ⟨(cause | cause) | result, after⟩ <;> rfl

theorem wlp_map {value : γ → σ → Prop} (f : α → γ) (action : Act σ α) :
    wlp (f <$> action) value report state ↔ wlp action (fun result => value (f result)) report state := by
  rw [map_eq_pure_bind, wlp_bind]
  rfl

/-- Weaker postconditions follow. -/
theorem wlp.imp {value' : α → σ → Prop} {report' : HostError → σ → Prop} {action : Act σ α}
    (known : wlp action value report state) (values : ∀ result after, value result after → value' result after)
    (reports : ∀ cause after, report cause after → report' cause after) :
    wlp action value' report' state := by
  unfold wlp at known ⊢
  split at known
  case h_1 => exact values _ _ known
  case h_2 => exact reports _ _ known
  case h_3 => trivial

/-- What is known beforehand is known of every value. -/
theorem wlp_of_fact {fact : Prop} (holds : fact) (action : Act σ α) (state : σ) :
    wlp action (fun _ _ => fact) (fun _ _ => True) state := by
  unfold wlp
  split
  · exact holds
  · trivial
  · trivial

theorem wlp.and {value' : α → σ → Prop} {report' : HostError → σ → Prop} {action : Act σ α}
    (left : wlp action value report state) (right : wlp action value' report' state) :
    wlp action (fun result after => value result after ∧ value' result after)
      (fun cause after => report cause after ∧ report' cause after) state := by
  unfold wlp at left right ⊢
  split
  case h_1 run =>
    rw [run] at left right
    exact ⟨left, right⟩
  case h_2 run =>
    rw [run] at left right
    exact ⟨left, right⟩
  case h_3 => trivial

/-- A step that is taken or skipped, and what follows it. -/
theorem wlp_guard {choice : Prop} [Decidable choice] {first : Act σ Unit} {next : Unit → Act σ α}
    (taken : choice → wlp first (fun _ => wlp (next ()) value report) report state)
    (skipped : ¬choice → wlp (next ()) value report state) :
    wlp (if choice then first >>= next else next ()) value report state := by
  split
  case isTrue holds =>
    rw [wlp_bind]
    exact taken holds
  case isFalse fails => exact skipped fails

def yields (action : Act σ α) (value : α → σ → Prop) (state : σ) : Prop :=
  match action state with
  | (.ok result, after) => value result after
  | (.error _, _) => False

theorem yields_bind {value : γ → σ → Prop} (first : Act σ α) (next : α → Act σ γ) :
    yields (first >>= next) value state ↔
      yields first (fun result => yields (next result) value) state := by
  unfold yields
  rw [act_bind]
  rcases first state with ⟨cause | result, after⟩ <;> rfl

theorem yields_map {value : γ → σ → Prop} (f : α → γ) (action : Act σ α) :
    yields (f <$> action) value state ↔ yields action (fun result => value (f result)) state := by
  rw [map_eq_pure_bind, yields_bind]
  rfl

theorem yields.imp {value' : α → σ → Prop} {action : Act σ α} (known : yields action value state)
    (values : ∀ result after, value result after → value' result after) :
    yields action value' state := by
  unfold yields at known ⊢
  split at known
  case h_1 => exact values _ _ known
  case h_2 => exact known

theorem yields.and {value' : α → σ → Prop} {action : Act σ α} (known : yields action value state)
    (also : wlp action value' report state) :
    yields action (fun result after => value result after ∧ value' result after) state := by
  unfold yields at known ⊢
  unfold wlp at also
  split at known
  case h_1 run =>
    rw [run] at also
    exact ⟨known, also⟩
  case h_2 => exact known

theorem yields_of_eq {action : Act σ α} {result : α} {after : σ}
    (run : action state = (.ok result, after)) (holds : value result after) :
    yields action value state := by
  unfold yields
  rwa [run]

/-- A step that is skipped, and what follows it. -/
theorem yields_skip {choice : Prop} [Decidable choice] {first : Act σ Unit} {next : Unit → Act σ α}
    (skipped : ¬choice) (rest : yields (next ()) value state) :
    yields (if choice then first >>= next else next ()) value state := by
  rwa [if_neg skipped]

/-- Whatever an operation answers, a property of the state outlasts it. -/
def Preserves (kept : σ → Prop) (action : Act σ α) : Prop :=
  ∀ state, kept state → wlp action (fun _ => kept) (fun _ => kept) state

namespace Preserves

variable {kept : σ → Prop}

theorem of_state {action : Act σ α} (after : ∀ state, kept state → kept (action state).2) :
    Preserves kept action := by
  intro state held
  have outlasts := after state held
  unfold wlp
  split
  case h_1 run => rwa [run] at outlasts
  case h_2 run => rwa [run] at outlasts
  case h_3 => trivial

theorem get : Preserves kept (MonadState.get : Act σ σ) := fun _ held => held

theorem pure (result : α) : Preserves kept (Pure.pure result : Act σ α) := fun _ held => held

theorem bind {first : Act σ α} {next : α → Act σ γ} (left : Preserves kept first)
    (right : ∀ result, Preserves kept (next result)) : Preserves kept (first >>= next) := by
  intro state held
  rw [wlp_bind]
  exact (left state held).imp (fun result after held => right result after held) fun _ _ held => held

theorem map (f : α → γ) {action : Act σ α} (preserves : Preserves kept action) :
    Preserves kept (f <$> action) := by
  intro state held
  rw [wlp_map]
  exact preserves state held

theorem ite {choice : Prop} [Decidable choice] {first second : Act σ α}
    (left : Preserves kept first) (right : Preserves kept second) :
    Preserves kept (if choice then first else second) := by
  split
  · exact left
  · exact right

/-- Three steps that belong together, and what follows them. -/
theorem bind_three {δ ε : Type} {first : Act σ α} {second : Act σ γ} {third : Act σ δ}
    {next : δ → Act σ ε}
    (left : Preserves kept (first >>= fun _ => second >>= fun _ => third))
    (right : ∀ result, Preserves kept (next result)) :
    Preserves kept (first >>= fun _ => second >>= fun _ => third >>= next) := by
  have together := left.bind right
  simpa only [bind_assoc] using together

theorem throw (cause : Failure HostError) : Preserves kept (MonadExcept.throw cause : Act σ α) :=
  .of_state fun _ held => held

theorem throw_bind (cause : Failure HostError) (next : α → Act σ γ) :
    Preserves kept (MonadExcept.throw cause >>= next) :=
  .of_state fun _ held => held

/-- A step that is taken or skipped, and what follows it. -/
theorem guard {choice : Prop} [Decidable choice] {first : Act σ Unit} {next : Unit → Act σ α}
    (left : Preserves kept first) (right : ∀ result, Preserves kept (next result)) :
    Preserves kept (if choice then first >>= next else next ()) :=
  .ite (left.bind right) (right ())

/-- What a step preserves is there for the steps that follow it. -/
theorem goes_on {first : Act σ α} {next : α → Act σ γ} {value : γ → σ → Prop} (left : Preserves kept first)
    (held : kept state)
    (rest : ∀ result after, kept after → wlp (next result) value (fun _ => kept) after) :
    wlp (first >>= next) value (fun _ => kept) state := by
  rw [wlp_bind]
  exact (left state held).imp (fun result after held => rest result after held) fun _ _ held => held

end Preserves

/-- An operation that turns one property of the state into another, or reports an error and keeps the
first. -/
def Turns (first last : σ → Prop) (action : Act σ α) : Prop :=
  ∀ state, first state → wlp action (fun _ => last) (fun _ => first) state

namespace Turns

variable {here there : σ → Prop}

theorem bind {first : Act σ α} {next : α → Act σ γ} (left : Preserves here first)
    (right : ∀ result, Turns here there (next result)) : Turns here there (first >>= next) := by
  intro state held
  rw [wlp_bind]
  exact (left state held).imp (fun result after held => right result after held) fun _ _ held => held

theorem guard {choice : Prop} [Decidable choice] {first : Act σ Unit} {next : Unit → Act σ α}
    (left : Preserves here first) (right : ∀ result, Turns here there (next result)) :
    Turns here there (if choice then first >>= next else next ()) := by
  split
  · exact .bind left right
  · exact right ()

/-- What never gives a value is never followed by anything. -/
theorem never_bind {first : Act σ α} {next : α → Act σ γ} (never : Turns here (fun _ => False) first) :
    Turns here (fun _ => False) (first >>= next) := by
  intro state held
  rw [wlp_bind]
  exact (never state held).imp (fun _ _ no => no.elim) fun _ _ still => still

end Turns

def Maintains (kept : σ → Prop) (action : Act σ α) : Prop :=
  ∀ state, kept state → yields action (fun _ => kept) state

namespace Maintains

variable {kept : σ → Prop}

theorem bind {first : Act σ α} {next : α → Act σ γ} (left : Maintains kept first)
    (right : ∀ result, Maintains kept (next result)) : Maintains kept (first >>= next) := by
  intro state held
  rw [yields_bind]
  exact (left state held).imp fun result after held => right result after held

theorem guard {choice : Prop} [Decidable choice] {first : Act σ Unit} {next : Unit → Act σ α}
    (left : Maintains kept first) (right : ∀ result, Maintains kept (next result)) :
    Maintains kept (if choice then first >>= next else next ()) := by
  split
  · exact left.bind right
  · exact right ()

theorem skip {choice : Prop} [Decidable choice] {first : Act σ Unit} {next : Unit → Act σ α}
    (skipped : ¬choice) (rest : Maintains kept (next ())) :
    Maintains kept (if choice then first >>= next else next ()) := by
  rwa [if_neg skipped]

theorem preserves {action : Act σ α} (maintains : Maintains kept action) : Preserves kept action := by
  intro state held
  have known := maintains state held
  unfold yields at known
  unfold wlp
  split at known
  case h_1 run =>
    rw [run]
    exact known
  case h_2 => exact known.elim

end Maintains

/-- An operation that gives a value and leads from a property of the state to one of both. -/
def Leads (here : σ → Prop) (there : α → σ → Prop) (action : Act σ α) : Prop :=
  ∀ state, here state → yields action there state

namespace Leads

variable {here : σ → Prop} {middle : α → σ → Prop} {there : γ → σ → Prop}

theorem bind {first : Act σ α} {next : α → Act σ γ} (left : Leads here middle first)
    (right : ∀ result, Leads (middle result) there (next result)) : Leads here there (first >>= next) := by
  intro state held
  rw [yields_bind]
  exact (left state held).imp fun result after reached => right result after reached

/-- A value that is known is what the next step goes on with. -/
theorem bind_value {first : Act σ α} {next : α → Act σ γ} {result : α} {reached : σ → Prop}
    (left : Leads here (fun value state => value = result ∧ reached state) first)
    (right : Leads reached there (next result)) : Leads here there (first >>= next) := by
  refine left.bind fun value state known => ?_
  rw [known.1]
  exact right state known.2

theorem pure {there : α → σ → Prop} {result : α} (holds : ∀ state, here state → there result state) :
    Leads here there (Pure.pure result : Act σ α) :=
  holds

end Leads

def Silent (action : Act σ α) : Prop := ∀ state, wlp action (fun _ _ => True) (fun _ _ => False) state

namespace Silent

theorem bind {first : Act σ α} {next : α → Act σ γ} (left : Silent first)
    (right : ∀ result, Silent (next result)) : Silent (first >>= next) := by
  intro state
  rw [wlp_bind]
  exact (left state).imp (fun result after _ => right result after) fun _ _ no => no

/-- Where a silent step leads does not matter to what holds in any case. -/
theorem goes_on {first : Act σ α} {next : α → Act σ γ} {value : γ → σ → Prop} (silent : Silent first)
    (rest : ∀ result after, wlp (next result) value report after) :
    wlp (first >>= next) value report state := by
  rw [wlp_bind]
  exact (silent state).imp (fun result after _ => rest result after) fun _ _ no => no.elim

/-- What a silent operation preserves holds after every value. -/
theorem wlp_of_preserves {kept : σ → Prop} {action : Act σ α} (silent : Silent action)
    (preserves : Preserves kept action) (held : kept state) :
    wlp action (fun _ => kept) (fun _ _ => False) state :=
  ((silent state).and (preserves state held)).imp (fun _ _ both => both.2) fun _ _ both => both.1

end Silent

/-- What has been reached is kept by the rest, which reports nothing. -/
theorem Turns.settle {here there : σ → Prop} {first : Act σ α} {next : α → Act σ γ}
    (left : Turns here there first) (silent : ∀ result, Silent (next result))
    (right : ∀ result, Preserves there (next result)) : Turns here there (first >>= next) := by
  intro state held
  rw [wlp_bind]
  refine (left state held).imp (fun result after reached => ?_) fun _ _ held => held
  exact ((silent result).wlp_of_preserves (right result) reached).imp (fun _ _ kept => kept)
    fun _ _ no => no.elim

theorem wlp_attempt {value : Except HostError α → σ → Prop} (action : Act σ α) :
    wlp (attempt action) value report state ↔
      wlp action (fun result => value (.ok result)) (fun cause => value (.error cause)) state := by
  unfold wlp attempt
  rcases action state with ⟨(cause | cause) | result, after⟩ <;> rfl

/-- An operation that comes back does so with what is known of its values or of its reports. -/
theorem wlp.of_attempt {action : Act σ α} {answer : Except HostError α} {after : σ}
    (known : wlp action value report state) (ended : attempt action state = (.ok answer, after)) :
    match answer with
    | .ok result => value result after
    | .error cause => report cause after := by
  unfold attempt at ended
  unfold wlp at known
  split at ended
  case h_1 run =>
    rw [run] at known
    cases ended
    exact known
  case h_2 run =>
    rw [run] at known
    cases ended
    exact known
  case h_3 => cases ended

theorem silent_attempt (action : Act σ α) : Silent (attempt action) := by
  intro state
  rw [wlp_attempt]
  unfold wlp
  split <;> trivial

theorem preserves_attempt {kept : σ → Prop} {action : Act σ α} (preserves : Preserves kept action) :
    Preserves kept (attempt action) := by
  intro state held
  rw [wlp_attempt]
  exact preserves state held

theorem wlp_lend {value : α × ByteArray → σ → Prop} (slice : ByteArray) (action : SliceM σ α) :
    wlp (lend slice action) value report state ↔
      wlp action (fun result after => value (result, after.2) after.1)
        (fun cause after => report cause after.1) (state, slice) := by
  unfold wlp lend
  rcases action (state, slice) with ⟨(cause | cause) | result, after, slice⟩ <;> rfl

theorem preserves_lend {kept : σ → Prop} {slice : ByteArray} {action : SliceM σ α}
    (preserves : Preserves (fun state => kept state.1) action) : Preserves kept (lend slice action) := by
  intro state held
  rw [wlp_lend]
  exact preserves (state, slice) held

end Calculus

namespace Host

variable {β α : Type} {value : α → Host β → Prop} {report : HostError → Host β → Prop}
  {host : Host β}

theorem wlp_getConfig {value : Config → Host β → Prop} :
    wlp getConfig value report host ↔ value host.config host := Iff.rfl

theorem wlp_getContext {value : Context → Host β → Prop} :
    wlp getContext value report host ↔ value host.context host := Iff.rfl

theorem wlp_get {value : Host β → Host β → Prop} :
    wlp (get : HostM β (Host β)) value report host ↔ value host host := Iff.rfl

theorem wlp_checked (number : Checked α) : wlp (checked number) value report host ↔
    ∀ result, number = .ok result → value result host := by
  cases number with
  | error cause => exact ⟨fun _ result same => (by cases same), fun _ => trivial⟩
  | ok result =>
    refine ⟨fun held other same => ?_, fun all => all result rfl⟩
    cases same
    exact held

theorem onLink_eq (action : LinkM β α) (host : Host β) :
    onLink action host = ((action host.link).1, { host with link := (action host.link).2 }) := rfl

theorem wlp_onLink (action : LinkM β α) : wlp (onLink action) value report host ↔
    wlp action (fun result link => value result { host with link })
      (fun cause link => report cause { host with link }) host.link := by
  unfold wlp
  rw [onLink_eq]
  rcases action host.link with ⟨(cause | cause) | result, link⟩ <;> rfl

theorem yields_onLink (action : LinkM β α) : yields (onLink action) value host ↔
    yields action (fun result link => value result { host with link }) host.link := by
  unfold yields
  rw [onLink_eq]
  rcases action host.link with ⟨_ | result, link⟩ <;> rfl

theorem onHost_eq (action : HostM β α) (host : Host β) (slice : ByteArray) :
    onHost action (host, slice) = ((action host).1, (action host).2, slice) := rfl

theorem wlp_onHost {value : α → Host β × ByteArray → Prop} {report : HostError → Host β × ByteArray → Prop}
    {slice : ByteArray} (action : HostM β α) : wlp (onHost action) value report (host, slice) ↔
      wlp action (fun result after => value result (after, slice))
        (fun cause after => report cause (after, slice)) host := by
  unfold wlp
  rw [onHost_eq]
  rcases action host with ⟨(cause | cause) | result, after⟩ <;> rfl

theorem yields_noting {action : HostM β α} (known : yields action value host) :
    yields (noting action) value host := by
  unfold noting
  rw [yields_bind]
  unfold yields attempt at *
  generalize action host = run at known ⊢
  rcases run with ⟨_ | result, after⟩
  · exact known.elim
  · exact known

/-- Only the link is at stake. -/
theorem wlp_onLink_of_forall {action : LinkM β α}
    (values : ∀ result link, value result { host with link })
    (reports : ∀ cause link, report cause { host with link }) :
    wlp (onLink action) value report host := by
  rw [wlp_onLink]
  unfold wlp
  split
  case h_1 result link _ => exact values result link
  case h_2 cause link _ => exact reports cause link
  case h_3 => trivial

variable {kept : Host β → Prop}

/-- A configuration that is known is the one that is found. -/
theorem maintains_settings {config : Config} (known : ∀ host, kept host → host.config = config)
    {next : Config → HostM β α} (rest : Maintains kept (next config)) :
    Maintains kept (getConfig >>= next) := by
  intro host held
  rw [yields_bind]
  refine yields_of_eq rfl ?_
  rw [known host held]
  exact rest host held

theorem maintains_checked {γ : Type} {number : Checked γ} {result : γ} (known : number = .ok result)
    {next : γ → HostM β α} (rest : Maintains kept (next result)) :
    Maintains kept (checked number >>= next) := by
  intro host held
  rw [known, yields_bind]
  exact yields_of_eq rfl (rest host held)

theorem preserves_raise (cause : HostError) : Preserves kept (raise cause : HostM β α) :=
  .of_state fun _ held => held

theorem preserves_checked (number : Checked α) : Preserves kept (checked number : HostM β α) := by
  intro host held
  rw [wlp_checked]
  exact fun _ _ => held

theorem preserves_getConfig : Preserves kept (getConfig : HostM β Config) := fun _ held => held

theorem preserves_getContext : Preserves kept (getContext : HostM β Context) := fun _ held => held

theorem preserves_onLink {action : LinkM β α}
    (preserves : ∀ host : Host β, Preserves (fun link => kept { host with link }) action) :
    Preserves kept (onLink action) := by
  intro host held
  rw [wlp_onLink]
  exact preserves host host.link held

theorem preserves_onHost {action : HostM β α} (preserves : Preserves kept action) :
    Preserves (fun state => kept state.1) (onHost action) := by
  rintro ⟨host, slice⟩ held
  rw [wlp_onHost]
  exact preserves host held

theorem preserves_ensureInitialized : Preserves kept (ensureInitialized : HostM β Unit) :=
  .bind preserves_getContext fun _ => .ite (preserves_raise _) (.pure _)

theorem preserves_ensureLoadable (operation : String) :
    Preserves kept (ensureLoadable operation : HostM β Unit) := by
  refine .bind preserves_getContext fun context => ?_
  split
  all_goals first | exact preserves_raise _ | exact .pure _

end Host

end NpuStack
