/-! The grammar of arguments.

Arguments are taken from left to right. An option takes its value from the same
argument or from the next one; positional values go to the next free place, and
after `--` everything is positional. A value is checked when the argument after
it is recognised or when the arguments end, so an unknown argument hides a bad
value right before it. -/

set_option autoImplicit false

namespace NpuStack.Cli

/-- Why arguments are refused; some values carry a message of their own. -/
structure Misuse where
  detail : Option String := none
  deriving DecidableEq, Repr

inductive Shape where
  /-- A mark that is present or not. -/
  | switch
  /-- A name with a value. -/
  | option
  /-- One value without a name. -/
  | place
  /-- All values without a name from here on. -/
  | places
  deriving DecidableEq, Repr

structure Parameter where
  name : String
  shape : Shape
  short : Option Char := none
  /-- Values are needed. -/
  required : Bool := false
  check : String → Except Misuse Unit := fun _ => .ok ()

abbrev Bindings := List (String × List String)

structure Reading where
  bindings : Bindings := []
  /-- The parameter whose values are not yet checked. -/
  pending : Option (Parameter × List String) := none
  /-- The parameter before still wants a value. -/
  wantsValue : Bool := false
  /-- Positional places filled. -/
  filled : Nat := 0
  /-- Everything is positional. -/
  trailing : Bool := false

namespace Reading

inductive Step where
  | next (reading : Reading)
  | help

def bind (reading : Reading) (parameter : Parameter) (values : List String) :
    Except Misuse Reading := do
  if parameter.shape ≠ .switch ∧ values.isEmpty then throw {}
  if (reading.bindings.lookup parameter.name).isSome then throw {}
  values.forM parameter.check
  return { reading with bindings := reading.bindings ++ [(parameter.name, values)] }

def settle (reading : Reading) : Except Misuse Reading :=
  match reading.pending with
  | none => .ok reading
  | some (parameter, values) =>
    bind { reading with pending := none, wantsValue := false } parameter values

def named (reading : Reading) (parameter : Parameter) (attached : Option String) :
    Except Misuse Reading := do
  match parameter.shape, attached with
  | .switch, some _ => throw {}
  | .switch, none => (← reading.settle).bind parameter []
  | _, some value => (← reading.settle).bind parameter [value]
  | _, none => return { (← reading.settle) with pending := some (parameter, []), wantsValue := true }

def positional (reading : Reading) (parameters : List Parameter) (value : String) :
    Except Misuse Reading := do
  let places := parameters.filter fun p => p.shape = .place ∨ p.shape = .places
  match places[reading.filled]? with
  | none => throw {}
  | some parameter =>
    match reading.pending with
    | some (current, values) =>
      if current.name = parameter.name then
        return { reading with pending := some (current, values ++ [value]), wantsValue := false }
      opening parameter
    | none => opening parameter
where
  opening (parameter : Parameter) : Except Misuse Reading := do
    let reading ← reading.settle
    return { reading with
      pending := some (parameter, [value])
      filled := if parameter.shape = .places then reading.filled else reading.filled + 1 }

/-- Help ends the reading once what came before it is in order. -/
def askHelp (reading : Reading) : Except Misuse Step := do
  let _ ← reading.settle
  return .help

/-- Letters after a single dash: switches, then at most one option with the rest as its value. -/
def letters (parameters : List Parameter) : List Char → Reading → Except Misuse Step
  | [], reading => .ok (.next reading)
  | c :: rest, reading => do
    match parameters.find? (·.short == some c) with
    | none => if c = 'h' then reading.askHelp else throw {}
    | some parameter =>
      if parameter.shape = .switch then letters parameters rest (← reading.named parameter none)
      else
        let value := match rest with
          | [] => none
          | '=' :: value => some (String.ofList value)
          | value => some (String.ofList value)
        return .next (← reading.named parameter value)

def splitAttached (chars : List Char) : String × Option String :=
  match chars.span (· != '=') with
  | (name, '=' :: value) => (String.ofList name, some (String.ofList value))
  | (name, _) => (String.ofList name, none)

def take (parameters : List Parameter) (reading : Reading) (argument : String) :
    Except Misuse Step := do
  if reading.trailing then return .next (← reading.positional parameters argument)
  match argument.toList with
  | ['-', '-'] => return .next { reading with trailing := true }
  | '-' :: '-' :: chars =>
    let (name, attached) := splitAttached chars
    match parameters.find? (fun p => p.name == name && (p.shape = .switch ∨ p.shape = .option)) with
    | some parameter => return .next (← reading.named parameter attached)
    | none => if name = "help" ∧ attached = none then reading.askHelp else throw {}
  | '-' :: c :: chars => letters parameters (c :: chars) reading
  | _ =>
    if reading.wantsValue then
      match reading.pending with
      | some (parameter, values) =>
        return .next { reading with
          pending := some (parameter, values ++ [argument]), wantsValue := false }
      | none => return .next reading
    else return .next (← reading.positional parameters argument)

/-- The bindings of all arguments; none if help was asked for. -/
def takeAll (parameters : List Parameter) : List String → Reading → Except Misuse (Option Bindings)
  | [], reading => do
    let reading ← reading.settle
    let absent (parameter : Parameter) : Bool := (reading.bindings.lookup parameter.name).isNone
    if parameters.any fun parameter => parameter.required && absent parameter then throw {}
    return some reading.bindings
  | argument :: rest, reading => do
    match ← reading.take parameters argument with
    | .help => return none
    | .next reading => takeAll parameters rest reading

end Reading

def readArguments (parameters : List Parameter) (arguments : List String) :
    Except Misuse (Option Bindings) :=
  Reading.takeAll parameters arguments {}

def Bindings.value? (bindings : Bindings) (name : String) : Option String :=
  (bindings.lookup name).bind List.head?

end NpuStack.Cli
