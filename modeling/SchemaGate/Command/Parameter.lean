/-!
# Parameters of a command line

How the arguments of one level of a command line are read: of the program itself, up to the name of a
command, or of a command.  A parameter is written `--name value` or `--name=value`.  A value that stands
in an argument of its own is looked at only when the next parameter is met or the level ends, so asking
for help comes first where both stand in one level and the name of the next one between them.
-/

namespace SchemaGate.Command

/-- Why arguments are refused. -/
inductive ArgumentFault where
  | unknown (argument : String)
  | valueMissing (name : String)
  | valueUnwanted (name : String)
  | valueInvalid (name value : String)
  | repeated (name : String)
  | required (name : String)
  | conflict (name other : String)
  | commandMissing
deriving DecidableEq, Repr

def ArgumentFault.message : ArgumentFault → String
  | .unknown argument => "unexpected argument '" ++ argument ++ "'"
  | .valueMissing name => "a value is required for '--" ++ name ++ "'"
  | .valueUnwanted name => "'--" ++ name ++ "' takes no value"
  | .valueInvalid name value => "invalid value '" ++ value ++ "' for '--" ++ name ++ "'"
  | .repeated name => "'--" ++ name ++ "' cannot be used multiple times"
  | .required name => "'--" ++ name ++ "' is required"
  | .conflict name other => "'--" ++ name ++ "' cannot be used with '--" ++ other ++ "'"
  | .commandMissing => "a command is required"

/-- Why arguments are not read to their end: someone asks about the program, or they are refused. -/
inductive Halt where
  | help
  | version
  | refuse (fault : ArgumentFault)
deriving DecidableEq, Repr

/-- What a parameter does to the settings `α`. -/
inductive Effect (α : Type) where
  | stop (halt : Halt)
  | flag (set : α → α)
  | value (set : String → Option (α → α))

structure Parameter (α : Type) where
  name : String
  letter? : Option Char := none
  repeatable : Bool := false
  effect : Effect α

/-- A parameter that takes a value, with the value once it has come. -/
structure Pending (α : Type) where
  name : String
  repeatable : Bool
  set : String → Option (α → α)
  value? : Option String

/-- How far a level has been read. -/
structure Reading (α : Type) where
  settings : α
  given : List String := []
  pending? : Option (Pending α) := none

/-- The forms that an argument may have. -/
inductive ArgumentForm where
  | dashes
  | long (name : String) (value? : Option String)
  | short (letter : Char)
  | word
deriving DecidableEq, Repr

def ArgumentForm.ofText (argument : String) : ArgumentForm :=
  match argument.toList with
  | ['-', '-'] => .dashes
  | '-' :: '-' :: rest =>
    .long (String.ofList (rest.takeWhile (· ≠ '=')))
      (match rest.dropWhile (· ≠ '=') with
        | _ :: value => some (String.ofList value)
        | [] => none)
  | '-' :: letter :: _ => .short letter
  | _ => .word

namespace Effect

variable {α β : Type}

def within (get : β → α) (put : α → β → β) : Effect α → Effect β
  | .stop halt => .stop halt
  | .flag set => .flag fun b => put (set (get b)) b
  | .value set => .value fun text => (set text).map fun f b => put (f (get b)) b

end Effect

namespace Parameter

variable {α β : Type}

def within (get : β → α) (put : α → β → β) (p : Parameter α) : Parameter β :=
  ⟨p.name, p.letter?, p.repeatable, p.effect.within get put⟩

def help : Parameter α := { name := "help", letter? := some 'h', effect := .stop .help }

def version : Parameter α := { name := "version", letter? := some 'V', effect := .stop .version }

def ofValue {v : Type} (name : String) (read : String → Option v) (put : v → α → α) : Parameter α :=
  { name, effect := .value fun text => (read text).map put }

end Parameter

namespace Reading

variable {α : Type}

def awaitsValue (r : Reading α) : Bool :=
  match r.pending? with
  | some pending => pending.value?.isNone
  | none => false

/-- Notes that a parameter is given; most may be given once only. -/
def note (r : Reading α) (name : String) (repeatable : Bool) : Except Halt (Reading α) :=
  if !repeatable && name ∈ r.given then .error (.refuse (.repeated name))
  else .ok { r with given := name :: r.given }

def assign (r : Reading α) (pending : Pending α) (value : String) : Except Halt (Reading α) := do
  let r ← r.note pending.name pending.repeatable
  match pending.set value with
  | some f => .ok { r with settings := f r.settings }
  | none => .error (.refuse (.valueInvalid pending.name value))

/-- Looks at the value of the parameter that was met last. -/
def settle (r : Reading α) : Except Halt (Reading α) :=
  match r.pending? with
  | none => .ok r
  | some pending =>
    match pending.value? with
    | none => .error (.refuse (.valueMissing pending.name))
    | some value => { r with pending? := none }.assign pending value

def meet (r : Reading α) (p : Parameter α) (value? : Option String) : Except Halt (Reading α) :=
  match p.effect, value? with
  | .stop halt, none => do
    let _ ← r.settle
    .error halt
  | .flag set, none => do
    let r ← (← r.settle).note p.name p.repeatable
    .ok { r with settings := set r.settings }
  | .value set, none => do
    let r ← r.settle
    .ok { r with pending? := some ⟨p.name, p.repeatable, set, none⟩ }
  | .value set, some value => do
    (← r.settle).assign ⟨p.name, p.repeatable, set, none⟩ value
  | _, some _ => .error (.refuse (.valueUnwanted p.name))

/-- Takes an argument that is no parameter: the value that is awaited, if one is. -/
def supply (r : Reading α) (argument : String) : Except Halt (Reading α) :=
  match r.pending? with
  | some pending =>
    if pending.value?.isNone then
      .ok { r with pending? := some { pending with value? := some argument } }
    else .error (.refuse (.unknown argument))
  | none => .error (.refuse (.unknown argument))

def step (parameters : List (Parameter α)) (r : Reading α) (argument : String) :
    Except Halt (Reading α) :=
  match ArgumentForm.ofText argument with
  | .long name value? =>
    match parameters.find? fun p => p.name = name with
    | some p => r.meet p value?
    | none => .error (.refuse (.unknown argument))
  | .short letter =>
    match parameters.find? fun p => p.letter? = some letter with
    | some p => r.meet p none
    | none => .error (.refuse (.unknown argument))
  | .dashes | .word => r.supply argument

/-- Reads a level up to the name of a command, which comes back with the arguments after it.  Two
dashes end the parameters, and nothing may follow them. -/
def run (parameters : List (Parameter α)) (commands : List String) :
    Reading α → List String → Except Halt (Reading α × Option (String × List String))
  | r, [] => .ok (r, none)
  | r, argument :: rest =>
    if !r.awaitsValue && argument ∈ commands then .ok (r, some (argument, rest))
    else if ArgumentForm.ofText argument = .dashes then
      match rest with
      | [] => .ok (r, none)
      | next :: _ => .error (.refuse (.unknown next))
    else do
      let r ← r.step parameters argument
      run parameters commands r rest

/-- Reads a level that no other follows. -/
def all (parameters : List (Parameter α)) (start : α) (arguments : List String) :
    Except Halt α := do
  let (r, _) ← run parameters [] { settings := start } arguments
  .ok (← r.settle).settings

end Reading

end SchemaGate.Command
