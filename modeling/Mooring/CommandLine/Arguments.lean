import Mooring.Text.Search

set_option autoImplicit false

/-!
# Arguments of a command line

A level of a command line has options, operands and branches to further levels. Its arguments are
read one after another: an option may be written `--name value`, `--name=value`, `-n value`,
`-nvalue` or `-n=value`, two dashes end the options, and the name of a branch hands all that
follows to the next level.
-/

namespace Mooring.CommandLine

/-- Why arguments are not carried out. -/
inductive Refusal where
  | help
  | version
  | misused
  deriving DecidableEq, Repr

/-- An option of a level; one that takes no value is a flag. -/
structure Opt where
  name : String
  short : Option Char := none
  takesValue : Bool := true
  repeats : Bool := false
  admits : String → Bool := fun _ => true

/-- What may stand on one level of a command line. -/
structure Level where
  options : List Opt := []
  operands : Nat := 0
  admitsOperand : String → Bool := fun _ => true
  branches : List String := []
  hasVersion : Bool := false

/-- The options and operands that were given on a level. A flag is given with an empty value. -/
structure Given where
  options : List (String × String) := []
  operands : List String := []
  deriving DecidableEq, Repr

namespace Given

/-- The value of an option that is given at most once. -/
def value? (g : Given) (name : String) : Option String :=
  g.options.lookup name

/-- All values of an option. -/
def values (g : Given) (name : String) : List String :=
  (g.options.filter fun o => o.1 = name).map Prod.snd

/-- Whether a flag is given. -/
def flag (g : Given) (name : String) : Bool :=
  (g.value? name).isSome

/-- What is given here, with the options given above; those given here come first. -/
def under (g above : Given) : Given :=
  { g with options := g.options ++ above.options }

end Given

/-- A level while its arguments are read. -/
structure LevelReading where
  given : Given := {}
  awaiting : Option Opt := none
  ended : Bool := false
  branch : Option (String × List String) := none

namespace Level

/-- Whether an argument has the form of an option. -/
def isOption (arg : String) : Bool :=
  match arg.toList with
  | '-' :: _ :: _ => true
  | _ => false

/-- Give an option a value. -/
def addOption (r : LevelReading) (o : Opt) (value : String) : Except Refusal LevelReading :=
  if (r.given.flag o.name && !o.repeats) || !o.admits value then .error .misused
  else
    .ok { r with
      awaiting := none
      given := { r.given with options := r.given.options ++ [(o.name, value)] } }

/-- Start an option, with the value that is written with it, if there is one. -/
def startOption (r : LevelReading) (o : Opt) (value : Option String) :
    Except Refusal LevelReading :=
  match o.takesValue, value with
  | true, some v => addOption r o v
  | true, none => .ok { r with awaiting := some o }
  | false, none => addOption r o ""
  | false, some _ => .error .misused

/-- Read an option with a long name. -/
def readLong (l : Level) (r : LevelReading) (cs : List Char) : Except Refusal LevelReading :=
  let name := String.ofList (cs.takeWhile (· != '='))
  let value := if cs.contains '=' then some (String.ofList (cs.dropWhile (· != '=')).tail) else none
  match l.options.find? fun o => o.name = name with
  | some o => startOption r o value
  | none =>
    if value.isSome then .error .misused
    else if name = "help" then .error .help
    else if name = "version" ∧ l.hasVersion then .error .version
    else .error .misused

/-- Read an option with a short name. -/
def readShort (l : Level) (r : LevelReading) (c : Char) (rest : List Char) :
    Except Refusal LevelReading :=
  match l.options.find? fun o => o.short = some c with
  | some o =>
    match rest with
    | [] => startOption r o none
    | '=' :: value => startOption r o (some (String.ofList value))
    | value => startOption r o (some (String.ofList value))
  | none =>
    if c = 'h' then .error .help
    else if c = 'V' ∧ l.hasVersion then .error .version
    else .error .misused

/-- Read an operand. -/
def readOperand (l : Level) (r : LevelReading) (arg : String) : Except Refusal LevelReading :=
  if r.given.operands.length < l.operands ∧ l.admitsOperand arg then
    .ok { r with given := { r.given with operands := r.given.operands ++ [arg] } }
  else .error .misused

/-- Read an argument that stands on its own. -/
def readFree (l : Level) (r : LevelReading) (arg : String) : Except Refusal LevelReading :=
  match arg.toList with
  | ['-', '-'] => .ok { r with ended := true }
  | '-' :: '-' :: cs => l.readLong r cs
  | '-' :: c :: rest => l.readShort r c rest
  | _ =>
    if l.branches.contains arg then .ok { r with branch := some (arg, []) }
    else l.readOperand r arg

/-- Read the next argument. -/
def step (l : Level) (r : LevelReading) (arg : String) : Except Refusal LevelReading :=
  match r.branch, r.awaiting with
  | some (name, args), _ => .ok { r with branch := some (name, args ++ [arg]) }
  | none, some o => if isOption arg then .error .misused else addOption r o arg
  | none, none => if r.ended then l.readOperand r arg else l.readFree r arg

/-- Read the arguments of a level: what is given on it, and the branch that is taken with the
arguments for it. -/
def read (l : Level) (args : List String) :
    Except Refusal (Given × Option (String × List String)) := do
  let r ← args.foldlM l.step {}
  if r.awaiting.isSome then throw .misused
  return (r.given, r.branch)

/-- Read the arguments of a level without branches, on which all operands are needed. -/
def readLast (l : Level) (above : Given) (args : List String) : Except Refusal Given := do
  let (g, _) ← l.read args
  if g.operands.length < l.operands then throw .misused
  return g.under above

end Level

end Mooring.CommandLine
