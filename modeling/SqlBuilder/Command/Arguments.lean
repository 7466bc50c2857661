import SqlBuilder.Text.Basic

/-!
Arguments of a command: options, which start with a dash, and operands. An option may be given
by its long name or by a letter, and letters may be run together.
-/

namespace SqlBuilder.Command

/-- What follows an option: nothing, a value, or a value that may start with a dash itself. -/
inductive Takes where
  | nothing
  | value
  | anyValue
deriving Repr, DecidableEq

structure Flag where
  name : String
  letter : Option Char := none
  takes : Takes := .value
  repeats : Bool := false
  accepts : String → Bool := fun _ => true

/-- A way out before any work: wrong arguments, or a question about the program itself. -/
inductive Halt where
  | misuse
  | version
  | help
deriving Repr, DecidableEq

/-- Options with their values in the order given, operands, and where a command begins its name
and arguments. -/
structure Arguments where
  options : List (String × String) := []
  operands : List String := []
  command : Option (String × List String) := none

namespace Arguments

def has (a : Arguments) (name : String) : Bool := a.options.any (·.1 == name)

def value? (a : Arguments) (name : String) : Option String := a.options.lookup name

def values (a : Arguments) (name : String) : List String :=
  (a.options.filter (·.1 == name)).map (·.2)

/-- Adds an option. Only some may be given again, and the value has to be acceptable. -/
def add (a : Arguments) (flag : Flag) (value : String) : Except Halt Arguments :=
  if flag.name = "version" then .error .version
  else if flag.name = "help" then .error .help
  else if a.has flag.name && !flag.repeats then .error .misuse
  else if !flag.accepts value then .error .misuse
  else .ok { a with options := a.options ++ [(flag.name, value)] }

def addOperand (a : Arguments) (most : Nat) (operand : String) : Except Halt Arguments :=
  if a.operands.length < most then .ok { a with operands := a.operands ++ [operand] }
  else .error .misuse

end Arguments

/-- Arguments read so far, and an option that still waits for its value. -/
abbrev Progress := Arguments × Option Flag

/-- An option by its long name, perhaps with a value after an equals sign. -/
def readLong (flags : List Flag) (a : Arguments) (text : List Char) : Except Halt Progress :=
  let name := String.ofList (text.takeWhile (· != '='))
  let value? := match text.dropWhile (· != '=') with
    | _ :: value => some (String.ofList value)
    | [] => none
  match flags.find? (·.name == name) with
  | none => .error .misuse
  | some flag =>
    match flag.takes, value? with
    | .nothing, none => (a.add flag "").map fun a => (a, none)
    | .nothing, some _ => .error .misuse
    | _, some value => (a.add flag value).map fun a => (a, none)
    | _, none => .ok (a, some flag)

/-- Options by their letters. The first that takes a value has the rest of the text as its value,
an equals sign between them set aside. -/
def readLetters (flags : List Flag) : Arguments → List Char → Except Halt Progress
  | a, [] => .ok (a, none)
  | a, c :: rest =>
    match flags.find? (·.letter == some c) with
    | none => .error .misuse
    | some flag =>
      if flag.takes = .nothing then (a.add flag "").bind fun a => readLetters flags a rest
      else match rest with
        | [] => .ok (a, some flag)
        | '=' :: value => (a.add flag (String.ofList value)).map fun a => (a, none)
        | value => (a.add flag (String.ofList value)).map fun a => (a, none)

/-- Whether an argument is an option rather than a value. A dash alone is a value. -/
def looksLikeOption (argument : String) : Bool :=
  match argument.toList with
  | '-' :: _ :: _ => true
  | _ => false

/-- Reads arguments up to the name of a command or to the end. After two dashes only operands
follow. -/
def readArguments (flags : List Flag) (commands : List String) (operands : Nat) :
    (open? : Bool) → Progress → List String → Except Halt Arguments
  | _, (a, none), [] => .ok a
  | _, (_, some _), [] => .error .misuse
  | false, (a, _), argument :: rest => do
    let a ← a.addOperand operands argument
    readArguments flags commands operands false (a, none) rest
  | true, (a, some flag), argument :: rest =>
    if flag.takes = .value && looksLikeOption argument then .error .misuse
    else do
      let a ← a.add flag argument
      readArguments flags commands operands true (a, none) rest
  | true, (a, none), argument :: rest =>
    if commands.contains argument then .ok { a with command := some (argument, rest) }
    else match argument.toList with
      | [ '-', '-'] => readArguments flags commands operands false (a, none) rest
      | '-' :: '-' :: text => do
        let progress ← readLong flags a text
        readArguments flags commands operands true progress rest
      | '-' :: c :: text => do
        let progress ← readLetters flags a (c :: text)
        readArguments flags commands operands true progress rest
      | _ => do
        let a ← a.addOperand operands argument
        readArguments flags commands operands true (a, none) rest

/-- Reads all arguments, of which exactly `operands` are operands. -/
def readAll (flags : List Flag) (operands : Nat) (arguments : List String) :
    Except Halt Arguments := do
  let a ← readArguments flags [] operands true ({}, none) arguments
  if a.operands.length = operands then return a else throw .misuse

end SqlBuilder.Command
