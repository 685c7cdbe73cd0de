import InterfaceDraft.CommandLine.Message
import InterfaceDraft.Files.Path
import InterfaceDraft.Interface.Draft
import InterfaceDraft.Number.Numeral

set_option autoImplicit false

namespace InterfaceDraft.CommandLine

open Text Files Interface Number

inductive Parameter where
  | receiver
  | root
  | interface
  | package
  | inject
  | out
  | pool
  | style
  | config
  deriving DecidableEq, Repr

inductive Switch where
  | strict
  | stats
  | verbose
  | help
  | version
  deriving DecidableEq, Repr

inductive Choice where
  | parameter (parameter : Parameter)
  | switch (switch : Switch)
  deriving DecidableEq, Repr

def Parameter.name : Parameter → String
  | .receiver => "struct"
  | .root => "root"
  | .interface => "interface"
  | .package => "package"
  | .inject => "inject"
  | .out => "out"
  | .pool => "pool"
  | .style => "style"
  | .config => "config"

def Parameter.valueName : Parameter → String
  | .receiver => "NAME"
  | .root => "ROOT"
  | .interface => "INTERFACE"
  | .package => "PACKAGE"
  | .inject => "TEXT"
  | .out => "OUT"
  | .pool => "N"
  | .style => "STYLE"
  | .config => "CONFIG"

def Switch.name : Switch → String
  | .strict => "strict"
  | .stats => "stats"
  | .verbose => "verbose"
  | .help => "help"
  | .version => "version"

def Choice.name : Choice → String
  | .parameter p => p.name
  | .switch s => s.name

def Choice.shown : Choice → String
  | .parameter p => s!"--{p.name} <{p.valueName}>"
  | .switch s => s!"--{s.name}"

def Choice.all : List Choice :=
  [.parameter .receiver, .parameter .root, .parameter .interface, .parameter .package,
   .parameter .inject, .parameter .out, .parameter .pool, .parameter .style, .parameter .config,
   .switch .strict, .switch .stats, .switch .verbose, .switch .help, .switch .version]

def Choice.ofName? (name : List Char) : Option Choice :=
  Choice.all.find? (·.name.toList == name)

def Choice.letters : List (Char × Choice) :=
  [('s', .parameter .receiver), ('r', .parameter .root), ('i', .parameter .interface),
   ('p', .parameter .package), ('o', .parameter .out), ('c', .parameter .config),
   ('v', .switch .verbose), ('h', .switch .help), ('V', .switch .version)]

def Choice.ofLetter? (letter : Char) : Option Choice :=
  Choice.letters.lookup letter

structure Arguments where
  receiver : String
  root : Path := .ofString "."
  interface : Option String := none
  package : Option String := none
  inject : List String := []
  out : Option Path := none
  pool : Option UInt64 := none
  style : Option Style := none
  config : Option Path := none
  strict : Bool := false
  stats : Bool := false
  verbose : Bool := false
  deriving DecidableEq, Repr

inductive UsageError where
  | unexpected (argument : String)
  | unexpectedValue (value : String) (switch : Switch)
  -- No value, or an empty one that the parameter cannot have.
  | missingValue (parameter : Parameter)
  | repeated (choice : Choice)
  | invalidStyle (value : String)
  | invalidPool (value : String) (cause : NumeralError)
  | missingReceiver
  | notText
  deriving DecidableEq, Repr

def UsageError.message : UsageError → Message
  | .unexpected argument =>
    [.plain "unexpected argument '", .marked .wrong argument, .plain "' found"]
  | .unexpectedValue value switch =>
    [.plain "unexpected value '", .marked .wrong value, .plain "' for '",
     .marked .right (Choice.switch switch).shown, .plain "' found; no more were expected"]
  | .missingValue p =>
    [.plain "a value is required for '", .marked .wrong (Choice.parameter p).shown,
     .plain "' but none was supplied"]
  | .repeated choice =>
    [.plain "the argument '", .marked .wrong choice.shown,
     .plain "' cannot be used multiple times"]
  | .invalidStyle value =>
    [.plain "invalid value '", .marked .wrong value, .plain "' for '",
     .marked .right (Choice.parameter .style).shown, .plain "'"]
  | .invalidPool value cause =>
    [.plain "invalid value '", .marked .wrong value, .plain "' for '",
     .marked .right (Choice.parameter .pool).shown, .plain s!"': {cause.message}"]
  | .missingReceiver =>
    [.plain "the following required arguments were not provided:\n  ",
     .marked .right (Choice.parameter .receiver).shown]
  | .notText => [.plain "invalid UTF-8 was detected in one or more arguments"]

inductive Halt where
  | usage (error : UsageError)
  | help
  | version
  deriving DecidableEq, Repr

abbrev Read (α : Type) := Except Halt α

def refuse {α : Type} (error : UsageError) : Read α := .error (.usage error)

-- Arguments are taken one after the other. A value that is an argument of its own is checked only when
-- the next option is taken, or at the end, so an argument that cannot be an option is reported first.
inductive Pending where
  | waiting (parameter : Parameter)
  | holding (parameter : Parameter) (value : Bytes)
  deriving DecidableEq, Repr

structure Progress where
  arguments : Arguments := { receiver := "" }
  -- The options that are settled.
  given : List Choice := []
  pending : Option Pending := none
  deriving DecidableEq, Repr

namespace Progress

def mark (progress : Progress) (choice : Choice) : Read Progress :=
  if progress.given.contains choice && choice != .parameter .inject then refuse (.repeated choice)
  else .ok { progress with given := choice :: progress.given }

def filled (parameter : Parameter) (value : Bytes) : Read Bytes :=
  if value.isEmpty then refuse (.missingValue parameter) else .ok value

def readText (value : Bytes) : Read String :=
  match decode? value with
  | some text => .ok (.ofList text)
  | none => refuse .notText

def readPath (parameter : Parameter) (value : Bytes) : Read Path :=
  (filled parameter value).map Files.Path.mk

-- No style has a name with U+FFFD, so bytes that are no text are no style.
def readStyle (value : Bytes) : Read Style :=
  match Style.ofName? (shown value) with
  | some style => .ok style
  | none => if value.isEmpty then refuse (.missingValue .style) else refuse (.invalidStyle (shown value))

def readPool (value : Bytes) : Read UInt64 := do
  let text ← readText value
  match readUnsigned wordMax text.toList with
  | .ok n => return .ofNat n
  | .error cause => refuse (.invalidPool text cause)

def put (arguments : Arguments) (parameter : Parameter) (value : Bytes) : Read Arguments :=
  match parameter with
  | .receiver =>
    (filled parameter value).bind fun v => (readText v).map fun text => { arguments with receiver := text }
  | .root => (readPath parameter value).map fun path => { arguments with root := path }
  | .interface => (readText value).map fun text => { arguments with interface := some text }
  | .package => (readText value).map fun text => { arguments with package := some text }
  | .inject => (readText value).map fun text => { arguments with inject := arguments.inject ++ [text] }
  | .out => (readPath parameter value).map fun path => { arguments with out := some path }
  | .pool => (readPool value).map fun n => { arguments with pool := some n }
  | .style => (readStyle value).map fun style => { arguments with style := some style }
  | .config => (readPath parameter value).map fun path => { arguments with config := some path }

def assign (progress : Progress) (parameter : Parameter) (value : Bytes) : Read Progress := do
  let progress ← progress.mark (.parameter parameter)
  let arguments ← put progress.arguments parameter value
  return { progress with arguments }

def settle (progress : Progress) : Read Progress :=
  let rest := { progress with pending := none }
  match progress.pending with
  | none => .ok rest
  | some (.waiting parameter) => refuse (.missingValue parameter)
  | some (.holding parameter value) => rest.assign parameter value

def turnOn (progress : Progress) (switch : Switch) : Read Progress := do
  let progress ← progress.settle
  match switch with
  | .help => .error .help
  | .version => .error .version
  | .strict =>
    let progress ← progress.mark (.switch switch)
    return { progress with arguments.strict := true }
  | .stats =>
    let progress ← progress.mark (.switch switch)
    return { progress with arguments.stats := true }
  | .verbose =>
    let progress ← progress.mark (.switch switch)
    return { progress with arguments.verbose := true }

def take (progress : Progress) (parameter : Parameter) (attached : Option Bytes) :
    Read Progress := do
  let progress ← progress.settle
  match attached with
  | some value => progress.assign parameter value
  | none => return { progress with pending := some (.waiting parameter) }

def dash : UInt8 := 0x2d

def equals : UInt8 := 0x3d

-- What follows two dashes: a name, and a value behind `=`.
def takeName (progress : Progress) (text : Bytes) : Read Progress :=
  let (name, attached) :=
    match splitFirst? equals text with
    | some (name, value) => (name, some value)
    | none => (text, none)
  match (decode? name).bind Choice.ofName?, attached with
  | none, _ => refuse (.unexpected ("--" ++ shown name))
  | some (.parameter parameter), _ => progress.take parameter attached
  | some (.switch switch), some value => refuse (.unexpectedValue (shown value) switch)
  | some (.switch switch), none => progress.turnOn switch

-- The value that stands behind a letter in the same argument.
def attachedTo (rest : Bytes) : Option Bytes :=
  if rest.isEmpty then none else some ((dropLead? [equals] rest).getD rest)

-- What follows one dash: letters of switches, and one of a parameter with its value. The first `skip`
-- bytes belong to a letter that was just taken.
def takeLetters (progress : Progress) : (skip : Nat) → Bytes → Read Progress
  | _, [] => .ok progress
  | skip + 1, _ :: tail => progress.takeLetters skip tail
  | 0, lead :: tail =>
    match next lead tail with
    | .broken _ => refuse (.unexpected (shown (dash :: lead :: tail)))
    | .char letter extra =>
      match Choice.ofLetter? letter with
      | none => refuse (.unexpected (.ofList ['-', letter]))
      | some (.parameter parameter) => progress.take parameter (attachedTo (tail.drop extra))
      | some (.switch switch) =>
        match progress.turnOn switch with
        | .error halt => .error halt
        | .ok progress => progress.takeLetters extra tail

def takePlain (progress : Progress) (argument : Bytes) : Read Progress :=
  match progress.pending with
  | some (.waiting parameter) =>
    .ok { progress with pending := some (.holding parameter argument) }
  | _ => refuse (.unexpected (shown argument))

def takeOne (progress : Progress) (argument : Bytes) : Read Progress :=
  match dropLead? [dash, dash] argument, dropLead? [dash] argument with
  | some text, _ => progress.takeName text
  | none, some (letter :: rest) => progress.takeLetters 0 (letter :: rest)
  | none, _ => progress.takePlain argument

-- Behind two dashes alone no argument is an option, so none may follow.
def takeAll (progress : Progress) : List Bytes → Read Progress
  | [] => .ok progress
  | argument :: more =>
    if argument == [dash, dash] then
      match more with
      | [] => .ok progress
      | stray :: _ => refuse (.unexpected (shown stray))
    else
      match progress.takeOne argument with
      | .error halt => .error halt
      | .ok progress => progress.takeAll more

end Progress

-- Arguments that are all text.
instance : Coe (List String) (List Bytes) := ⟨List.map bytesOf⟩

def Arguments.read (arguments : List Bytes) : Read Arguments := do
  let progress ← Progress.takeAll {} arguments
  let progress ← progress.settle
  if progress.given.contains (.parameter .receiver) then return progress.arguments
  else refuse .missingReceiver

end InterfaceDraft.CommandLine
