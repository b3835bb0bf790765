import Syllabus.Text.Basic

/-! The command line. One command, `build`, takes the directory of a vault and options; two options
may stand before the command as well. An option or argument is checked only when the next one is
understood, so of two mistakes the later one may be the one reported. -/
namespace Syllabus.CommandLine

structure Invocation where
  config : Option String
  verbose : Bool
  vault : String
  output : Option String
  pretty : Bool
  strict : Bool
  deriving DecidableEq, Repr

inductive Stop where
  | help
  | version
  | silence
  | unknownArgument (text : String)
  | unknownCommand (text : String)
  | missingCommand
  | missingVault
  | missingValue (name : String)
  | repeated (name : String)
  | unneededValue (name : String)
  deriving DecidableEq, Repr

def Stop.message : Stop → String
  | .help | .silence => "Usage: coursevault [-c FILE] [-v] build VAULT [-o FILE] [--pretty] [--strict]"
  | .version => "coursevault"
  | .unknownArgument text => "unexpected argument '" ++ text ++ "'"
  | .unknownCommand text => "unrecognized subcommand '" ++ text ++ "'"
  | .missingCommand => "a subcommand is required"
  | .missingVault => "the vault directory is required"
  | .missingValue name => "a value is required for '" ++ name ++ "'"
  | .repeated name => "'" ++ name ++ "' cannot be used multiple times"
  | .unneededValue name => "'" ++ name ++ "' takes no value"

inductive Level where
  | root
  | build
  deriving DecidableEq, Repr

inductive Name where
  | config
  | verbose
  | output
  | pretty
  | strict
  | vault
  | help
  | version
  deriving DecidableEq, Repr

namespace Name

def long : Name → String
  | .config => "config"
  | .verbose => "verbose"
  | .output => "output"
  | .pretty => "pretty"
  | .strict => "strict"
  | .vault => "vault"
  | .help => "help"
  | .version => "version"

def longNames : Level → List Name
  | .root => [.config, .verbose, .help, .version]
  | .build => [.config, .verbose, .output, .pretty, .strict, .help]

def shortNames : Level → List (Char × Name)
  | .root => [('c', .config), ('v', .verbose), ('h', .help), ('V', .version)]
  | .build => [('c', .config), ('v', .verbose), ('o', .output), ('h', .help)]

def takesValue (n : Name) : Bool := n == .config || n == .output || n == .vault

end Name

structure State where
  given : List (Name × String)
  pending : Option (Name × Option String)
  deriving DecidableEq, Repr

namespace State

def empty : State := ⟨[], none⟩

def get? (s : State) (n : Name) : Option String := (s.given.find? fun entry => entry.1 == n).map Prod.snd

def has (s : State) (n : Name) : Bool := (s.get? n).isSome

def add (s : State) (n : Name) (value : Option String) : Except Stop State :=
  match value with
  | none => if n.takesValue then .error (.missingValue n.long)
    else if s.has n then .error (.repeated n.long) else .ok { s with given := s.given ++ [(n, "")] }
  | some value =>
    if s.has n then .error (.repeated n.long)
    else if value.isEmpty then .error (.missingValue n.long)
    else .ok { s with given := s.given ++ [(n, value)] }

def settle (s : State) : Except Stop State :=
  match s.pending with
  | none => .ok s
  | some (n, value) => { s with pending := none }.add n value

def react (s : State) (n : Name) (value : Option String) : Except Stop State := do
  let s ← s.settle
  match n with
  | .help => .error .help
  | .version => .error .version
  | n => s.add n value

def await (s : State) (n : Name) (value : Option String) : Except Stop State := do
  let s ← s.settle
  .ok { s with pending := some (n, value) }

def waits (s : State) : Bool := s.pending.any fun entry => entry.2.isNone

def supply (s : State) (value : String) : State :=
  { s with pending := s.pending.map fun entry => (entry.1, some value) }

end State

def longOption (level : Level) (s : State) (text : String) : Except Stop State :=
  let (name, value) := match Text.cut? "=" text with
    | some (name, value) => (name, some value)
    | none => (text, none)
  match (Name.longNames level).find? fun n => n.long == name with
  | none => .error (.unknownArgument ("--" ++ text))
  | some n =>
    match n.takesValue, value with
    | true, none => s.await n none
    | true, some value => s.react n (some value)
    | false, some _ => .error (.unneededValue n.long)
    | false, none => s.react n none

def shortOptions (level : Level) : State → List Char → Except Stop State
  | s, [] => .ok s
  | s, c :: rest =>
    match (Name.shortNames level).find? fun entry => entry.1 == c with
    | none => .error (.unknownArgument (.ofList ['-', c]))
    | some (_, n) =>
      if n.takesValue then
        match rest with
        | [] => s.await n none
        | '=' :: value => s.react n (some (.ofList value))
        | value => s.react n (some (.ofList value))
      else do shortOptions level (← s.react n none) rest

inductive Word where
  | escape
  | long (text : String)
  | short (text : List Char)
  | plain
  deriving DecidableEq, Repr

def Word.ofText (text : String) : Word :=
  match text.toList with
  | ['-', '-'] => .escape
  | '-' :: '-' :: rest => .long (.ofList rest)
  | '-' :: c :: rest => .short (c :: rest)
  | _ => .plain

def argument (s : State) (text : String) : Except Stop State :=
  if s.has .vault || s.pending.any (fun entry => entry.1 == .vault) then .error (.unknownArgument text)
  else s.await .vault (some text)

def buildWords : (escaped : Bool) → State → List String → Except Stop State
  | _, s, [] => s.settle
  | true, s, text :: more => do buildWords true (← argument s text) more
  | false, s, text :: more =>
    match Word.ofText text with
    | .escape => buildWords true s more
    | .long name => do buildWords false (← longOption .build s name) more
    | .short names => do buildWords false (← shortOptions .build s names) more
    | .plain => do buildWords false (← if s.waits then .ok (s.supply text) else argument s text) more

def helpWords : List String → Stop
  | [] => .help
  | ["build"] => .help
  | ["help"] => .help
  | "build" :: text :: _ => .unknownCommand text
  | "help" :: text :: _ => .unknownCommand text
  | text :: _ => .unknownCommand text

def rootWords : (escaped : Bool) → State → List String → Except Stop (State × State)
  | _, s, [] => do
    let s ← s.settle
    .error (if s.given.isEmpty then .silence else .missingCommand)
  | true, _, text :: _ =>
    .error (if text == "build" || text == "help" then .unknownArgument text else .unknownCommand text)
  | false, s, text :: more =>
    match Word.ofText text with
    | .escape => rootWords true s more
    | .long name => do rootWords false (← longOption .root s name) more
    | .short names => do rootWords false (← shortOptions .root s names) more
    | .plain =>
      if s.waits then rootWords false (s.supply text) more
      else if text == "build" then do
        let inner ← buildWords false .empty more
        if !inner.has .vault then .error .missingVault
        .ok (← s.settle, inner)
      else if text == "help" then .error (helpWords more)
      else .error (.unknownCommand text)

def parse (words : List String) : Except Stop Invocation := do
  let (outer, inner) ← rootWords false .empty words
  .ok { config := (inner.get? .config).or (outer.get? .config)
        verbose := inner.has .verbose || outer.has .verbose
        vault := (inner.get? .vault).getD ""
        output := inner.get? .output
        pretty := inner.has .pretty
        strict := inner.has .strict }

end Syllabus.CommandLine
