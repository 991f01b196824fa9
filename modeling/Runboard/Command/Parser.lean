import Runboard.Command.Basic

/-!
Reading arguments. Options stand before the command they belong to: those of the program before
its command, those of a command behind it. A value follows its option or is joined to it by `=`.

A value is only looked at when the next option begins or the arguments of its level end, so an
argument that fits nowhere is noticed before a bad value in front of it.
-/

namespace Runboard.Command

inductive Level
  | program
  | run
  | endpoints
deriving DecidableEq, Repr

inductive Switch
  | config
  | log
  | quiet
  | script
  | url
  | delay
  | help
  | version
deriving DecidableEq, Repr

namespace Switch

def ofLong? : Level → String → Option Switch
  | _, "help" => some .help
  | .program, "version" => some .version
  | .program, "config" => some .config
  | .program, "log" => some .log
  | .program, "quiet" => some .quiet
  | .run, "script" => some .script
  | .run, "url" => some .url
  | .run, "delay-ms" => some .delay
  | .endpoints, "url" => some .url
  | _, _ => none

def ofLetter? : Level → Char → Option Switch
  | _, 'h' => some .help
  | .program, 'V' => some .version
  | _, _ => none

def takesValue : Switch → Bool
  | .config => true
  | .log => true
  | .script => true
  | .url => true
  | .delay => true
  | _ => false

end Switch

structure Given where
  config : Option String := none
  log : Option LogTarget := none
  quiet : Bool := false
  script : Option String := none
  url : Option String := none
  delay : Option Nat := none
  /-- The option whose value has not been looked at, with the value once it is there. -/
  pending : Option (Switch × Option String) := none
deriving DecidableEq, Repr

/-- A count of milliseconds: decimal digits, with a plus sign allowed, below `2 ^ 64`. -/
def readDelay? (text : String) : Option Nat :=
  let digits :=
    match text.toList with
    | '+' :: rest => rest
    | cs => cs
  if digits.isEmpty || !digits.all Char.isDigit then none
  else
    let n := digits.foldl (fun n c => 10 * n + (c.toNat - '0'.toNat)) 0
    if n ≤ 0xffffffffffffffff then some n else none

/-- A file name, which must not be empty. -/
def readPath (text : String) : Except UsageError String :=
  if text = "" then .error .invalidValue else .ok text

def once {α : Type} (before : Option α) (value : Except UsageError α) :
    Except UsageError (Option α) :=
  if before.isSome then .error .repeated else value.map some

namespace Given

def store (g : Given) (switch : Switch) (value : String) : Except UsageError Given :=
  match switch with
  | .config => return { g with config := ← once g.config (readPath value) }
  | .log =>
    let target := match LogTarget.ofName? value with
      | some target => .ok target
      | none => .error .invalidValue
    return { g with log := ← once g.log target }
  | .script => return { g with script := ← once g.script (readPath value) }
  | .url => return { g with url := ← once g.url (.ok value) }
  | .delay =>
    let delay := match readDelay? value with
      | some n => .ok n
      | none => .error .unreadableValue
    return { g with delay := ← once g.delay delay }
  | _ => .ok g

def settle (g : Given) : Except UsageError Given :=
  match g.pending with
  | none => .ok g
  | some (_, none) => .error .invalidValue
  | some (switch, some value) => { g with pending := none }.store switch value

/-- The next argument is the value of an option. -/
def awaits (g : Given) : Option Switch :=
  match g.pending with
  | some (switch, none) => some switch
  | _ => none

/-- Does what an option without value asks for. -/
def flag (g : Given) (switch : Switch) : Except UsageError Given := do
  let g ← g.settle
  match switch with
  | .help => .error .help
  | .version => .error .version
  | .quiet => if g.quiet then .error .repeated else return { g with quiet := true }
  | _ => return g

/-- Takes a long option, with the value that is joined to it. -/
def long (g : Given) (level : Level) (name : String) (joined : Option String) :
    Except UsageError Given :=
  match Switch.ofLong? level name with
  | none => .error .unknownArgument
  | some switch =>
    if switch.takesValue then do
      let g ← g.settle
      match joined with
      | some value => g.store switch value
      | none => return { g with pending := some (switch, none) }
    else if joined.isSome then .error .needlessValue
    else g.flag switch

/-- Takes letters that share one dash. -/
def letters (g : Given) (level : Level) : List Char → Except UsageError Given
  | [] => .ok g
  | c :: rest =>
    match Switch.ofLetter? level c with
    | none => .error .unknownArgument
    | some switch => do (← g.flag switch).letters level rest

def isAny (g : Given) : Bool := g.config.isSome || g.log.isSome || g.quiet

end Given

inductive Shape
  | divider
  | long (name : String) (joined : Option String)
  | letters (cs : List Char)
  | plain

/-- The shape of an argument. A single dash is a plain value. -/
def shape (arg : String) : Shape :=
  match arg.toList with
  | ['-', '-'] => .divider
  | '-' :: '-' :: rest =>
    .long (String.ofList (rest.takeWhile (· ≠ '=')))
      ((rest.dropWhile (· ≠ '=')).tail?.map String.ofList)
  | '-' :: c :: rest => .letters (c :: rest)
  | _ => .plain

def commandNames : List String := ["run", "endpoints", "help"]

/-- The error of an argument that nothing asks for. Behind the divider not even commands are
taken. -/
def stray (level : Level) (divided : Bool) (arg : String) : UsageError :=
  if level = .program && !(divided && commandNames.contains arg) then .unknownCommand
  else .unknownArgument

/-- Reads the options of a level, up to the end or a command of the program. -/
def readOptions (level : Level) (g : Given) :
    List String → Except UsageError (Given × Option (String × List String))
  | [] => .ok (g, none)
  | arg :: rest =>
    if level = .program && g.awaits.isNone && commandNames.contains arg then
      .ok (g, some (arg, rest))
    else
      match shape arg with
      | .divider =>
        match rest with
        | [] => .ok (g, none)
        | next :: _ => .error (stray level true next)
      | .long name joined => do readOptions level (← g.long level name joined) rest
      | .letters cs => do readOptions level (← g.letters level cs) rest
      | .plain =>
        match g.awaits with
        | some switch => readOptions level { g with pending := some (switch, some arg) } rest
        | none => .error (stray level false arg)

def readLevel (level : Level) (args : List String) : Except UsageError Given := do
  let (g, _) ← readOptions level {} args
  g.settle

/-- The error that `help` leads to: help, unless it is asked about something that is no command. -/
def helpOn : List String → UsageError
  | [] => .help
  | [name] => if commandNames.contains name then .help else .unknownCommand
  | _ => .unknownCommand

def readCommand (name : String) (args : List String) : Except UsageError Command :=
  match name with
  | "run" => do
    let g ← readLevel .run args
    match g.script with
    | none => .error .missingOption
    | some script => return .run script (g.url.getD "replay") g.delay
  | "endpoints" => do
    let g ← readLevel .endpoints args
    return .endpoints g.url
  | _ => .error (helpOn args)

/-- The file that settings are read from unless another one is named. -/
def standardConfig : String := "./monitor.ron"

def parse (args : List String) : Except UsageError Options := do
  match ← readOptions .program {} args with
  | (g, some (name, rest)) =>
    let command ← readCommand name rest
    let g ← g.settle
    return { config := g.config.getD standardConfig, log := g.log.getD .file, quiet := g.quiet
             command }
  | (g, none) =>
    let g ← g.settle
    .error (if g.isAny then .missingCommand else .helpForNothing)

end Runboard.Command
