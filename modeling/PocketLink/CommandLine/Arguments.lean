import PocketLink.Remote.Constants

/-!
# Arguments

A command line names a verb, and gives options before and behind it and words behind it. Options
before the verb hold for every verb; those behind it may repeat them, and then these win.

An argument is an option if it starts with a hyphen, except for a hyphen alone and for everything
behind a double hyphen. Short options can be run together, and the value of an option can be
attached to it or be the next argument. The program that `run` starts has arguments of its own: what
the command line does not know goes to it, and from the first of these on everything does.

Arguments are read one by one, and reading ends at the first that is wrong or asks for help.
-/

namespace PocketLink.CommandLine

/-! ## Options and verbs -/

/-- An option. -/
inductive Switch where
  /-- The name of the device. -/
  | device
  /-- The settings file. -/
  | config
  /-- More words in the log. -/
  | verbose
  /-- How lists and states are written. -/
  | format
  /-- A request for help. -/
  | help
  /-- A request for the version. -/
  | version
  deriving DecidableEq, Repr

/-- How lists and states are written. -/
inductive Format where
  | table
  | json
  deriving DecidableEq, Repr

def Format.named? : String → Option Format
  | "table" => some table
  | "json" => some json
  | _ => none

/-- What the command line asks for. -/
inductive Verb where
  | devices
  | status
  | get
  | put
  | mkdir
  | rmdir
  | rm
  | mv
  | run
  | reg
  | completion
  deriving DecidableEq, Repr

namespace Verb

/-- Every verb under its name. -/
def table : List (String × Verb) := [
  ("devices", devices), ("status", status), ("get", get), ("put", put), ("mkdir", mkdir),
  ("rmdir", rmdir), ("rm", rm), ("mv", mv), ("run", run), ("reg", reg), ("completion", completion)]

/-- The verb with a name. One of them has a second name. -/
def named? (name : String) : Option Verb := if name = "ls" then some devices else table.lookup name

/-- The least and the greatest number of words of a verb; some verbs take any number. -/
def arity : Verb → Nat × Option Nat
  | devices | status => (0, some 0)
  | get | put => (1, some 2)
  | mkdir | rmdir | completion => (1, some 1)
  | rm | run => (1, none)
  | mv => (2, some 2)
  | reg => (2, some 3)

/-- The root keys of the registry under their names. -/
def roots : List (String × UInt32) := [
  ("hklm", RootKey.localMachine), ("hkcu", RootKey.currentUser), ("hkcr", RootKey.classesRoot),
  ("hku", RootKey.users)]

/-- The shells that words are completed for. -/
def shells : List String := ["bash", "elvish", "fish", "powershell", "zsh"]

/-- Whether a verb takes a word at a place. Local paths are not empty. -/
def takes (v : Verb) (place : Nat) (word : String) : Bool :=
  (match v.arity.2 with
    | some most => decide (place < most)
    | none => true) &&
  match v, place with
  | get, 1 => word ≠ ""
  | put, 0 => word ≠ ""
  | reg, 0 => (roots.lookup word).isSome
  | completion, 0 => word ∈ shells
  | _, _ => true

end Verb

namespace Switch

/-- Whether an option has a value. -/
def hasValue : Switch → Bool
  | device | config | format => true
  | verbose | help | version => false

/-- Whether an option takes a value. Paths are not empty. -/
def takes : Switch → String → Bool
  | config, value => value ≠ ""
  | format, value => (Format.named? value).isSome
  | _, _ => true

/-- The option with a long name, before the verb or behind it. -/
def long? (verb : Option Verb) : String → Option Switch
  | "device" => some device
  | "config" => some config
  | "verbose" => some verbose
  | "help" => some help
  | "version" => if verb = none then some version else none
  | "format" => if verb = some .devices ∨ verb = some .status then some format else none
  | _ => none

/-- The option with a short name, before the verb or behind it. -/
def short? (verb : Option Verb) : Char → Option Switch
  | 'd' => some device
  | 'v' => some verbose
  | 'h' => some help
  | 'V' => if verb = none then some version else none
  | _ => none

end Switch

/-! ## Reading -/

/-- Why reading ended before the arguments did. -/
inductive Stop where
  /-- The arguments are wrong. -/
  | usage
  /-- They ask for help. -/
  | help
  /-- They ask for the version. -/
  | version
  deriving DecidableEq, Repr

/-- What the look of an argument says about it. -/
inductive Shape where
  /-- A plain word. -/
  | word
  /-- The mark behind which there are words only. -/
  | separator
  /-- A long option, perhaps with a value attached. -/
  | long (name : String) (value : Option String)
  /-- Short options. -/
  | short (letters : List Char)
  deriving DecidableEq, Repr

/-- The look of an argument. -/
def Shape.of (arg : String) : Shape :=
  match arg.toList with
  | ['-', '-'] => separator
  | '-' :: '-' :: rest =>
    long (String.ofList (rest.takeWhile (· ≠ '='))) <|
      match rest.dropWhile (· ≠ '=') with
      | [] => none
      | _ :: value => some (String.ofList value)
  | '-' :: c :: rest => short (c :: rest)
  | _ => word

/-- What was read so far, before the verb or behind it. -/
structure Reading where
  /-- The options that were given values. -/
  values : List (Switch × String) := []
  /-- The option that waits for its value. -/
  waiting : Option Switch := none
  /-- The words. -/
  words : List String := []
  /-- Whether only words follow. -/
  isPlain : Bool := false
  deriving DecidableEq, Repr

namespace Reading

def value? (r : Reading) (s : Switch) : Option String := r.values.lookup s

/-- Gives an option its value. It has one value only, and one that it takes. -/
def give (r : Reading) (s : Switch) (value : String) : Except Stop Reading :=
  if (r.value? s).isNone && s.takes value then
    .ok { r with values := (s, value) :: r.values, waiting := none }
  else .error .usage

/-- Meets an option. The option before it must not wait for its value any more. -/
def meet (r : Reading) (s : Switch) (attached : Option String) : Except Stop Reading :=
  if r.waiting.isSome then .error .usage
  else
    match s.hasValue, attached with
    | true, some value => r.give s value
    | true, none => .ok { r with waiting := some s }
    | false, some _ => .error .usage
    | false, none =>
      match s with
      | .help => .error .help
      | .version => .error .version
      | _ => .ok r

/-- Meets short options. What follows one that has a value is the value. -/
def meetAll (r : Reading) (verb : Option Verb) : List Char → Except Stop Reading
  | [] => .ok r
  | c :: rest =>
    match Switch.short? verb c with
    | none => .error .usage
    | some s =>
      if s.hasValue then
        r.meet s (match rest with
          | [] => none
          | '=' :: value => some (String.ofList value)
          | value => some (String.ofList value))
      else
        match r.meet s none with
        | .ok r => r.meetAll verb rest
        | .error stop => .error stop

/-- Takes a word. Before the verb there are none. -/
def takeWord (r : Reading) (verb : Option Verb) (arg : String) : Except Stop Reading :=
  match verb with
  | none => .error .usage
  | some v =>
    if v.takes r.words.length arg then
      .ok { r with
        words := r.words ++ [arg]
        isPlain := r.isPlain || v = .run && 0 < r.words.length }
    else .error .usage

/-- Takes a value or a word. -/
def take (r : Reading) (verb : Option Verb) (arg : String) : Except Stop Reading :=
  match r.waiting with
  | some s => r.give s arg
  | none => r.takeWord verb arg

/-- Whether unknown options belong to the program that is started. -/
def passesOn (r : Reading) (verb : Option Verb) : Bool := verb = some .run && 0 < r.words.length

def step (verb : Option Verb) (r : Reading) (arg : String) : Except Stop Reading :=
  if r.isPlain then r.takeWord verb arg
  else
    match Shape.of arg with
    | .word => r.take verb arg
    | .separator => if r.waiting.isSome then .error .usage else .ok { r with isPlain := true }
    | .long name value =>
      match Switch.long? verb name with
      | some s => r.meet s value
      | none => if r.passesOn verb then r.take verb arg else .error .usage
    | .short letters =>
      if r.passesOn verb && letters.any fun c => (Switch.short? verb c).isNone then r.take verb arg
      else r.meetAll verb letters

def behind (v : Verb) (args : List String) : Except Stop Reading := do
  let r ← args.foldlM (step (some v)) {}
  if r.waiting.isSome || r.words.length < v.arity.1 then .error .usage else .ok r

end Reading

/-! ## Invocations -/

/-- A command line that was understood. -/
structure Invocation where
  /-- What is asked for. -/
  verb : Verb
  /-- The words behind the verb. -/
  words : List String
  /-- The name of the device, unless it is the default one. -/
  device : Option String
  /-- The settings file, unless it is the default one. -/
  config : Option String
  /-- How lists and states are written. -/
  format : Format
  deriving DecidableEq, Repr

def Invocation.ofReadings (verb : Verb) (before behind : Reading) : Invocation where
  verb := verb
  words := behind.words
  device := behind.value? .device <|> before.value? .device
  config := behind.value? .config <|> before.value? .config
  format := (behind.value? .format >>= Format.named?).getD .table

/-- What a request for help on a topic leads to: help if there is such a verb, or on help itself. -/
def helpOn : List String → Stop
  | [] => .help
  | [topic] => if topic = "help" || (Verb.named? topic).isSome then .help else .usage
  | _ => .usage

/-- Reads the arguments before the verb, and those behind it when it comes. -/
def readFrom (before : Reading) : List String → Except Stop Invocation
  | [] => .error .usage
  | arg :: rest =>
    let verb := if before.waiting.isSome || before.isPlain then none else Verb.named? arg
    match verb with
    | some v => (Reading.behind v rest).map (Invocation.ofReadings v before)
    | none =>
      if arg = "help" && before.waiting.isNone && !before.isPlain then .error (helpOn rest)
      else
        match before.step none arg with
        | .ok before => readFrom before rest
        | .error stop => .error stop

def read (args : List String) : Except Stop Invocation := readFrom {} args

end PocketLink.CommandLine
