import CardInventory.Text.Percent

/-!
# Command line

The program takes the path of a configuration file and a flag to check the
configuration only. An option takes the next word for its value, unless one is
attached to it, but no word that looks like an option itself. Nothing may be
said twice. The words are looked at from left to right; an option that still
waits for its value, or whose value has just been taken, is settled when the
next one is met.
-/

namespace CardInventory

open CardInventory.Text

/-- What the program was asked for. -/
structure Arguments where
  config : String
  validate : Bool
  deriving DecidableEq, Repr

namespace Arguments

/-- The configuration file that is read where no other is named. -/
def standardConfig : String :=
  "config.yaml"

/-- What the help says. -/
def helpLines : List String :=
  ["Card binder and deck inventory service - tracks owned cards and allocates them into " ++
      "decks without ever losing a copy",
    "",
    "Usage: binderctl [OPTIONS]",
    "",
    "Options:",
    "  -f, --config <CONFIG>  Path to configuration file [env: BINDERCTL_CONFIG=] " ++
      "[default: config.yaml]",
    "      --validate         Validate configuration and exit without starting the server",
    "  -h, --help             Print help",
    "  -V, --version          Print version"]

/-- The line that names the version of the program. -/
def versionLine : String :=
  "binderctl 0.1.0"

/-- Why a command line is refused. -/
inductive Refusal where
  | unknownArgument
  | missingValue
  | unexpectedValue
  | repeated
  deriving DecidableEq, Repr

/-- What ends the reading of a command line early. -/
inductive Stop where
  | refused (refusal : Refusal)
  | help
  | version
  deriving DecidableEq, Repr

/-- A word of a command line. -/
inductive Word where
  | long (name : List Char) (value : Option (List Char))
  | short (letters : List Char)
  | separator
  | plain

/-- The kind of a word. A lone hyphen is a plain word. -/
def Word.of : List Char → Word
  | ['-', '-'] => separator
  | '-' :: '-' :: rest =>
      let (name, value) := cutAt '=' rest
      long name value
  | '-' :: c :: rest => short (c :: rest)
  | _ => plain

/-- The option for the configuration file after it has been met. -/
inductive Pending where
  | none
  | awaiting
  | taken (value : String)

/-- How far a command line has been read. -/
structure Progress where
  config : Option String
  validate : Bool
  pending : Pending
  onlyPlain : Bool

namespace Progress

/-- Nothing has been read. -/
def start : Progress :=
  ⟨none, false, .none, false⟩

/-- Take a value for the configuration file. -/
def takeConfig (progress : Progress) (value : String) : Except Stop Progress :=
  if progress.config.isSome then .error (.refused .repeated)
  else .ok { progress with config := some value }

/-- Settle the option that is pending. -/
def settle (progress : Progress) : Except Stop Progress :=
  match progress.pending with
  | .none => .ok progress
  | .awaiting => .error (.refused .missingValue)
  | .taken value => { progress with pending := .none }.takeConfig value

/-- The option for the configuration file, perhaps with a value attached. -/
def configOption (progress : Progress) (value : Option (List Char)) : Except Stop Progress := do
  let progress ← progress.settle
  match value with
  | some value => progress.takeConfig (String.ofList value)
  | none => return { progress with pending := .awaiting }

/-- The flag to check the configuration only. -/
def validateFlag (progress : Progress) : Except Stop Progress := do
  let progress ← progress.settle
  if progress.validate then throw (.refused .repeated)
  else return { progress with validate := true }

/-- A word that begins with two hyphens. -/
def long (progress : Progress) (name : List Char) (value : Option (List Char)) :
    Except Stop Progress :=
  let flag := fun (act : Except Stop Progress) =>
    if value.isSome then .error (.refused .unexpectedValue) else act
  if name = "config".toList then progress.configOption value
  else if name = "validate".toList then flag progress.validateFlag
  else if name = "help".toList then flag (progress.settle.bind fun _ => .error .help)
  else if name = "version".toList then flag (progress.settle.bind fun _ => .error .version)
  else .error (.refused .unknownArgument)

/-- A word of one hyphen and letters. What follows the letter of an option is its
value, with or without an equals sign. -/
def short (progress : Progress) : List Char → Except Stop Progress
  | 'f' :: rest =>
      match rest with
      | [] => progress.configOption none
      | '=' :: value => progress.configOption (some value)
      | value => progress.configOption (some value)
  | 'h' :: _ => progress.settle.bind fun _ => .error .help
  | 'V' :: _ => progress.settle.bind fun _ => .error .version
  | _ => .error (.refused .unknownArgument)

/-- The next word. -/
def next (progress : Progress) (word : String) : Except Stop Progress :=
  if progress.onlyPlain then .error (.refused .unknownArgument)
  else
    match Word.of word.toList with
    | .separator => .ok { progress with onlyPlain := true }
    | .long name value => progress.long name value
    | .short letters => progress.short letters
    | .plain =>
        match progress.pending with
        | .awaiting => .ok { progress with pending := .taken word }
        | _ => .error (.refused .unknownArgument)

end Progress

/-- The arguments of a command line. A configuration file that is not named there may
be named by the environment. -/
def parse (words : List String) (environment : Option String) : Except Stop Arguments := do
  let progress ← words.foldlM Progress.next .start
  let progress ← progress.settle
  return ⟨(progress.config.or environment).getD standardConfig, progress.validate⟩

end Arguments

end CardInventory
