import VoxelScore.Report.Views
import VoxelScore.Settings

/-!
# The command line

Options come first, then the name of a view with options of its own. At most one option names the
pattern, and no option is given twice. Options that ask for help or for the version end the reading
at once.

## Main definitions

* `Invocation` — what a command line asks for.
* `Stop` — why there is nothing to run.
* `Invocation.parse` — reading arguments.
-/

namespace VoxelScore

/-- Where the pattern comes from. -/
inductive PatternInput where
  | code (text : Text)
  /-- A page link that carries the pattern. -/
  | link (location : Text)
  /-- The payload of a share link. -/
  | payload (payload : Text)
  | shareId (id : Text)
  /-- A file that holds the code. -/
  | file (path : Text)
  deriving DecidableEq, Repr

/-- What a command line asks for. -/
structure Invocation where
  input : Option PatternInput
  /-- How many cycles to play, in place of what the settings say. -/
  cycles : Option Nat
  /-- The file that holds the settings, in place of the usual one. -/
  settings : Option Text
  view : View
  deriving DecidableEq, Repr

/-- Why a command line is not understood. -/
inductive Misuse where
  | unknownArgument (argument : Text)
  | missingValue (argument : Text)
  | badValue (value : Text)
  /-- A value for an option that takes none. -/
  | needlessValue (argument : Text)
  | repeatedOption (argument : Text)
  /-- Two options that both name the pattern. -/
  | severalPatterns
  deriving DecidableEq, Repr

/-- Why there is nothing to run. -/
inductive Stop where
  | help
  | version
  | misuse (cause : Misuse)
  deriving DecidableEq, Repr

/-! ## Arguments -/

/-- The form of an argument. -/
inductive Argument where
  /-- Two dashes alone. -/
  | separator
  | long (name : Text) (value : Option Text)
  | short (letter : Char) (attached : Text)
  | word (text : Text)
  deriving DecidableEq, Repr

/-- The form of an argument: a dash alone is a word. -/
def Argument.ofText (t : Text) : Argument :=
  match t with
  | ['-', '-'] => separator
  | '-' :: '-' :: r =>
    match Text.splitOnce? '=' r with
    | some (name, value) => long name (some value)
    | none => long r none
  | '-' :: letter :: attached => short letter attached
  | _ => word t

/-- An option that takes a value. -/
inductive Flag where
  | code
  | link
  | payload
  | shareId
  | file
  | cycles
  | settings
  deriving DecidableEq, Repr

namespace Flag

/-- The option of a long name. -/
def ofName? (name : Text) : Option Flag :=
  match String.ofList name with
  | "code" => some code
  | "url" => some link
  | "hash" => some payload
  | "share-id" => some shareId
  | "file" => some file
  | "cycles" => some cycles
  | "config" => some settings
  | _ => none

/-- The option of a letter. -/
def ofLetter? : Char → Option Flag
  | 'f' => some file
  | 'c' => some cycles
  | _ => none

end Flag

/-- A whole number with an optional sign that fits 32 bits without sign. -/
def cycleNumber? (t : Text) : Option Nat :=
  let (negative, digits) := Numeral.splitSign t
  if digits.isEmpty || !digits.all Char.isDigit then none
  else
    let value := Numeral.digitsValue digits
    if value ≤ 0xffffffff && (!negative || value = 0) then some value else none

/-! ## Invocations -/

/-- The options read so far. -/
structure Given where
  inputs : List PatternInput
  cycles : Option Nat
  settings : Option Text
  flags : List Flag

namespace Given

/-- No options. -/
def none : Given := ⟨[], .none, .none, []⟩

/-- The options with one more, of which only the first use counts. Paths cannot be empty. -/
def add (g : Given) (flag : Flag) (argument value : Text) : Except Misuse Given :=
  if g.flags.contains flag then .error (.repeatedOption argument)
  else
    let g := { g with flags := flag :: g.flags }
    let input (i : PatternInput) : Given := { g with inputs := i :: g.inputs }
    match flag with
    | .code => .ok (input (.code value))
    | .link => .ok (input (.link value))
    | .payload => .ok (input (.payload value))
    | .shareId => .ok (input (.shareId value))
    | .file => if value.isEmpty then .error (.badValue value) else .ok (input (.file value))
    | .settings =>
      if value.isEmpty then .error (.badValue value) else .ok { g with settings := some value }
    | .cycles =>
      match cycleNumber? value with
      | some n => .ok { g with cycles := some n }
      | .none => .error (.badValue value)

/-- The invocation of the options with a view. -/
def finish (g : Given) (view : View) : Except Stop Invocation :=
  match g.inputs with
  | [] => .ok ⟨.none, g.cycles, g.settings, view⟩
  | [input] => .ok ⟨some input, g.cycles, g.settings, view⟩
  | _ => .error (.misuse .severalPatterns)

end Given

/-- Help is asked for. -/
def Argument.isHelp : Argument → Bool
  | long name none => name = "help".toList
  | short letter _ => letter = 'h'
  | _ => false

/-- The version is asked for. -/
def Argument.isVersion : Argument → Bool
  | long name none => name = "version".toList
  | short letter _ => letter = 'V'
  | _ => false

namespace Invocation

/-- What follows the name of a view. The voxels can be limited to the first ones, once; a separator
may come last. -/
def viewArguments (view : View) : List Text → Except Stop View
  | [] => .ok view
  | argument :: rest =>
    let form := Argument.ofText argument
    if form.isHelp then .error .help
    else
      match form, view with
      | .separator, _ =>
        if rest.isEmpty then .ok view else .error (.misuse (.unknownArgument argument))
      | .long name none, .voxels firstOnly =>
        if name ≠ "dedupe".toList then .error (.misuse (.unknownArgument argument))
        else if firstOnly then .error (.misuse (.repeatedOption argument))
        else viewArguments (.voxels true) rest
      | _, _ => .error (.misuse (.unknownArgument argument))

/-- The view of a name. -/
def view? (name : Text) : Option View :=
  match String.ofList name with
  | "events" => some .events
  | "voxels" => some (.voxels false)
  | "blocks" => some .blocks
  | "summary" => some .summary
  | _ => none

/-- The views whose help is asked for: at most one. -/
def helpTopics : List Text → Stop
  | [] => .help
  | [topic] =>
    if (view? topic).isSome || topic = "help".toList then .help
    else .misuse (.unknownArgument topic)
  | _ :: topic :: _ => .misuse (.unknownArgument topic)

/-- A value that stands in an argument of its own does not look like an option. -/
def isValue (t : Text) : Bool :=
  match Argument.ofText t with
  | .word _ => true
  | _ => false

/-- Reads arguments after the options that are given. -/
def parseFrom (given : Given) : List Text → Except Stop Invocation
  | [] => given.finish .summary
  | argument :: rest =>
    let form := Argument.ofText argument
    let stop (cause : Misuse) : Except Stop Invocation := .error (.misuse cause)
    let withValue (flag : Flag) : Except Stop Invocation :=
      match rest with
      | [] => stop (.missingValue argument)
      | value :: rest =>
        if !isValue value then stop (.missingValue argument)
        else
          match given.add flag argument value with
          | .ok given => parseFrom given rest
          | .error cause => stop cause
    let attached (flag : Flag) (value : Text) : Except Stop Invocation :=
      match given.add flag argument value with
      | .ok given => parseFrom given rest
      | .error cause => stop cause
    if form.isHelp then .error .help
    else if form.isVersion then .error .version
    else
      match form with
      -- Behind a separator only words could follow, and no word is taken there.
      | .separator =>
        match rest with
        | [] => given.finish .summary
        | next :: _ => stop (.unknownArgument next)
      | .long name value =>
        match Flag.ofName? name, value with
        | some flag, some value => attached flag value
        | some flag, none => withValue flag
        | none, some _ =>
          if name = "help".toList || name = "version".toList then stop (.needlessValue argument)
          else stop (.unknownArgument argument)
        | none, none => stop (.unknownArgument argument)
      | .short letter value =>
        match Flag.ofLetter? letter with
        | some flag =>
          -- `-f x`, `-fx` and `-f=x` are the same.
          if value.isEmpty then withValue flag
          else attached flag (if value.head? = some '=' then value.drop 1 else value)
        | none => stop (.unknownArgument argument)
      | .word text =>
        if text = "help".toList then .error (helpTopics rest)
        else
          match view? text with
          | some view => do given.finish (← viewArguments view rest)
          | none => stop (.unknownArgument argument)

/-- What a command line asks for. -/
def parse (arguments : List Text) : Except Stop Invocation :=
  parseFrom .none arguments

end Invocation

end VoxelScore
