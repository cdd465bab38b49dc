import VoxelScore.CommandLine
import VoxelScore.Settings.Document

/-!
# Running a command line

A run reads at most two files, the settings and the code; both are given to it by their contents, so
that a run is a function of its arguments and of what the files hold.

## Main definitions

* `FileContent` — what a path leads to.
* `Answer` — exit code and output.
* `Invocation.paths` — the files that a run reads.
* `Invocation.answer` — the answer of a run.
* `CommandLine.answer` — the answer to arguments.
-/

namespace VoxelScore

/-- What a path leads to. -/
inductive FileContent where
  | missing
  /-- Something that cannot be read as a file. -/
  | unreadable
  | bytes (content : List UInt8)

/-- The text of a file, if it can be read and is UTF-8. -/
def FileContent.text? : FileContent → Option Text
  | bytes content => (Utf8.decode content).toOption
  | _ => none

/-- What the program gives back. -/
structure Answer where
  exit : Nat
  output : String
  error : String
  deriving DecidableEq, Repr

namespace Answer

/-- A result, which ends well. -/
def result (output : String) : Answer :=
  ⟨0, output, ""⟩

/-- A failed run. -/
def failure (message : String) : Answer :=
  ⟨1, "", "Error: " ++ message ++ "\n"⟩

/-- A command line that is not understood. -/
def misuse (message : String) : Answer :=
  ⟨2, "", "error: " ++ message ++ "\n"⟩

end Answer

/-- Why a run fails. -/
inductive RunFault where
  | settings (path : Text)
  | noPattern (location : Text)
  | unreadableCode (path : Text)
  deriving DecidableEq, Repr

/-- The wording of a failure. -/
def RunFault.message : RunFault → String
  | settings path => "failed to load config " ++ String.ofList path
  | noPattern location => "no pattern source found in " ++ String.ofList location
  | unreadableCode path => "failed to read " ++ String.ofList path

namespace Settings

/-- The path of the usual settings file in a home directory. -/
def usualPath (home : Text) : Text :=
  home ++ "/.strudelcraft/config.yaml".toList

/-- The settings of a file; the usual ones if there is no file. -/
def load? : FileContent → Option Settings
  | .missing => some default
  | file => file.text?.bind fun t => (ofText t).toOption

end Settings

namespace Invocation

/-- The path of the settings. -/
def settingsPath (i : Invocation) (home : Text) : Text :=
  i.settings.getD (Settings.usualPath home)

/-- The files that a run reads. -/
def paths (i : Invocation) (home : Text) : List Text :=
  i.settingsPath home :: match i.input with
    | some (.file path) => [path]
    | _ => []

/-- The settings of a run; the number of cycles can be set on the command line. -/
def runSettings (i : Invocation) (home : Text) (files : Text → FileContent) :
    Except RunFault Settings :=
  match Settings.load? (files (i.settingsPath home)) with
  | none => .error (.settings (i.settingsPath home))
  | some s => .ok { s with cycles := (i.cycles.map (max · 1)).getD s.cycles }

/-- The source of the pattern. -/
def source (i : Invocation) (files : Text → FileContent) : Except RunFault (Option Source) :=
  match i.input with
  | none => .ok none
  | some (.code text) => .ok (some (.code text))
  | some (.link location) =>
    match Source.ofLink? location with
    | some source => .ok (some source)
    | none => .error (.noPattern location)
  | some (.payload payload) => .ok (some (.hash payload none))
  | some (.shareId id) => .ok (some (.shareId id))
  | some (.file path) =>
    match (files path).text? with
    | some text => .ok (some (.code text))
    | none => .error (.unreadableCode path)

/-- What a run shows. The settings are read before the pattern. -/
def report (i : Invocation) (home : Text) (files : Text → FileContent) :
    Except RunFault Report := do
  let settings ← i.runSettings home files
  let source ← i.source files
  return i.view.report settings.mapper (Score.ofSource settings.options source)

/-- The answer of a run. -/
def answer (i : Invocation) (home : Text) (files : Text → FileContent) : Answer :=
  match i.report home files with
  | .ok report => .result report.render
  | .error fault => .failure fault.message

end Invocation

/-- The wording of a misuse. -/
def Misuse.message : Misuse → String
  | unknownArgument argument => "unexpected argument '" ++ String.ofList argument ++ "' found"
  | missingValue argument => "a value is required for '" ++ String.ofList argument ++ "'"
  | badValue value => "invalid value '" ++ String.ofList value ++ "'"
  | needlessValue argument => "unexpected value in '" ++ String.ofList argument ++ "'"
  | repeatedOption argument =>
    "the argument '" ++ String.ofList argument ++ "' cannot be used multiple times"
  | severalPatterns => "only one pattern can be given"

namespace CommandLine

/-- The name and version of the program. -/
def version : String :=
  "strudelcraft 0.1.0\n"

/-- How the program is used. -/
def usage : String :=
  "Usage: strudelcraft [OPTIONS] [events | voxels [--dedupe] | blocks | summary]\n\n" ++
  "Options:\n" ++
  "      --code <CODE>          Inline pattern code\n" ++
  "      --url <URL>            Page link that carries the pattern\n" ++
  "      --hash <HASH>          Payload of a share link\n" ++
  "      --share-id <SHARE_ID>  Share name\n" ++
  "  -f, --file <FILE>          File that holds pattern code\n" ++
  "  -c, --cycles <CYCLES>      Number of cycles\n" ++
  "      --config <CONFIG>      Settings file\n" ++
  "  -h, --help                 Print help\n" ++
  "  -V, --version              Print version\n"

/-- The answer where there is nothing to run. -/
def stopped : Stop → Answer
  | .help => .result usage
  | .version => .result version
  | .misuse cause => .misuse cause.message

/-- The answer to arguments, given a home directory and the contents of files. -/
def answer (home : Text) (files : Text → FileContent) (arguments : List Text) : Answer :=
  match Invocation.parse arguments with
  | .ok invocation => invocation.answer home files
  | .error stop => stopped stop

end CommandLine

end VoxelScore
