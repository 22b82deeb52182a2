import LatexTree.Command.Run

/-! The command line. -/
namespace LatexTree

def Invocation.paths (invocation : Invocation) : List String :=
  let config := (invocation.config.map fun name => name :: (Layer.extended? name).toList).getD []
  config ++ match invocation.command with
    | .merge parsed source _ _ => [parsed, source]
    | .extensions => []
    | .label messages _ => [messages]

def fileError : IO.Error → FileError
  | .inappropriateType _ code _ => if code = 21 then .isDirectory else .notDirectory
  | .invalidArgument .. => .tooLong
  | _ => .missing

def look (path : String) : IO (String × Except FileError FileEntry) := do
  try return (path, .ok (.ofBytes (← IO.FS.readBinFile path)))
  catch error => match fileError error with
    | .isDirectory => return (path, .ok .directory)
    | error => return (path, .error error)

def binding? (text : List Char) : Option (String × String) :=
  match text.dropWhile (· ≠ '=') with
  | _ :: value => some (String.ofList (text.takeWhile (· ≠ '=')), String.ofList value)
  | [] => none

def environment : IO Environment := do
  try
    let bytes ← IO.FS.readBinFile "/proc/self/environ"
    let text := (String.fromUTF8? bytes).getD ""
    return (splitAt '\x00' text.toList).filterMap binding?
  catch _ => return []

def surroundings (invocation : Invocation) : IO Surroundings := do
  let entries ← invocation.paths.mapM look
  return ⟨fun path => (entries.lookup path).getD (.error .missing), ← environment⟩

def Outcome.report (outcome : Outcome) : IO UInt32 := do
  for line in outcome.log do IO.eprintln line
  IO.print outcome.output
  if let .error failure := outcome.result then
    if !failure.isCrash then IO.eprintln failure.message
  return outcome.exitCode.toUInt32

def usage : String :=
  "\n".intercalate [
    "Usage: latex-ast [--config FILE] [--log-level FILTER] COMMAND",
    "  merge PARSED --source FILE [--format json|outline] [--compact]",
    "  extensions",
    "  post-process MESSAGES [--file-path PATH]",
    ""]

end LatexTree

open LatexTree in
def main (arguments : List String) : IO UInt32 := do
  match Invocation.parse arguments with
  | .error .misuse =>
    IO.eprint usage
    return 2
  | .error .version =>
    IO.print Command.versionText
    return 0
  | .error .help =>
    IO.print usage
    return 0
  | .ok invocation => (invocation.run (← surroundings invocation)).report
