import WebhookSync.Program

/-!
# The command

The outer layer: it collects what stands around a run, leads the dialogue with the server and shows
the outcome.  It has no way into a network, so every request ends without a connection, and no
libraries for further formats of files.
-/

namespace WebhookSync

/-- The variables of a block of bytes: names, signs of equality and values, each entry closed by a
zero. -/
def variablesOfBlock (block : List UInt8) : Settings.Environment :=
  ((Text.splitOn '\x00' (Text.ofBody block).toList).filter (· ≠ [])).map fun entry =>
    (String.ofList (entry.takeWhile (· != '=')),
      String.ofList ((entry.dropWhile (· != '=')).drop 1))

/-- The text of a file, if there is one. -/
def textOfFile? (path : String) : IO (Option String) := do
  try
    return some (← IO.FS.readFile path)
  catch _ =>
    return none

/-- The files among which one with settings is looked for. -/
def settingsFiles (path : String) : IO (List Settings.SourceFile) := do
  let endings := Settings.FileFormat.all.flatMap Settings.FileFormat.endings
  (path :: endings.map fun ending => path ++ "." ++ ending).filterMapM fun path => do
    return (← textOfFile? path).map fun text => ⟨Settings.plainName path, text⟩

/-- What stands around a run with these words. -/
def surroundings (words : List String) : IO Program.Surroundings := do
  let block ← try IO.FS.readBinFile "/proc/self/environ" catch _ => pure ByteArray.empty
  let around : Program.Surroundings :=
    { environment := variablesOfBlock block.toList
      variableFile := ← textOfFile? ".env"
      files := []
      onTerminal := ← (← IO.getStdout).isTty }
  match CommandLine.Invocation.ofWords words around.allVariables with
  | .ok invocation => return { around with files := ← settingsFiles invocation.config }
  | .error _ => return around

/-- The answer to every request where there is no network. -/
def unreachable (request : Http.Request) (_ : Unit) : Http.Answer request × Unit :=
  (.error (.unreachable (Server.Client.shownUrl request.url)), ())

end WebhookSync

def main (words : List String) : IO UInt32 := do
  let around ← WebhookSync.surroundings words
  let (outcome, _) := (WebhookSync.Program.run words around).run WebhookSync.unreachable ()
  (← IO.getStdout).putStr outcome.stdout
  (← IO.getStderr).putStr outcome.stderr
  return outcome.exitCode
