import FlemishDesk.Command.Session

/-!
# The command line

The program reads the variables, the files of variables, the file that keeps the
memory, and the standard input, runs one session, and then prints what the session
printed and saves what it saved.  It makes no calls of its own: a session sees a host
whose link is down, on which no other program can be started and no address can be
taken.
-/

namespace FlemishDesk
namespace Command

/-- The variables that a session looks at. -/
def variableNames : List String :=
  ["VLAAMSCODEX_AI_HOST", "VLAAMSCODEX_AI_PORT", "VLAAMSCODEX_WEB_ROOT",
   "VLAAMSCODEX_STATE_PATH", "MAX_INPUT_CHARS", "AI_MAX_INPUT_CHARS",
   "RATE_LIMIT_PER_MINUTE", "AI_RATE_LIMIT_PER_MINUTE", "OLLAMA_BASE_URL", "OLLAMA_MODEL",
   "OLLAMA_TIMEOUT_S", "VERCEL", "GITHUB_OWNER", "GITHUB_REPO", "GITHUB_TOKEN",
   "POLL_INTERVAL_MS", "INCLUDE_PRERELEASES", "ANNOUNCE_ON_START", "MENTION_EVERYONE",
   "DISCORD_TOKEN", "CHANGELOG_CHANNEL_ID", "PLATS_PATH", "CLICOLOR_FORCE", "NO_COLOR",
   "CLICOLOR", "XDG_DATA_HOME", "HOME", "TMPDIR"]

/-- A host whose link is down. -/
def isolated (environment : Settings.EnvironmentFile.Environment)
    (workingDirectory : Storage.Location) (input : List UInt8) (isTerminal : Bool)
    (milliseconds : Nat) : Host Unit where
  environment := environment
  workingDirectory := workingDirectory
  input := input
  isTerminal := isTerminal
  stamp := ⟨0, milliseconds⟩
  network := Http.linkDown fun _ => true
  networkWaits := false
  rounds := 1
  launch := fun _ _ _ => .error .missing
  listen := fun _ _ => .error "Cannot assign requested address (os error 99)"

/-- The path of the file that keeps the memory, if there are settings. -/
def memoryFile? (host : Host Unit) (disk : Storage.Disk) : Option Storage.Path := do
  let environment <- host.allVariables? disk
  let settings <-
    (Settings.load environment.find (dataDirectory environment.find)).toOption
  return settings.bot.statePath

/-- The path of the directory that a path lies in. -/
def parentPath (path : Storage.Path) : Storage.Path :=
  match path.parent? with
  | some (byte :: rest) => byte :: rest
  | _ => [Storage.dot]

/-- Put a file of the real disk onto a disk, if it can be read. -/
def copyIn (working : Storage.Location) (disk : Storage.Disk) (path : Storage.Path) :
    IO Storage.Disk := do
  try
    let content <- IO.FS.readBinFile path.shown
    let (_, disk) := disk.createDirectories working (parentPath path)
    return (disk.write working path content.data.toList).toOption.getD disk
  catch _ =>
    return disk

/-- Write a file of a disk to the real disk, if it has changed. -/
def copyOut (working : Storage.Location) (before after : Storage.Disk)
    (path : Storage.Path) :
    IO Unit := do
  match after.read working path with
  | .error _ => return
  | .ok content =>
      if (before.read working path).toOption == some content then return
      IO.FS.createDirAll (parentPath path).shown
      IO.FS.writeBinFile path.shown ⟨content.toArray⟩

/-- Everything that can be read from the standard input. -/
partial def readInput (stream : IO.FS.Stream) (soFar : List UInt8) : IO (List UInt8) := do
  let part <- stream.read 65536
  if part.isEmpty then return soFar else readInput stream (soFar ++ part.data.toList)

end Command
end FlemishDesk

open FlemishDesk Command in
/-- Run one session. -/
def main (arguments : List String) : IO UInt32 := do
  let mut environment : Settings.EnvironmentFile.Environment := []
  for name in variableNames do
    if let some value := <- IO.getEnv name then
      environment := (name, value) :: environment
  let currentPath := Storage.Path.ofText (<- IO.currentDir).toString
  let workingDirectory := currentPath.names
  let input <- if arguments.take 2 == ["plats", "snippet"] then
      readInput (<- IO.getStdin) []
    else pure []
  let output <- IO.getStdout
  let host :=
    isolated environment workingDirectory input (<- output.isTty) (<- IO.monoMsNow)
  let mut disk := (Storage.Disk.createDirectories [] [] currentPath).2
  for name in variableFiles do
    disk <- copyIn workingDirectory disk (.ofText name)
  let file := memoryFile? host disk
  if let some path := file then
    disk <- copyIn workingDirectory disk path
  let ending := run host arguments ⟨disk, ()⟩
  if let some path := file then
    copyOut workingDirectory disk ending.scene.disk path
  output.putStr ending.output
  (<- IO.getStderr).putStr ending.errors
  return (ending.code.getD 130).toUInt32
