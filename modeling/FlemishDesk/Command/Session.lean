import FlemishDesk.Announcement.Dialect
import FlemishDesk.Announcement.Links
import FlemishDesk.Command.Request
import FlemishDesk.Companion.Client
import FlemishDesk.Report.Display
import FlemishDesk.Settings.EnvironmentFile
import FlemishDesk.Snippet.Interpreter
import FlemishDesk.Watch.Watcher

/-!
# Running a request

A session is one run of the program on a host: it starts with the variables of the
host and of the files of variables in the working directory, reads the request, and
ends with a code and with what was printed.
-/

namespace FlemishDesk
namespace Command

/-- The host that the program runs on. -/
structure Host (σ : Type) where
  /-- The variables that are set. -/
  environment : Settings.EnvironmentFile.Environment
  /-- Where relative paths start. -/
  workingDirectory : Storage.Location
  /-- What can be read from the standard input. -/
  input : List UInt8
  /-- The output goes to a terminal. -/
  isTerminal : Bool
  /-- The process and the time. -/
  stamp : Watch.Stamp
  /-- How other servers are called. -/
  network : Http.Network σ
  /-- Calls take time. -/
  networkWaits : Bool
  /-- How often the watcher looks for releases before it is stopped. -/
  rounds : Nat
  /-- How other programs are started. -/
  launch : Snippet.Launcher
  /-- Serve at an address; if that fails, say why. -/
  listen : String -> Nat -> Except String Unit

/-- What changes in a session: the disk, and what lies outside of the host. -/
structure Scene (σ : Type) where
  /-- The disk. -/
  disk : Storage.Disk
  /-- The state of the network. -/
  outside : σ

/-- How a session ends. -/
structure Ending (σ : Type) where
  /-- The code, unless the program was killed. -/
  code : Option Nat
  /-- What was printed. -/
  output : String
  /-- What was printed to the error output. -/
  errors : String
  /-- What has changed. -/
  scene : Scene σ

section Session

variable {σ : Type}

/-- The session ends well. -/
def Scene.print (scene : Scene σ) (output : String) : Ending σ :=
  ⟨some 0, output, "", scene⟩

/-- The session ends with a code and prints nothing. -/
def Scene.quit (scene : Scene σ) (code : Nat) : Ending σ :=
  ⟨some code, "", "", scene⟩

/-- The session ends with a complaint. -/
def Scene.complain (scene : Scene σ) (complaint : Complaint) : Ending σ :=
  ⟨some 1, "", "Error: " ++ complaint.text ++ "\n", scene⟩

/-- The program waits for an answer that never comes, until it is killed. -/
def Scene.hang (scene : Scene σ) : Ending σ :=
  ⟨none, "", "", scene⟩

/-- The session ends like another one, with something printed before it. -/
def Ending.after (ending : Ending σ) (output : String) : Ending σ :=
  { ending with output := output ++ ending.output }

/-- The files of variables in the order in which they are read. -/
def variableFiles : List String := [".env.local", ".env"]

/-- The variables of the host and of the files, if all of them can be set. -/
def Host.allVariables? (host : Host σ) (disk : Storage.Disk) :
    Option Settings.EnvironmentFile.Environment :=
  variableFiles.foldlM
    (fun environment name =>
      match disk.read host.workingDirectory (.ofText name) with
      | .ok content => Settings.EnvironmentFile.load? environment content
      | .error _ => some environment)
    host.environment

/-- A variable that switches something on, unless it is zero. -/
def switch? (lookup : Settings.Lookup) (name : String) : Option Bool :=
  (lookup name).map (· != "0")

/-- Colours are shown on a terminal, unless variables say otherwise. -/
def showsColours (lookup : Settings.Lookup) (isTerminal : Bool) : Bool :=
  if switch? lookup "CLICOLOR_FORCE" == some true then true
  else if (lookup "NO_COLOR").isSome then false
  else isTerminal && (switch? lookup "CLICOLOR").getD true

/-- The directory for the data of the user. -/
def dataDirectory (lookup : Settings.Lookup) : Storage.Path :=
  match ((lookup "XDG_DATA_HOME").map Storage.Path.ofText).filter
    Storage.Path.isAbsolute with
  | some path => path
  | none =>
      match (lookup "HOME").filter fun path => !path.isEmpty with
      | some home => (Storage.Path.ofText home).below (.ofText ".local/share")
      | none => [Storage.dot]

/-- The directory for temporary files. -/
def temporaryDirectory (lookup : Settings.Lookup) : Storage.Path :=
  .ofText ((lookup "TMPDIR").getD "/tmp")

/-! ## The chat -/

/-- The warning about a model that a hosted server cannot reach. -/
def loopbackWarning (colours : Bool) : String :=
  Report.paint colours .yellow "Warning:" ++
    " OLLAMA_BASE_URL points at localhost in a hosted deployment; chat will answer offline.\n"

/-- Serve the chat. -/
def serve (host : Host σ) (colours : Bool) (settings : Settings) (address : Option String)
    (port : Option Nat) (scene : Scene σ) : Ending σ :=
  let warning :=
    if Companion.isLoopbackInHosted settings.model then loopbackWarning colours else ""
  let ending :=
    match host.listen (address.getD settings.server.host)
      (port.getD settings.server.port) with
    | .ok _ => scene.print ""
    | .error reason => scene.complain (.plain reason)
  ending.after warning

/-- Chat once. -/
def chat (host : Host σ) (colours : Bool) (settings : Settings) (text : String)
    (scene : Scene σ) : Ending σ :=
  let model := Companion.asModel host.network settings.model
  let (outcome, outside) :=
    Chat.converse model settings.server.limits.maxInputChars [⟨.user, text⟩] scene.outside
  let code := if outcome == .offline then 2 else 0
  ⟨some code, Report.chatOutcome colours outcome, "", { scene with outside }⟩

/-! ## The announcer -/

/-- The watcher of a session. -/
def watchSetup (host : Host σ) (settings : Settings.Bot) : Watch.Setup σ :=
  let target : Watch.Target :=
    ⟨settings.owner, settings.repository, settings.includePrereleases,
      settings.announceOnStart⟩
  { target
    store := ⟨settings.statePath, settings.channelId, settings.mentionEveryone,
      host.workingDirectory⟩
    stamp := host.stamp
    ports := .over host.network host.networkWaits
      (.make Release.Feed.publicUrl settings.listingToken)
      (.make Announcement.Channel.publicUrl settings.channelToken settings.channelId)
        target }

/-- What has changed in a world. -/
def sceneOf (world : Watch.World σ) : Scene σ :=
  ⟨world.disk, world.outside⟩

/-- Start the watcher and use it. -/
def withWatcher (setup : Watch.Setup σ) (scene : Scene σ)
    (use : Watch.World σ -> Ending σ) : Ending σ :=
  match Watch.start setup scene.disk scene.outside with
  | (.ok world, _) => use world
  | (.error error, disk) => { scene with disk }.complain error.complaint

/-- Print how a check ended. -/
def checkEnding (colours : Bool) (scene : Scene σ) :
    Option (Except Watch.CheckError Watch.CheckOutcome) -> Ending σ
  | none => scene.hang
  | some (.error (.feed .silent)) => scene.hang
  | some (.error error) => scene.complain error.complaint
  | some (.ok .busy) => scene.print "Er loopt al een check.\n"
  | some (.ok .noRelease) => scene.print "Geen release gevonden.\n"
  | some (.ok (.initialized id)) =>
      scene.print ("Eerste run: release " ++ id.shown ++ " onthouden zonder te posten.\n")
  | some (.ok (.upToDate id)) =>
      scene.print ("Release " ++ id.shown ++ " is al aangekondigd.\n")
  | some (.ok (.posted id)) =>
      scene.print (Report.paint colours .bold ("Release " ++ id.shown ++ " gepost.") ++
        "\n")
  | some (.ok (.postFailed id)) =>
      scene.complain
        (.plain ("Posten van release " ++ id.shown ++ " naar Discord is mislukt."))

/-- Show the announcement of the latest release. -/
def showLatest (setup : Watch.Setup σ) (colours : Bool) (scene : Scene σ) : Ending σ :=
  let (result, outside) := setup.ports.fetch scene.outside
  let scene := { scene with outside }
  match result with
  | .error .silent => scene.hang
  | .error error => scene.complain ⟨error.message, error.causes⟩
  | .ok releases =>
      match setup.store.load setup.stamp scene.disk with
      | (.error error, disk) => { scene with disk }.complain error.complaint
      | (.ok memory, disk) =>
          let scene := { scene with disk }
          match Release.latest? setup.target.includePrereleases releases with
          | none => scene.print "Geen release gevonden.\n"
          | some release =>
              scene.print (Report.release colours release
                (Announcement.ofRelease release memory.mentionEveryone))

/-- Show the settings of the announcer and what it remembers. -/
def showSettings (setup : Watch.Setup σ) (colours : Bool) (settings : Settings.Bot)
    (scene : Scene σ) : Ending σ :=
  match setup.store.load setup.stamp scene.disk with
  | (.error error, disk) => { scene with disk }.complain error.complaint
  | (.ok memory, disk) =>
      { scene with disk }.print (Report.announcer colours settings memory)

/-- Switch the mention of everyone. -/
def toggleEveryone (setup : Watch.Setup σ) (colours : Bool) (scene : Scene σ) :
    Ending σ :=
  withWatcher setup scene fun world =>
    match Watch.toggle setup world with
    | (none, world) => (sceneOf world).hang
    | (some (.error error), world) => (sceneOf world).complain error.complaint
    | (some (.ok enabled), world) =>
        let word := if enabled then Report.paint colours .green "AAN"
          else Report.paint colours .red "UIT"
        (sceneOf world).print ("mentionEveryone is nu " ++ word ++ ".\n")

/-- Announce a text by hand. -/
def announce (setup : Watch.Setup σ) (colours : Bool) (text : String) (scene : Scene σ) :
    Ending σ :=
  withWatcher setup scene fun world =>
    match Watch.announce setup text world with
    | (none, world) => (sceneOf world).hang
    | (some (.error complaint), world) => (sceneOf world).complain complaint
    | (some (.ok _), world) =>
        (sceneOf world).print (Report.paint colours .bold "Aankondiging gepost." ++ "\n")

/-- Do something that needs the key for the channel. -/
def withChannel (settings : Settings) (scene : Scene σ) (use : Ending σ) : Ending σ :=
  match settings.channelComplaint? with
  | some message => scene.complain (.plain message)
  | none => use

/-- Do what the announcer is asked to do. -/
def bot (host : Host σ) (colours : Bool) (settings : Settings) (scene : Scene σ) :
    BotAction -> Ending σ
  | .links full =>
      scene.print ((if full then Announcement.linksMessage else Announcement.linksList) ++
        "\n")
  | .dialect text => scene.print (Announcement.inDialect text ++ "\n")
  | .showSettings =>
      showSettings (watchSetup host settings.bot) colours settings.bot scene
  | .latest => showLatest (watchSetup host settings.bot) colours scene
  | .toggleEveryone => toggleEveryone (watchSetup host settings.bot) colours scene
  | .announce text =>
      withChannel settings scene
        (announce (watchSetup host settings.bot) colours text scene)
  | .check force =>
      let setup := watchSetup host settings.bot
      withChannel settings scene (withWatcher setup scene fun world =>
        let (result, world) := Watch.check setup force world
        checkEnding colours (sceneOf world) result)
  | .watch =>
      let setup := watchSetup host settings.bot
      withChannel settings scene (withWatcher setup scene fun world =>
        (sceneOf (Watch.poll setup host.rounds world)).print "")

/-! ## The interpreter -/

/-- The complaint about a standard input that is no text. -/
def unreadableInput : Complaint :=
  ⟨"Failed to read snippet from stdin", ["stream did not contain valid UTF-8"]⟩

/-- Echo what the interpreter wrote and take over its code. -/
def childEnding (colours : Bool) (task : Task) (child : Snippet.Child) (scene : Scene σ) :
    Ending σ :=
  let errors := Snippet.echo child.errors
  if child.isSuccess then
    ⟨some 0, Snippet.echo child.output, errors, scene⟩
  else
    let code := child.code.elim "unknown" Number.natText
    ⟨some (child.code.getD 1), Snippet.echo child.output,
      errors ++ Report.paint colours .red "Error:" ++ " plats " ++ task.word ++
        " failed (exit code " ++ code ++ ")\n", scene⟩

/-- Run the snippet on the standard input. -/
def runSnippet (host : Host σ) (lookup : Settings.Lookup) (path : String)
    (disk : Storage.Disk) : Except Complaint Snippet.Child × Storage.Disk :=
  match Text.Utf8.text? host.input with
  | none => (.error unreadableInput, disk)
  | some snippet =>
      if Text.blank snippet then (.error (.plain "No plats code on stdin."), disk)
      else
        let temporary :=
          Snippet.temporaryPath (temporaryDirectory lookup) host.stamp.process
          host.stamp.milliseconds
        Snippet.runSnippet host.launch path host.workingDirectory temporary snippet disk

/-- Do what the interpreter is asked to do. -/
def interpret (host : Host σ) (lookup : Settings.Lookup) (colours : Bool) (path : String)
    (task : Task) (arguments : List String) (scene : Scene σ) : Ending σ :=
  let (result, disk) :=
    if task == .snippet then runSnippet host lookup path scene.disk
    else
      (Snippet.runInterpreter host.launch path (task.word :: arguments) scene.disk,
        scene.disk)
  let scene := { scene with disk }
  match result with
  | .error complaint => scene.complain complaint
  | .ok child => childEnding colours task child scene

/-! ## The whole program -/

/-- The name and the version of the program. -/
def versionLine : String := "vlaamscodex 0.1.0\n"

/-- The code of a program that gives up in the middle. -/
def brokenCode : Nat := 101

/-- Do what is asked for with settings. -/
def perform (host : Host σ) (lookup : Settings.Lookup) (settings : Settings)
    (scene : Scene σ)
    (request : Request) : Ending σ :=
  let colours := showsColours lookup host.isTerminal
  match request with
  | .serve address port => serve host colours settings address port scene
  | .chat text => chat host colours settings text scene
  | .classify text =>
      scene.print
        (Report.classification colours text settings.server.limits.maxInputChars)
  | .bot action => bot host colours settings scene action
  | .interpreter task arguments =>
      interpret host lookup colours settings.interpreter task arguments scene

/-- Run the program with arguments and with the variables that are set. -/
def runWith (host : Host σ) (lookup : Settings.Lookup) (arguments : List String)
    (scene : Scene σ) : Ending σ :=
  match Request.read arguments with
  | .error .help => scene.quit 0
  | .error .version => scene.print versionLine
  | .error .invalid => scene.quit 2
  | .ok request =>
      match Settings.load lookup (dataDirectory lookup) with
      | .error .timeoutTooLong => scene.quit brokenCode
      | .error error => scene.complain (.plain error.message)
      | .ok settings => perform host lookup settings scene request

/-- Run the program with arguments. -/
def run (host : Host σ) (arguments : List String) (scene : Scene σ) : Ending σ :=
  match host.allVariables? scene.disk with
  | none => scene.quit brokenCode
  | some environment => runWith host environment.find arguments scene

end Session

end Command
end FlemishDesk
