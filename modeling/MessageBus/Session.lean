import MessageBus.Config.Load
import MessageBus.Exchange.Scenario
import MessageBus.Log.Layout
import MessageBus.Log.Section

namespace MessageBus

inductive Outlet
  | stdout
  | stderr
  | file (place : Place)
  deriving DecidableEq, Inhabited

/-- A running program as its logging is concerned: its disk, what it wrote to its standard streams,
the subscriber that was installed for all of it, and the sink in use. -/
structure Session where
  disk : Disk := {}
  stdout : String := ""
  stderr : String := ""
  installed : Option (Log.Subscriber × Outlet) := none
  sink : Log.Sink := {}

namespace Log

/-- What stands for the day or hour at which a log file is begun. -/
def Rotation.mark : Rotation → String
  | daily => "<day>"
  | hourly => "<hour>"
  | never => ""

/-- The name of a log file: its parts that are not empty, divided by points. -/
def Settings.fileName (s : Settings) : String :=
  ".".intercalate ([s.filePrefix, s.rotation.mark, "log"].filter (· ≠ ""))

def Settings.filePath (s : Settings) (directory : String) : String :=
  if directory = "" then s.fileName
  else if directory.toList.getLast? = some '/' then directory ++ s.fileName
  else directory ++ "/" ++ s.fileName

end Log

namespace Session

open Log (Failure Settings Subscriber)

/-- Opens a log file, making the directories it is in when it cannot be opened at once. -/
def openLogFile (d : Disk) (path : String) : Disk × Except Failure Outlet :=
  match d.openFile path with
  | .ok (d, place) => (d, .ok (.file place))
  | .error _ =>
    match d.ensureDirectory (Disk.parent path) with
    | (d, .error e) => (d, .error (.init ("failed to create log directory: " ++ e.message)))
    | (d, .ok ()) =>
      match d.openFile path with
      | .ok (d, place) => (d, .ok (.file place))
      | .error e => (d, .error (.init ("failed to create log file: " ++ e.message)))

/-- Prepares the outlet that some settings ask for; what was made on the disk by then stays. -/
def prepareOutlet (s : Settings) (d : Disk) : Disk × Except Failure Outlet :=
  match s.target with
  | .stdout => (d, .ok .stdout)
  | .stderr => (d, .ok .stderr)
  | .file directory =>
    match d.ensureDirectory directory with
    | (d, .error e) => (d, .error (.directory directory e.message))
    | (d, .ok ()) => openLogFile d (s.filePath directory)

/-- Installs a subscriber for the whole program, which can be done once. -/
def install (p : Session) (subscriber : Subscriber) (outlet : Outlet) :
    Session × Except Failure Unit :=
  match p.installed with
  | some _ => (p, .error (.init "a global default trace dispatcher has already been set"))
  | none => ({ p with installed := some (subscriber, outlet) }, .ok ())

/-- Sets up logging. The outlet is prepared before the filter is looked at. -/
def setUp (p : Session) (s : Settings) : Session × Except Failure Unit :=
  let (disk, outlet) := prepareOutlet s p.disk
  let p := { p with disk }
  match outlet with
  | .error e => (p, .error e)
  | .ok outlet =>
    match s.subscriber with
    | .error e => (p, .error e)
    | .ok subscriber => p.install subscriber outlet

/-- Sets up logging as one section of a configuration says, and takes the sink of the other one. -/
def initialise (p : Session) (c : Config) : Session × Except Failure Log.Sink :=
  match Settings.ofSection c.logging with
  | .error e => (p, .error e)
  | .ok settings =>
    match p.setUp settings with
    | (p, .error e) => (p, .error e)
    | (p, .ok ()) =>
      match Log.Sink.ofSection c.sinks with
      | .error e => (p, .error e)
      | .ok sink => ({ p with sink }, .ok sink)

def write (p : Session) (text : String) : Outlet → Session
  | .stdout => { p with stdout := p.stdout ++ text }
  | .stderr => { p with stderr := p.stderr ++ text }
  | .file place => { p with disk := p.disk.append place text }

/-- Notes events: those that pass the installed subscriber are written. -/
def note (p : Session) (events : List Log.Event) : Session :=
  match p.installed with
  | none => p
  | some (subscriber, outlet) => p.write (subscriber.text events) outlet

/-- Plays steps while the installed subscriber listens, and writes what it lets through. -/
def play (p : Session) (w : Exchange) (steps : List Step) : Session × List Scene :=
  let (w, scenes) := (w.heardBy (p.installed.map (·.1))).play steps
  match p.installed with
  | none => (p, scenes)
  | some (_, outlet) => (p.write w.book.text outlet, scenes)

/-- Publishes a message on a new bus with the sink in use, and tells whether that went well. -/
def publish (p : Session) (m : Message) : Session × Bool :=
  let label := "bus"
  let (p, scenes) := p.play {} [.openBus label (.logging (.ok p.sink)), .publish label m 1]
  let well := scenes.all fun scene =>
    match scene.reply with
    | .ok .done => true
    | _ => false
  (p, well)

end Session

end MessageBus
