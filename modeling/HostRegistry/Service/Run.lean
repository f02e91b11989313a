import HostRegistry.CommandLine
import HostRegistry.Log.Filter
import HostRegistry.Service.Report
import HostRegistry.Service.Startup
import HostRegistry.Settings.Layers

/-!
# A run of the service

From its arguments to the signal that ends it: the service reads its settings, opens the registry,
listens, and closes the repository when it is told to stop. Each stage may fail and so end the run.
-/

namespace HostRegistry

/-- What a program finds around it. -/
structure Surroundings where
  files : FileTree
  environment : Environment
  network : Network

namespace Run

inductive Failure
  | usage
  | settings (cause : SettingsError)
  | repository (cause : RepositoryError)
  | bind (cause : BindError)
deriving DecidableEq, Repr

/-- How a run ends. -/
inductive Outcome
  | served
  | helped
  | failed (failure : Failure)
deriving DecidableEq, Repr

def Outcome.exitCode : Outcome → Nat
  | .served | .helped => 0
  | .failed .usage => 2
  | .failed _ => 1

structure Result where
  outcome : Outcome
  lines : List Log.Line
  files : FileTree

def grammar : CommandLine.Grammar where
  options := [{ long := "config", short := some 'c', emptyAllowed := false }]

/-- The path of the settings file that the arguments name, if they do. -/
def configPath (args : List String) : Except CommandLine.Stop (Option String) := do
  pure ((← CommandLine.parse grammar args).get? "config")

/-- Which lines are written: as the environment says, or else up to the level of the settings. -/
def filter (environment : Environment) (s : Settings) : Log.Filter :=
  ((environment "RUST_LOG").bind Log.Filter.ofText?).getD (.ofLevel s.report.logLevel)

/-- Starts the metrics endpoint if it is enabled. That it cannot listen ends nothing. -/
def startMetrics (s : ReportSettings) (n : Network) : List Log.Line × Network :=
  match s.metricsEnabled, SocketAddress.ofText? s.metricsAddress with
  | true, some address =>
    match n.bind address with
    | .ok (_, n) => ([Report.metricsStarted address], n)
    | .error e => ([Report.metricsFailed address e], n)
  | _, _ => ([], n)

/-- Where the interface listens. -/
def listen (s : ListenerSettings) (n : Network) : Except BindError SocketAddress :=
  match SocketAddress.ofText? s.bindAddress with
  | none => .error .addressNotAvailable
  | some address => (n.bind address).map (·.1)

/-- The repository at the start of a run. -/
def freshStore (s : RepositorySettings) (files : FileTree) : Store Unit :=
  ⟨.new s, files, FileTree.soundDevice, []⟩

/-- From the open registry to the end. -/
def serve (s : Settings) (n : Network) (st : Store Unit) : Outcome × List Log.Line × Store Unit :=
  match listen s.listener n with
  | .error e => (.failed (.bind e), [Report.ready s.repository], st.close)
  | .ok address =>
    (.served, [Report.ready s.repository, Report.listening address] ++ Report.ending, st.close)

/-- What is reported of the events between two states of a store. -/
def since (before after : Store Unit) : List Log.Line :=
  Report.ofEvents (after.journal.drop before.journal.length)

/-- A run with settings in effect: its outcome and everything that is reported. -/
def withSettings (around : Surroundings) (s : Settings) : Outcome × List Log.Line × FileTree :=
  let (metricsLines, network) := startMetrics s.report around.network
  let start := [Report.starting, Report.configured s] ++ metricsLines
  let fresh := freshStore s.repository around.files
  match openRegistry fresh () () with
  | (.error e, st) =>
    (.failed (.repository e), start ++ since fresh st, st.files)
  | (.ok _, st) =>
    let (outcome, lines, closed) := serve s network st
    let last := if outcome = .served then [Report.ended] else []
    (outcome, start ++ since fresh st ++ lines ++ since st closed ++ last, closed.files)

def run (around : Surroundings) (args : List String) : Result :=
  match configPath args with
  | .error .usage => ⟨.failed .usage, [], around.files⟩
  | .error .help => ⟨.helped, [], around.files⟩
  | .ok path =>
    match Settings.effective around.files path around.environment with
    | .error e => ⟨.failed (.settings e), [], around.files⟩
    | .ok s =>
      let (outcome, lines, files) := withSettings around s
      ⟨outcome, lines.filter (filter around.environment s).lets, files⟩

end Run

end HostRegistry
