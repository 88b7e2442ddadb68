import StylePrune.CommandLine.Arguments
import StylePrune.Config.Load
import StylePrune.Run.Basic

/-!
The program: what it answers to its arguments.
-/
namespace StylePrune.CommandLine

open Resolution (World)

/-- What the program leaves behind. -/
structure Answer where
  exitCode : Nat
  output : Text
  errors : Text
  files : Files.Tree

/-- The text that names the program and its version. -/
def versionText : Text := "css-purge 0.1.0\n".toList

/-- The text that explains the arguments. -/
def helpText : Text :=
  ("Purge unused CSS from a page's stylesheets\n\nUsage: css-purge [OPTIONS] <TARGET>\n\n" ++
    "Arguments:\n  <TARGET>  Page URL (http/https) or path to a local HTML file\n\nOptions:\n" ++
    "      --split          Split the result into one file per media query\n" ++
    "      --config <FILE>  JSON configuration file\n" ++
    "      --out <DIR>      Output directory, overriding the configured one\n" ++
    "      --stdout         Also print the purged CSS to stdout\n" ++
    "  -h, --help           Print help\n  -V, --version        Print version\n").toList

/-- The configuration that options ask for. -/
def configFor (files : Files.Tree) (o : Options) : Except Failure Config :=
  let loaded := match o.config with
    | some path => (Config.ofFile files path).mapError Config.Fault.failure
    | none => .ok .usual
  loaded.map fun c => match o.out with
    | some dir => c.withOutputDir dir
    | none => c

/-- The paths of the files that are read for arguments: the configuration, the page and, as soon as the
configuration can be read, the files that it has in place of stylesheets. -/
def pathsFor (files : Files.Tree) (args : List Text) : List Text :=
  match readArguments args with
  | .ok (.purge target o) =>
    let overrides := match configFor files o with
      | .ok c => c.overrides.map Override.path
      | .error _ => []
    o.config.toList ++ target :: overrides
  | _ => []

/-- A text as a line. -/
def line (s : Text) : Text := s ++ ['\n']

/-- What is said about stylesheets that were left out. -/
def skippedLines (p : Run.Purged) : Text :=
  p.report.skipped.flatMap fun s => line ("skipped ".toList ++ s.url ++ ": ".toList ++ s.cause)

/-- Where the result is. -/
def placeLines (p : Run.Purged) (w : Run.Workspace) : Text :=
  match p.groups with
  | some groups => line w.splitDir ++ groups.flatMap fun g => line ([' ', ' '] ++ g.key ++ ".css".toList)
  | none => line w.root

/-- The answer to a run. -/
def answerOf (o : Options) (r : Run.Result) : Answer :=
  match r.outcome with
  | .ok (p, w) =>
    ⟨0, placeLines p w ++ (if o.prints then line p.css else []), skippedLines p, r.files⟩
  | .error f => ⟨1, [], line f.userMessage, r.files⟩

/-- Purges the page that the options name. -/
def purge (files : Files.Tree) (network : Fetch.Network) (runId target : Text) (o : Options) : Answer :=
  match configFor files o with
  | .error f => ⟨1, [], line f.userMessage, files⟩
  | .ok c => answerOf o (Run.run ⟨c, files, network⟩ (.ofTarget target) o.isSplit runId)

/-- What the program answers to its arguments. -/
def answer (files : Files.Tree) (network : Fetch.Network) (runId : Text) (args : List Text) : Answer :=
  match readArguments args with
  | .error f => ⟨2, [], f.message, files⟩
  | .ok .help => ⟨0, helpText, [], files⟩
  | .ok .version => ⟨0, versionText, [], files⟩
  | .ok (.purge target o) => purge files network runId target o

end StylePrune.CommandLine
