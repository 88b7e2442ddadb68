import StylePrune.Page.Source
import StylePrune.Run.Workspace

/-!
A run: the page is loaded, its stylesheets are purged, and the result is written.
-/
namespace StylePrune.Run

open Resolution (World)

/-- What a run comes to. -/
structure Result where
  /-- The files after the run. -/
  files : Files.Tree
  calls : List Fetch.Call
  outcome : Except Failure (Purged × Workspace)

/-- A step of a run that writes: the files after it, and the failure if there is one. -/
def written (r : Files.Tree × Option Text) : Files.Tree × Option Failure := (r.1, r.2.map .writeFailed)

/-- Purges a page that was loaded, and writes the result into the directory of the run. -/
def purgeInto (w : World) (ws : Workspace) (markup : Text) (isSplit : Bool) (calls : List Fetch.Call)
    (t : Files.Tree) : Result :=
  let (urls, outcome) := purgePage { w with files := t } markup isSplit
  let calls := calls ++ urls.map (Fetch.Call.mk .stylesheet)
  match outcome with
  | .error f => ⟨t, calls, .error f⟩
  | .ok p =>
    match written (Workspace.saveAll (ws.resultFiles p) t) with
    | (t', some f) => ⟨t', calls, .error f⟩
    | (t', none) => ⟨t', calls, .ok (p, ws)⟩

/-- Loads a page, purges it and writes the result; the run has the given identifier. -/
def run (w : World) (source : Page.Source) (isSplit : Bool) (runId : Text) : Result :=
  let calls := source.requests
  match source.load w.config.timeout w.files w.network with
  | .error f => ⟨w.files, calls, .error f⟩
  | .ok markup =>
    let ws := Workspace.below w.config.outputDir runId
    match written (ws.create w.files) with
    | (t, some f) => ⟨t, calls, .error f⟩
    | (t, none) =>
      match written (t.save ws.pagePath markup) with
      | (t', some f) => ⟨t', calls, .error f⟩
      | (t', none) => purgeInto w ws markup isSplit calls t'

end StylePrune.Run
