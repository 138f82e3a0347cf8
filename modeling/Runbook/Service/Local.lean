import Runbook.Remote.Client
import Runbook.Store.Directory

/-!
# Local services

Services for runs at the terminal: a store of files in a folder, workflows in
the folder of the workflow that is run, and the network.
-/

namespace Runbook

/-- What the services of a local run work with. -/
structure LocalServices where
  store : DirectoryStore
  /-- Where a language model is asked. -/
  endpoint : Option ModelEndpoint
  /-- The folder that references of workflows start from. -/
  workflowFolder : String
  /-- Whether contents that are replaced are kept. -/
  keepsHistory : Bool
deriving DecidableEq, Inhabited

namespace LocalServices

def settings (services : LocalServices) : ServiceSettings :=
  ⟨services.keepsHistory, false⟩

def ofStore {α : Type} (stored : DirectoryStore.Stored α) :
    Hosted (Except Failure α) := do
  match ← stored.run with
  | .ok value => return .ok value
  | .error error => return .error error.failure

def loadWorkflow (services : LocalServices) (reference : String) :
    Hosted (Except Failure String) := do
  let path := Path.join services.workflowFolder reference
  match ← Hosted.loadText path with
  | .ok source => return .ok source
  | .error error =>
    return .error ((Failure.of error.message).within
      ("Failed to read workflow file: " ++ path))

def perform (services : LocalServices) :
    (call : ServiceCall) → Hosted (Except Failure call.Result)
  | .getFile id _ => ofStore (services.store.read id)
  | .findFile path => ofStore (services.store.find path)
  | .searchFiles query => ofStore (services.store.search query)
  | .listFiles listing => ofStore (services.store.list listing)
  | .listFolders folder => ofStore (services.store.folders folder)
  | .createFile write => ofStore (services.store.write write.path write)
  | .updateFile id write => ofStore (services.store.write id write)
  | .loadWorkflow reference => services.loadWorkflow reference
  | .generate request => (Remote.generate services.endpoint request).run
  | .httpRequest request => (Remote.send request).run
  | .callTool call => (Remote.callTool call).run
  | .syncIndex _ =>
    return .error
      (.of "retrieval sync is not supported by this service context")

end LocalServices

end Runbook
