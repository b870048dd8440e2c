import Warden.Log.Level
import Warden.Text.Control
import Warden.Text.Quoted

/-! Entries of the log: where they come from, how weighty they are, a message and named values. -/

namespace Warden.Log

/-- The part of the program that an entry comes from. -/
inductive Topic
  | program
  | container
  | supervisor
  | signals
  | context
  | group
  | startup
  | shutdown
  | client
  | names
  | contracts
  | metrics
  | health
  | chain
deriving Repr, DecidableEq, Inhabited

/-- The name that stands before every topic. -/
def programPath : String := "node_supervisor"

/-- The path that an entry of this part shows. -/
def Topic.path : Topic → String
  | .program => programPath
  | .container => programPath ++ "::lifecycle::container"
  | .supervisor => programPath ++ "::lifecycle::supervisor"
  | .signals => programPath ++ "::lifecycle::signals"
  | .context => programPath ++ "::lifecycle::context"
  | .group => programPath ++ "::lifecycle::group"
  | .startup => programPath ++ "::lifecycle::startup"
  | .shutdown => programPath ++ "::lifecycle::shutdown"
  | .client => programPath ++ "::blockchain::client"
  | .names => programPath ++ "::blockchain::ens"
  | .contracts => programPath ++ "::blockchain::contracts"
  | .metrics => programPath ++ "::observability::metrics"
  | .health => programPath ++ "::services::health"
  | .chain => programPath ++ "::services::chain"

/-- One entry of the log. -/
structure Entry where
  topic : Topic
  severity : Severity
  message : String
  fields : List (String × String) := []
deriving Repr, DecidableEq, Inhabited

/-- Bare words are shown in quotes; only the label of a cause and a name that was looked up are such
words. -/
def Entry.quotes (entry : Entry) (field : String) : Bool :=
  (entry.topic == .context && field == "cause") || (entry.topic == .names && field == "name")

/-- An entry as a line of the log. -/
def Entry.line (entry : Entry) : String :=
  let shown := entry.fields.map fun (name, value) =>
    " " ++ name ++ "=" ++ (if entry.quotes name then Text.quoted value else value)
  entry.severity.name ++ " " ++ entry.topic.path ++ ": " ++ Text.tame entry.message ++
    String.join shown

end Warden.Log
