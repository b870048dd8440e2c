import Warden.Duration
import Warden.Ethereum.Client

/-!
The chain monitor: it makes sure of its chain once, then follows the head until it is cancelled.
-/

namespace Warden.Service

open Ethereum

/-- Where the task stands that asks for the head, server by server. -/
inductive Poller
  | absent
  | idle
  | asking (index : Nat) (server : Net.Url) (rest : List Net.Url)
  | ended
  | panicked (message : String)

/-- Whether nothing is left to be done by the task. -/
def Poller.isOver : Poller → Bool
  | .absent | .ended | .panicked _ => true
  | .idle | .asking _ _ _ => false

/-- How the task comes out for those who wait for it. -/
def Poller.result : Poller → Except String Unit
  | .panicked message => .error message
  | .absent | .idle | .asking _ _ _ | .ended => .ok ()

/-- A monitor of one chain; it is cancelled with its run or by its own stop. The poller is kept
until a stop takes it and waits for it to end. -/
structure ChainMonitor where
  client : Client
  cancelled : Bool := false
  poller : Poller := .absent
  kept : Bool := false
  joining : Bool := false

namespace ChainMonitor

/-- The name under which the monitor is supervised. -/
def name : String := "chain-monitor"

/-- What the log shows when the servers follow the right chain. -/
def connected (config : Config.Chain) : Log.Entry :=
  ⟨.chain, .info, "Connected to chain",
    [("chain_id", toString config.chainId), ("rpc_url", config.rpcUrl)]⟩

/-- The message of a ticker that is given no time between its ticks. -/
def noPeriod : String := "`period` must be non-zero."

/-- The time between the ticks of the poller; without any, its ticker panics. -/
def ticker (monitor : ChainMonitor) : Except String Duration :=
  let period := Duration.ofMillis monitor.client.config.pollIntervalMs.toNat
  if period.nanos = 0 then .error noPeriod else .ok period

/-- The poller as it begins with a ticker, which is also its end if the ticker panics. -/
def newPoller : Except String Duration → Poller
  | .ok _ => .idle
  | .error message => .panicked message

/-- Starts to follow the head; without a server of the right chain nothing begins. -/
def start (monitor : ChainMonitor) (network : Network) :
    Asking (Except ChainError Unit × ChainMonitor) := do
  match ← monitor.client.verify network with
  | .error e => return (.error e, monitor)
  | .ok () =>
    note (connected monitor.client.config)
    return (.ok (), { monitor with poller := newPoller monitor.ticker, kept := true })

/-- The run ends; a question in flight is not interrupted. -/
def cancel (monitor : ChainMonitor) : ChainMonitor :=
  { monitor with cancelled := true }

/-- A poll begins when its time has come and none is in flight. -/
def tick (monitor : ChainMonitor) : ChainMonitor :=
  match monitor.poller with
  -- A poll begins with the primary server, whichever server answered the last one.
  | .idle => { monitor with poller := .asking 0 monitor.client.primary monitor.client.failovers }
  | _ => monitor

/-- Shows and logs how a poll came out. -/
def report : Except ChainError Nat → Asking Unit
  | .ok block => do
    gauge (.head block)
    gauge (.health true)
    note ⟨.chain, .debug, "chain head", [("block", toString block)]⟩
  | .error e => do
    gauge (.health false)
    note ⟨.chain, .warn, "Error polling chain head", [("error", e.message)]⟩

/-- The reply of the server that is being asked ends the poll, or the next server is asked. -/
def reply (monitor : ChainMonitor) (network : Network) : Asking ChainMonitor := do
  match monitor.poller with
  | .asking index server rest =>
    match ← Client.tryServer network monitor.client.timeout .blockNumber Client.blockNumberWording
        index server, rest with
    | some block, _ =>
      report (.ok block)
      return { monitor with poller := .idle }
    | none, [] =>
      report (.error (.rpc Client.blockNumberWording.exhausted))
      return { monitor with poller := .idle }
    -- A cancellation is not looked at before the poll is over.
    | none, next :: rest => return { monitor with poller := .asking (index + 1) next rest }
  | _ => return monitor

/-- The poller ends when it sees the cancellation between two polls. -/
def seeCancel (monitor : ChainMonitor) : ChainMonitor :=
  match monitor.poller with
  | .idle => if monitor.cancelled then { monitor with poller := .ended } else monitor
  | _ => monitor

/-- Takes replies until the poll in flight is over; `count` bounds the servers that are left. -/
def finishPoll (network : Network) : Nat → ChainMonitor → Asking ChainMonitor
  | 0, monitor => return monitor
  | count + 1, monitor => do
    match monitor.poller with
    | .asking _ _ _ => finishPoll network count (← monitor.reply network)
    | _ => return monitor

/-- A stop takes the poller, and waits for it from then on. -/
def take (monitor : ChainMonitor) : ChainMonitor :=
  { monitor with kept := false, joining := true }

/-- A stop waits no longer, and gives up the poller. -/
def release (monitor : ChainMonitor) : ChainMonitor :=
  { monitor with joining := false }

/-- Stops: no new poll begins, and the one in flight is waited for, unless the poller has been taken
or never was. -/
def stop (monitor : ChainMonitor) (network : Network) :
    Asking (Except String Unit × ChainMonitor) := do
  let monitor := monitor.cancel
  -- A second stop finds no poller, and returns at once.
  if monitor.kept then
    let monitor := (← finishPoll network monitor.client.providers.length monitor.take).seeCancel
    return (monitor.poller.result, monitor.release)
  else return (.ok (), monitor)

end ChainMonitor

end Warden.Service
