import Warden.Config.Encode
import Warden.Main
import Warden.Proofs.Config.Decoding
import Warden.Proofs.Config.Findings
import Warden.Proofs.Container.Allowances
import Warden.Proofs.Container.Serving
import Warden.Proofs.Ethereum.Naming
import Warden.Proofs.Ethereum.Resolving
import Warden.Proofs.Ethereum.Settling
import Warden.Proofs.Log.Levels
import Warden.Proofs.Service.Sources
import Warden.Proofs.Supervision.Answering
import Warden.Proofs.Supervision.Blame
import Warden.Proofs.Supervision.Conservation
import Warden.Proofs.Supervision.Escalating
import Warden.Proofs.Supervision.Feeding
import Warden.Proofs.Supervision.FirstError
import Warden.Proofs.Supervision.Gathering
import Warden.Proofs.Supervision.Hearing
import Warden.Proofs.Supervision.Holders
import Warden.Proofs.Supervision.Isolation
import Warden.Proofs.Supervision.Laws
import Warden.Proofs.Supervision.Line
import Warden.Proofs.Supervision.Reading
import Warden.Proofs.Supervision.Schedule
import Warden.Proofs.Supervision.SignalLaw
import Warden.Proofs.Supervision.StopSequence
import Warden.Proofs.Supervision.Timings
import Warden.Scenario.Chain
import Warden.Scenario.Container
import Warden.Scenario.Contexts
import Warden.Scenario.Contracts
import Warden.Scenario.Files
import Warden.Scenario.Health
import Warden.Scenario.Monitor
import Warden.Scenario.Names
import Warden.Scenario.Signals
import Warden.Scenario.Stack
import Warden.Scenario.Supervise
