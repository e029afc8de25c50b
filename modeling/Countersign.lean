import Countersign.Constants
import Countersign.Session.Step
import Countersign.Proofs.Action
import Countersign.Proofs.Threads.Sequential
import Countersign.Proofs.Vault.Resolve
import Countersign.Proofs.Threads.Linearization
import Countersign.Proofs.Config.Keys
import Countersign.Proofs.Config.Reliable
import Countersign.Proofs.Threads.LookUps
import Countersign.Proofs.Threads.OneResolver
import Countersign.Proofs.Vault.Recall
import Countersign.Proofs.Client.History
import Countersign.Proofs.Http.Message
import Countersign.Proofs.Transport.Exchange
import Countersign.Proofs.Transport.Confinement
import Countersign.Proofs.Config.Steady
import Countersign.Proofs.Scheme.Dispatch
import Countersign.Proofs.Silence
import Countersign.Proofs.Text.Ascii
import Countersign.Proofs.Transport.Course
import Countersign.Proofs.Client.Preemption
import Countersign.Proofs.Config.Providers
import Countersign.Proofs.Transport.Account
import Countersign.Proofs.Transport.Answering
import Countersign.Proofs.Transport.Closing
import Countersign.Proofs.Client.Uses
import Countersign.Proofs.Threads.SharedCache
import Countersign.Proofs.Transport.Remembering
import Countersign.Proofs.Encoding
import Countersign.Proofs.Challenge
import Countersign.Proofs.Client.Secrecy
import Countersign.Proofs.Config.Alike
import Countersign.Proofs.Config.Isolation
import Countersign.Proofs.Keeping
import Countersign.Proofs.Vault.Sound
import Countersign.Proofs.Transport.Handles
import Countersign.Proofs.Client.Regime
import Countersign.Proofs.Client.Stores
import Countersign.Proofs.Text.Clean
import Countersign.Proofs.Config.Clean
import Countersign.Proofs.Client.Log
import Countersign.Proofs.Config.Inert
import Countersign.Proofs.Vault.Inert
import Countersign.Proofs.Client.Replies
import Countersign.Proofs.Client.Ownership
import Countersign.Proofs.Config.Adoption
import Countersign.Proofs.Config.Loading
import Countersign.Proofs.Config.Precedence
import Countersign.Proofs.Scheme.Course
import Countersign.Proofs.Threads.Alone
import Countersign.Proofs.Vault.BreakingOff
import Countersign.Proofs.Client.Retrying
import Countersign.Proofs.Transport.Conveying
import Countersign.Proofs.Header
import Countersign.Proofs.Config.Naming
import Countersign.Proofs.Vault.Variables
import Countersign.Proofs.Config.Nesting
import Countersign.Proofs.Diagnostics
