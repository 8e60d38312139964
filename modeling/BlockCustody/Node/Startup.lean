import BlockCustody.Config.Settings
import BlockCustody.Exchange.Book
import BlockCustody.Ledger.Snapshot
import BlockCustody.Replication.Tracker
import BlockCustody.Shards.Store
import BlockCustody.Text.Escape

/-!
Contract: the start of a node from what it saved.

Owns:
- restoring each component from its own file, or starting it afresh;
- the log of what was found, and the report of where backups stand.

Does not own: reading files, and printing the log.
-/

namespace BlockCustody

inductive LogLevel where
  | info
  | warn
deriving DecidableEq, Repr

def LogLevel.name : LogLevel → String
  | .info => "INFO"
  | .warn => "WARN"

structure LogLine where
  level : LogLevel
  text : String
deriving DecidableEq, Repr

/-- The bytes of the files a node saved, except those that are missing. -/
structure SavedFiles where
  ledger : Option Bytes
  replication : Option Bytes
  exchange : Option Bytes
deriving DecidableEq, Repr

/-- The components of a running node. -/
structure Node where
  ledger : Ledger
  tracker : ReplicationTracker
  exchange : ExchangeBook

/-! ## Where files are -/

/-- A file in a directory. -/
def fileIn (directory name : String) : String :=
  if directory.isEmpty || directory.endsWith "/" then directory ++ name
  else directory ++ "/" ++ name

def ledgerFile : String := "ledger.bin"

def replicationFile : String := "replication.bin"

def exchangeFile : String := "exchange.bin"

/-! ## Restoring -/

/-- What became of a file that may hold a saved component. -/
inductive Restored (component : Type) where
  | missing
  | discarded (reason : String)
  | complete (value : component)

namespace Restored

variable {component fault : Type}

/-- Judges a file by a component's reader. -/
def ofFile (read : Bytes → Except fault component) (message : fault → String) :
    Option Bytes → Restored component
  | none => .missing
  | some bytes =>
      match read bytes with
      | .ok value => .complete value
      | .error fault => .discarded (message fault)

/-- The restored component, or a fresh one. -/
def orFresh (fresh : component) : Restored component → component
  | .complete value => value
  | _ => fresh

/-- What is logged about a file. -/
def log (path : String) : Restored component → List LogLine
  | .missing =>
      [{ level := .info
         text := "No snapshot at " ++ Text.Escape.quoted path ++ ", starting empty" }]
  | .discarded reason =>
      [{ level := .warn
         text := "Discarding snapshot " ++ Text.Escape.quoted path ++ ": " ++ reason }]
  | .complete _ => []

/-- What is logged about the file of the tracker, which may be missing silently. -/
def replicationLog : Restored component → List LogLine
  | .discarded reason =>
      [{ level := .warn, text := "Discarding replication snapshot: " ++ reason }]
  | _ => []

end Restored

namespace Node

def restoredLedger (settings : ProofSettings) (salts : SaltStream) (files : SavedFiles) :
    Restored Ledger :=
  .ofFile (Ledger.ofSnapshot settings salts) Ledger.RestoreFault.message files.ledger

def restoredTracker (targets : ReplicaTargets) (files : SavedFiles) :
    Restored ReplicationTracker :=
  .ofFile (ReplicationTracker.ofSnapshot targets) ReplicationTracker.RestoreFault.message
    files.replication

def restoredExchange (settings : ExchangeSettings) (files : SavedFiles) :
    Restored ExchangeBook :=
  .ofFile (ExchangeBook.ofSnapshot settings)
    (fun fault => Snapshot.malformed fault.message) files.exchange

/-- The tracker from its file. Only when that fails are the targets judged anew. -/
def startTracker (targets : ReplicaTargets) (files : SavedFiles) :
    Except TrackerFault ReplicationTracker :=
  match restoredTracker targets files with
  | .complete tracker => .ok tracker
  | _ => ReplicationTracker.start targets

/-- Every component from its own file, whatever the other files hold. -/
def start (settings : Settings) (salts : SaltStream) (files : SavedFiles) :
    Except TrackerFault Node :=
  match startTracker settings.replication files with
  | .error fault => .error fault
  | .ok tracker =>
      .ok
        { ledger := (restoredLedger settings.proof salts files).orFresh
            (Ledger.empty settings.proof salts)
          tracker
          exchange := (restoredExchange settings.exchange files).orFresh
            (ExchangeBook.empty settings.exchange) }

/-! ## The log -/

/-- What is logged while components are restored. -/
def startLog (settings : Settings) (directory : String) (salts : SaltStream)
    (files : SavedFiles) : List LogLine :=
  [{ level := .info, text := "Using data directory " ++ Text.Escape.quoted directory }] ++
    (restoredLedger settings.proof salts files).log (fileIn directory ledgerFile) ++
    (restoredTracker settings.replication files).replicationLog ++
    (restoredExchange settings.exchange files).log (fileIn directory exchangeFile)

def shardReport (store : ShardStore) : String :=
  "Shards stored locally: " ++ toString store.shardCount ++ " (" ++
    toString store.totalSize ++ " bytes)"

def trackerReport (tracker : ReplicationTracker) : String :=
  "Shards tracked: " ++ toString tracker.size ++ " (needing peers: " ++
    toString tracker.needingPeers.length ++ ", partially deployed: " ++
    toString tracker.partiallyDeployed.length ++ ", fully deployed: " ++
    toString tracker.fullyDeployed.length ++ ")"

def ledgerReport (ledger : Ledger) : String :=
  "Blocks under audit: " ++ toString ledger.size

def peerReport (peer : PeerId) (contract : ExchangeContract) : String :=
  "Peer " ++ peer.toText ++ ": storing " ++ toString contract.mine.size ++ " for them, " ++
    toString contract.theirs.size ++ " with them, room mine=" ++
    toString (contract.availableSpace .mine) ++ " theirs=" ++
    toString (contract.availableSpace .theirs)

/-- Where backups stand: shards, replicas, audits, and the contract with every peer. -/
def report (node : Node) (store : ShardStore) : List LogLine :=
  ([shardReport store, trackerReport node.tracker, ledgerReport node.ledger] ++
    node.exchange.peers.map fun peer => peerReport peer (node.exchange.contract peer)).map
    fun text => { level := .info, text }

end Node

end BlockCustody
