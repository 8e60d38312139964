import BlockCustody.Node.Startup
import BlockCustody.Proofs.Config.Overlay
import BlockCustody.Proofs.Node.SnapshotEnds
import BlockCustody.Proofs.Replication.Deployment
import BlockCustody.Proofs.Replication.Snapshot

/-!
Contract: a node starts, whatever became of the files it saved.

Owns:
- that accepted settings have targets a tracker starts with;
- each component as what its own file is read as, or a fresh one;
- files that count for nothing, and the counts that are reported after the start.

Does not own: which bytes are read as a component, and reading files.
-/

namespace BlockCustody

namespace Settings

/-- Settings a node is given: the default ones, those a text describes, or those in a file. -/
inductive Accepted : Settings → Prop where
  | default : Accepted Settings.default
  | described {text : String} {settings : Settings} (isRead : ofText text = .ok settings) :
      Accepted settings
  | loaded {file : Option Bytes} {settings : Settings} (isRead : ofFile file = .ok settings) :
      Accepted settings

variable {settings : Settings}

theorem exists_ofText_of_ofFile {file : Option Bytes} (isRead : ofFile file = .ok settings) :
    ∃ text, ofText text = .ok settings := by
  unfold ofFile at isRead
  split at isRead
  · cases isRead
  · split at isRead
    · cases isRead
    · next text _ => exact ⟨text, isRead⟩

theorem Accepted.monotone (accepted : settings.Accepted) : settings.replication.Monotone := by
  cases accepted with
  | default => decide
  | described isRead => exact monotone_of_ofText isRead
  | loaded isRead =>
      obtain ⟨text, isReadAsText⟩ := exists_ofText_of_ofFile isRead
      exact monotone_of_ofText isReadAsText

end Settings

namespace Restored

variable {component fault : Type} {read : Bytes → Except fault component}
  {file : Option Bytes} {fresh value other : component}

/-- The file is there and is read as the value. -/
def Decodes (read : Bytes → Except fault component) (file : Option Bytes) (value : component) :
    Prop :=
  ∃ bytes, file = some bytes ∧ read bytes = .ok value

/-- The value is what the file is read as, and the fresh one where it is read as nothing. -/
def ComesFrom (read : Bytes → Except fault component) (fresh : component) (file : Option Bytes)
    (value : component) : Prop :=
  Decodes read file value ∨ (∀ other, ¬ Decodes read file other) ∧ value = fresh

theorem orFresh_comesFrom (read : Bytes → Except fault component) (message : fault → String)
    (fresh : component) (file : Option Bytes) :
    ComesFrom read fresh file ((ofFile read message file).orFresh fresh) := by
  cases file with
  | none =>
      refine Or.inr ⟨?_, rfl⟩
      rintro other ⟨bytes, isThere, _⟩
      cases isThere
  | some bytes =>
      simp only [ofFile]
      cases isRead : read bytes with
      | ok value => exact Or.inl ⟨bytes, rfl, isRead⟩
      | error reason =>
          refine Or.inr ⟨?_, rfl⟩
          rintro other ⟨same, isThere, accepted⟩
          cases isThere
          rw [isRead] at accepted
          cases accepted

theorem ComesFrom.unique (comes : ComesFrom read fresh file value)
    (otherComes : ComesFrom read fresh file other) : value = other := by
  rcases comes with decodes | ⟨nothing, rfl⟩
  · rcases otherComes with ⟨bytes, isThere, isRead⟩ | ⟨nothing, _⟩
    · obtain ⟨same, isThereToo, isReadToo⟩ := decodes
      rw [isThere, Option.some.injEq] at isThereToo
      rw [← isThereToo, isRead, Except.ok.injEq] at isReadToo
      exact isReadToo.symm
    · exact absurd decodes (nothing value)
  · rcases otherComes with decodes | ⟨_, rfl⟩
    · exact absurd decodes (nothing other)
    · rfl

end Restored

/-! ## Files that count for nothing -/

namespace Snapshot

variable {component fault : Type} {decode : Bytes → Except fault component}
  {report : FormatFault → fault} {bytes : Bytes}

/-- The bytes are an accepted snapshot that lost its end, one with more behind it, or begin as
no snapshot of this version does. -/
def Spoiled (decode : Bytes → Except fault component) (bytes : Bytes) : Prop :=
  (∃ lost whole, lost ≠ [] ∧ decode (bytes ++ lost) = .ok whole) ∨
    (∃ front more whole, bytes = front ++ more ∧ more ≠ [] ∧ decode front = .ok whole) ∨
    bytes.take 4 ≠ [1, 0, 0, 0]

theorem EndsExactly.refuses_spoiled (ends : EndsExactly decode report)
    (refusesOtherVersion : ∀ bytes, bytes.take 4 ≠ [1, 0, 0, 0] →
      ∃ fault, decode bytes = .error fault)
    (spoiled : Spoiled decode bytes) : ∃ fault, decode bytes = .error fault := by
  rcases spoiled with ⟨lost, whole, someLost, accepted⟩ |
    ⟨front, more, whole, rfl, someMore, accepted⟩ | other
  · obtain ⟨reason, _, refused⟩ := ends.cutOff accepted bytes lost rfl someLost
    exact ⟨_, refused⟩
  · exact ⟨_, ends.goesOn accepted more someMore⟩
  · exact refusesOtherVersion bytes other

end Snapshot

open Snapshot

theorem Ledger.ofSnapshot_of_spoiled {settings : ProofSettings} {salts : SaltStream}
    {bytes : Bytes} (spoiled : Spoiled (ofSnapshot settings salts) bytes) :
    ∃ fault, ofSnapshot settings salts bytes = .error fault := by
  refine (ofSnapshot_endsExactly settings salts).refuses_spoiled ?_ spoiled
  intro bytes other
  obtain ⟨fault, refused⟩ :=
    read_refuses_other_version (Reader.map Reader.id readRecord) other
  exact ⟨_, by rw [ofSnapshot, refused]⟩

theorem ReplicationTracker.ofSnapshot_of_spoiled {targets : ReplicaTargets} {bytes : Bytes}
    (spoiled : Spoiled (ofSnapshot targets) bytes) :
    ∃ fault, ofSnapshot targets bytes = .error fault := by
  refine (ofSnapshot_endsExactly targets).refuses_spoiled ?_ spoiled
  intro bytes other
  obtain ⟨fault, refused⟩ :=
    read_refuses_other_version (Reader.map Reader.id readEntry) other
  exact ⟨_, by rw [ofSnapshot, refused]⟩

theorem ExchangeBook.ofSnapshot_of_spoiled {settings : ExchangeSettings} {bytes : Bytes}
    (spoiled : Spoiled (ofSnapshot settings) bytes) :
    ∃ fault, ofSnapshot settings bytes = .error fault := by
  refine (ofSnapshot_endsExactly settings).refuses_spoiled ?_ spoiled
  intro bytes other
  obtain ⟨fault, refused⟩ :=
    read_refuses_other_version (Reader.map Reader.peer readContract) other
  exact ⟨_, by rw [ofSnapshot, refused]⟩

/-- A file that is missing or whose bytes are refused leaves the fresh component. -/
theorem Restored.ComesFrom.eq_fresh
    {component fault : Type}
    {read : Bytes → Except fault component}
    {fresh value : component}
    {file : Option Bytes}
    (comes : ComesFrom read fresh file value)
    (refused : ∀ bytes, file = some bytes → ∃ fault, read bytes = .error fault) :
    value = fresh := by
  rcases comes with ⟨bytes, isThere, isRead⟩ | ⟨_, isFresh⟩
  · obtain ⟨fault, isRefused⟩ := refused bytes isThere
    rw [isRefused] at isRead
    cases isRead
  · exact isFresh

/-! ## The start -/

namespace Node

/-- Each component comes from its own file, the tracker from a fresh one without shards. -/
structure StartsFrom (settings : Settings) (salts : SaltStream) (files : SavedFiles)
    (node : Node) : Prop where
  ledger : Restored.ComesFrom (Ledger.ofSnapshot settings.proof salts)
    (Ledger.empty settings.proof salts) files.ledger node.ledger
  tracker : ∃ fresh, ReplicationTracker.start settings.replication = .ok fresh ∧ fresh.size = 0 ∧
    Restored.ComesFrom (ReplicationTracker.ofSnapshot settings.replication) fresh
      files.replication node.tracker
  exchange : Restored.ComesFrom (ExchangeBook.ofSnapshot settings.exchange)
    (ExchangeBook.empty settings.exchange) files.exchange node.exchange

variable {settings : Settings} {salts : SaltStream} {files : SavedFiles}

theorem startTracker_eq {targets : ReplicaTargets} {fresh : ReplicationTracker}
    (started : ReplicationTracker.start targets = .ok fresh) (files : SavedFiles) :
    startTracker targets files = .ok ((restoredTracker targets files).orFresh fresh) := by
  unfold startTracker
  rw [started]
  cases restoredTracker targets files <;> rfl

theorem exists_start_eq_ok (monotone : settings.replication.Monotone) (salts : SaltStream)
    (files : SavedFiles) :
    ∃ node, start settings salts files = .ok node ∧ node.StartsFrom settings salts files := by
  have started := ReplicationTracker.start_of_monotone monotone
  refine ⟨_, by rw [start, startTracker_eq started], ?_, ?_, ?_⟩
  · exact Restored.orFresh_comesFrom _ _ _ _
  · exact ⟨_, started, rfl, Restored.orFresh_comesFrom _ _ _ _⟩
  · exact Restored.orFresh_comesFrom _ _ _ _

/-- What a node starts from settles it. -/
theorem StartsFrom.same_components {others : SavedFiles} {node other : Node}
    (starts : node.StartsFrom settings salts files)
    (otherStarts : other.StartsFrom settings salts others) :
    (others.ledger = files.ledger → other.ledger = node.ledger) ∧
      (others.replication = files.replication → other.tracker = node.tracker) ∧
      (others.exchange = files.exchange → other.exchange = node.exchange) := by
  refine ⟨?_, ?_, ?_⟩
  · intro sameFile
    exact (sameFile ▸ otherStarts.ledger).unique starts.ledger
  · intro sameFile
    obtain ⟨fresh, started, _, comes⟩ := starts.tracker
    obtain ⟨otherFresh, otherStarted, _, otherComes⟩ := otherStarts.tracker
    rw [started, Except.ok.injEq] at otherStarted
    exact (sameFile ▸ otherStarted ▸ otherComes).unique comes
  · intro sameFile
    exact (sameFile ▸ otherStarts.exchange).unique starts.exchange

/-- The tracker has the targets of the settings, restored or not. -/
theorem StartsFrom.targets_eq {node : Node} (starts : node.StartsFrom settings salts files) :
    node.tracker.targets = settings.replication := by
  obtain ⟨fresh, started, _, ⟨bytes, _, isRead⟩ | ⟨_, isFresh⟩⟩ := starts.tracker
  · exact ReplicationTracker.targets_of_ofSnapshot isRead
  · rw [isFresh]
    exact ReplicationTracker.targets_of_start started

/-- Under accepted settings a node starts, whatever the three files hold. Each component is what
its own file is read as, and a fresh one under the settings where the file is missing or read
as nothing, such as one that lost its end, goes on behind it or has another version. The other
two files make no difference to it. The targets are never at fault, neither for a fresh
tracker nor for one in a file. Of the shards that are reported as tracked each is needing
peers or fully deployed, and no more are partially deployed than are needing peers. -/
theorem node_starts_whatever_its_files_hold
    {settings : Settings}
    (accepted : settings.Accepted)
    (salts : SaltStream)
    (files : SavedFiles) :
    ∃ node, start settings salts files = .ok node ∧
      node.StartsFrom settings salts files ∧
      ((∀ bytes, files.ledger = some bytes →
          Spoiled (Ledger.ofSnapshot settings.proof salts) bytes) →
        node.ledger = Ledger.empty settings.proof salts) ∧
      ((∀ bytes, files.replication = some bytes →
          Spoiled (ReplicationTracker.ofSnapshot settings.replication) bytes) →
        ReplicationTracker.start settings.replication = .ok node.tracker) ∧
      ((∀ bytes, files.exchange = some bytes →
          Spoiled (ExchangeBook.ofSnapshot settings.exchange) bytes) →
        node.exchange = ExchangeBook.empty settings.exchange) ∧
      (∀ others : SavedFiles, ∃ other, start settings salts others = .ok other ∧
        (others.ledger = files.ledger → other.ledger = node.ledger) ∧
        (others.replication = files.replication → other.tracker = node.tracker) ∧
        (others.exchange = files.exchange → other.exchange = node.exchange)) ∧
      (∀ fault, ReplicationTracker.start settings.replication ≠ .error fault) ∧
      (∀ bytes fault,
        ReplicationTracker.ofSnapshot settings.replication bytes ≠ .error (.targets fault)) ∧
      node.tracker.targets = settings.replication ∧
      (∀ store,
        { level := .info
          text := "Shards tracked: " ++ toString node.tracker.size ++ " (needing peers: " ++
            toString node.tracker.needingPeers.length ++ ", partially deployed: " ++
            toString node.tracker.partiallyDeployed.length ++ ", fully deployed: " ++
            toString node.tracker.fullyDeployed.length ++ ")" } ∈ node.report store) ∧
      node.tracker.size =
        node.tracker.needingPeers.length + node.tracker.fullyDeployed.length ∧
      node.tracker.partiallyDeployed.length ≤ node.tracker.needingPeers.length := by
  have monotone := accepted.monotone
  obtain ⟨node, isStarted, starts⟩ := exists_start_eq_ok monotone salts files
  refine ⟨node, isStarted, starts, ?_, ?_, ?_, ?_, ?_, ?_, starts.targets_eq, ?_,
    node.tracker.size_eq_needing_add_fullyDeployed, node.tracker.length_partiallyDeployed_le⟩
  · intro spoiled
    exact starts.ledger.eq_fresh fun bytes isThere =>
      Ledger.ofSnapshot_of_spoiled (spoiled bytes isThere)
  · intro spoiled
    obtain ⟨fresh, started, _, comes⟩ := starts.tracker
    rw [comes.eq_fresh fun bytes isThere =>
      ReplicationTracker.ofSnapshot_of_spoiled (spoiled bytes isThere)]
    exact started
  · intro spoiled
    exact starts.exchange.eq_fresh fun bytes isThere =>
      ExchangeBook.ofSnapshot_of_spoiled (spoiled bytes isThere)
  · intro others
    obtain ⟨other, isOther, otherStarts⟩ := exists_start_eq_ok monotone salts others
    exact ⟨other, isOther, starts.same_components otherStarts⟩
  · intro fault
    rw [ReplicationTracker.start_of_monotone monotone]
    simp
  · exact ReplicationTracker.ofSnapshot_ne_targets monotone
  · intro store
    exact List.mem_cons_of_mem _ List.mem_cons_self

/-- Settings with a slack base of their own, and the default everywhere else. -/
def threeAheadSettings : String :=
  "\x7b\"exchange\":\x7b\"my_slack_base\":3\x7d\x7d"

/-- A tracker of one critical shard with one holder. -/
def trackerOfOneHolder : Bytes :=
  [1, 0, 0, 0] ++
    writeList (fun shard : ShardId =>
        writeId shard ++ writeChoice 2 ++ writeList writePeer [.ofByte 7])
      [.repeating 5]

/-- The tracker's bytes are also where the ledger's should be, and a book has lost its end. -/
def misplacedFiles : SavedFiles :=
  { ledger := some trackerOfOneHolder
    replication := some trackerOfOneHolder
    exchange := some [1, 0, 0, 0] }

theorem node_starts_from_misplaced_files :
    ∃ settings node,
      Settings.ofText threeAheadSettings = .ok settings ∧
        start settings (SaltStream.ofSeed 3) misplacedFiles = .ok node ∧
        node.ledger = Ledger.empty settings.proof (SaltStream.ofSeed 3) ∧
        ReplicationTracker.ofSnapshot settings.replication trackerOfOneHolder =
          .ok node.tracker ∧
        node.tracker.needingPeers = [.repeating 5] ∧
        node.tracker.size = 1 + node.tracker.fullyDeployed.length ∧
        node.exchange = ExchangeBook.empty { mySlackBase := 3, peerSlackBase := 0 } := by
  let settings : Settings :=
    { Settings.default with exchange := { mySlackBase := 3, peerSlackBase := 0 } }
  have isSettings : Settings.ofText threeAheadSettings = .ok settings := by decide +kernel
  obtain ⟨node, isStarted, starts, _, _, exchangeSpoiled, _, _, _, _, _, counted, _⟩ :=
    node_starts_whatever_its_files_hold (.described isSettings) (SaltStream.ofSeed 3)
      misplacedFiles
  have ledgerRefused :
      (Ledger.ofSnapshot settings.proof (SaltStream.ofSeed 3) trackerOfOneHolder).toBool =
        false := by
    decide +kernel
  have trackerRead :
      (ReplicationTracker.ofSnapshot settings.replication trackerOfOneHolder).toOption.map
          (fun tracker => tracker.needingPeers) =
        some [.repeating 5] := by
    decide +kernel
  have cutOff : Spoiled (ExchangeBook.ofSnapshot settings.exchange) [1, 0, 0, 0] :=
    Or.inl ⟨List.replicate 8 0, ExchangeBook.empty settings.exchange, by decide, by
      decide +kernel⟩
  refine ⟨settings, node, isSettings, isStarted, ?_, ?_⟩
  · apply starts.ledger.eq_fresh
    rintro bytes ⟨⟩
    cases refused : Ledger.ofSnapshot settings.proof (SaltStream.ofSeed 3) trackerOfOneHolder with
    | error fault => exact ⟨fault, rfl⟩
    | ok ledger =>
        rw [refused] at ledgerRefused
        cases ledgerRefused
  · obtain ⟨fresh, _, _, ⟨bytes, ⟨⟩, isRead⟩ | ⟨nothing, _⟩⟩ := starts.tracker
    · rw [isRead, Except.toOption, Option.map_some, Option.some.injEq] at trackerRead
      rw [trackerRead] at counted
      refine ⟨isRead, trackerRead, counted, exchangeSpoiled ?_⟩
      rintro bytes ⟨⟩
      exact cutOff
    · cases isRead : ReplicationTracker.ofSnapshot settings.replication trackerOfOneHolder with
      | error fault =>
          rw [isRead] at trackerRead
          cases trackerRead
      | ok tracker => exact absurd ⟨_, rfl, isRead⟩ (nothing tracker)

end Node

end BlockCustody
