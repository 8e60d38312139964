import BlockCustody.Config.Settings
import BlockCustody.Exchange.Contract
import BlockCustody.Snapshot.Envelope

/-!
Contract: the contracts with all peers.

Owns:
- opening a contract on the first interaction that needs one;
- operations on the contract of one peer, and what is seen of unknown peers;
- snapshots of all contracts.

Does not own: the rules of a single contract.
-/

namespace BlockCustody

/-- Contracts by peer, and what new ones start with. -/
structure ExchangeBook where
  contracts : KeyedMap PeerId ExchangeContract
  settings : ExchangeSettings
deriving DecidableEq

namespace ExchangeBook

def empty (settings : ExchangeSettings) : ExchangeBook :=
  { contracts := KeyedMap.empty, settings }

def freshContract (book : ExchangeBook) : ExchangeContract :=
  ExchangeContract.fresh book.settings.mySlackBase book.settings.peerSlackBase

/-- The contract with a peer; peers never dealt with are seen with a fresh one. -/
def contract (book : ExchangeBook) (peer : PeerId) : ExchangeContract :=
  (book.contracts.find? peer).getD book.freshContract

def setContract (book : ExchangeBook) (peer : PeerId) (contract : ExchangeContract) :
    ExchangeBook :=
  { book with contracts := book.contracts.insert peer contract }

/-- Admits a block on a side of a peer's contract. The contract is opened even
when the block is refused. -/
def add (book : ExchangeBook) (peer : PeerId) (side : Side) (block : BlockId) :
    Except SpaceExhausted Unit × ExchangeBook :=
  let contract := book.contract peer
  match contract.add side block with
  | .ok contract => (.ok (), book.setContract peer contract)
  | .error fault => (.error fault, book.setContract peer contract)

/-- Takes a block off a side. Unknown peers stay unknown. -/
def remove (book : ExchangeBook) (peer : PeerId) (side : Side) (block : BlockId) :
    ExchangeBook :=
  match book.contracts.find? peer with
  | none => book
  | some contract => book.setContract peer (contract.remove side block)

def setSlackBases (book : ExchangeBook) (peer : PeerId) (mySlackBase peerSlackBase : UInt64) :
    ExchangeBook :=
  book.setContract peer
    (((book.contract peer).setSlackBase .mine mySlackBase).setSlackBase .theirs peerSlackBase)

def availableSpace (book : ExchangeBook) (peer : PeerId) (side : Side) : UInt64 :=
  (book.contract peer).availableSpace side

def peers (book : ExchangeBook) : List PeerId :=
  book.contracts.keys

/-- The peers that would take another block. -/
def peersWithSpace (book : ExchangeBook) : List PeerId :=
  (book.contracts.filter fun _ contract => 0 < contract.availableSpace .theirs).keys

/-! ## Snapshots -/

open Snapshot

def writeContract (contract : ExchangeContract) : Bytes :=
  writeSet writeId contract.mine ++ writeSet writeId contract.theirs ++
    writeNumber contract.mySlackBase.toNat ++ writeNumber contract.peerSlackBase.toNat

def readContract : Reader ExchangeContract := do
  let mine ← Reader.set Reader.id
  let theirs ← Reader.set Reader.id
  let mySlackBase ← Reader.number
  let peerSlackBase ← Reader.number
  let contract : ExchangeContract :=
    { mine
      theirs
      mySlackBase := mySlackBase.toUInt64
      peerSlackBase := peerSlackBase.toUInt64 }
  return contract

def toSnapshot (book : ExchangeBook) : Except WriteFault Bytes :=
  write (writeMap writePeer writeContract book.contracts)

/-- The book in a snapshot, with settings for peers that are not in it. -/
def ofSnapshot (settings : ExchangeSettings) (bytes : Bytes) : Except ReadFault ExchangeBook :=
  match read (Reader.map Reader.peer readContract) bytes with
  | .error fault => .error fault
  | .ok contracts => .ok { contracts, settings }

end ExchangeBook

end BlockCustody
