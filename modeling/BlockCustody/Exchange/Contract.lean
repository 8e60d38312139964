import BlockCustody.Collections.KeyedMap

/-!
Contract: the balance of storage given to and received from one peer.

Owns:
- the blocks on either side and how far each side may run ahead of the other;
- admission of a block, and the refusal when there is no room;
- the room that is advertised.

Does not own: which peer the contract is with.
-/

namespace BlockCustody

/-- The two halves of a contract. -/
inductive Side where
  /-- Blocks stored here for the peer. -/
  | mine
  /-- Blocks the peer stores for this node. -/
  | theirs
deriving DecidableEq, Repr

namespace Side

def other : Side → Side
  | .mine => .theirs
  | .theirs => .mine

def name : Side → String
  | .mine => "mine"
  | .theirs => "theirs"

end Side

/-- A block was refused because a side has no room for it. -/
structure SpaceExhausted where
  block : BlockId
  side : Side
  headroom : Int
deriving DecidableEq

def SpaceExhausted.message (fault : SpaceExhausted) : String :=
  "No space on " ++ fault.side.name ++ " side for block " ++ fault.block.toHex ++
    " (headroom " ++ toString fault.headroom ++ ")"

/-- The blocks of both sides and the slack each side starts with. -/
structure ExchangeContract where
  mine : KeySet BlockId
  theirs : KeySet BlockId
  mySlackBase : UInt64
  peerSlackBase : UInt64
deriving DecidableEq

namespace ExchangeContract

def fresh (mySlackBase peerSlackBase : UInt64) : ExchangeContract :=
  { mine := KeyedMap.empty
    theirs := KeyedMap.empty
    mySlackBase
    peerSlackBase }

def held (contract : ExchangeContract) : Side → KeySet BlockId
  | .mine => contract.mine
  | .theirs => contract.theirs

def slackBase (contract : ExchangeContract) : Side → UInt64
  | .mine => contract.mySlackBase
  | .theirs => contract.peerSlackBase

def setHeld (contract : ExchangeContract) (side : Side) (blocks : KeySet BlockId) :
    ExchangeContract :=
  match side with
  | .mine => { contract with mine := blocks }
  | .theirs => { contract with theirs := blocks }

def setSlackBase (contract : ExchangeContract) (side : Side) (base : UInt64) :
    ExchangeContract :=
  match side with
  | .mine => { contract with mySlackBase := base }
  | .theirs => { contract with peerSlackBase := base }

/-- Slack earned by both sides: one for every ten blocks of the smaller one. -/
def earnedSlack (contract : ExchangeContract) : Nat :=
  min contract.mine.size contract.theirs.size / 10

/-- Room for further blocks on a side; negative when the side is too far ahead. -/
def headroom (contract : ExchangeContract) (side : Side) : Int :=
  (contract.held side.other).size - (contract.held side).size +
    ((contract.slackBase side).toNat + contract.earnedSlack : Nat)

/-- Headroom as a count of blocks, no less than none and no more than 64 bits hold. -/
def clampSpace (headroom : Int) : UInt64 :=
  if headroom < 0 then 0
  else if headroom < 0x10000000000000000 then headroom.toNat.toUInt64
  else 0xFFFFFFFFFFFFFFFF

/-- Headroom in a refusal; what 64 bits with a sign do not hold becomes the least
number they do. -/
def reportedHeadroom (headroom : Int) : Int :=
  if -0x8000000000000000 ≤ headroom ∧ headroom < 0x8000000000000000 then headroom
  else -0x8000000000000000

/-- How many further blocks a side advertises room for. -/
def availableSpace (contract : ExchangeContract) (side : Side) : UInt64 :=
  clampSpace (contract.headroom side)

/-- Admits a block on a side. A block that is already there is admitted again
whatever the room; a new one needs headroom of at least one. -/
def add (contract : ExchangeContract) (side : Side) (block : BlockId) :
    Except SpaceExhausted ExchangeContract :=
  if (contract.held side).contains block then .ok contract
  else if contract.headroom side < 1 then
    .error { block, side, headroom := reportedHeadroom (contract.headroom side) }
  else .ok (contract.setHeld side (KeySet.add (contract.held side) block))

def remove (contract : ExchangeContract) (side : Side) (block : BlockId) : ExchangeContract :=
  contract.setHeld side ((contract.held side).erase block)

end ExchangeContract

end BlockCustody
