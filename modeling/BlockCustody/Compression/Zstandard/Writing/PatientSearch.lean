import BlockCustody.Compression.Zstandard.Writing.Effort
import BlockCustody.Compression.Zstandard.Writing.Matches

/-!
Contract: the search that looks at several candidates per place.

Owns:
- the chains of positions with the same slot;
- the longest match among them;
- waiting for a better match at the next places.

Does not own: how far a match reaches.
-/

namespace BlockCustody.Compression.Zstandard

/-- The last position with each slot, and for every position the one before it
with the same slot, both plus one. `next` is the first position not remembered. -/
structure ChainTable where
  heads : SlotTable
  previous : Array Nat
  next : Nat

namespace ChainTable

def empty (hashedBytes width : Nat) : ChainTable :=
  { heads := SlotTable.empty hashedBytes width, previous := #[], next := 0 }

/-- Remembers a number of further positions. -/
def advance (data : ByteArray) : Nat → ChainTable → ChainTable
  | 0, table => table
  | count + 1, table =>
      let { heads, previous, next } := table
      let slot := heads.slotAt data next
      let last := heads.slots.getD slot 0
      advance data count
        { heads := { heads with slots := heads.slots.setIfInBounds slot (next + 1) }
          previous := previous.push last
          next := next + 1 }

/-- Remembers all positions before the given one. -/
def advanceTo (table : ChainTable) (data : ByteArray) (position : Nat) : ChainTable :=
  advance data (position - table.next) table

end ChainTable

namespace PatientSearch

/-- A match by its length and the value that says how far back it is. -/
structure Choice where
  start : Nat
  length : Nat
  value : Nat

/-- The longest match among the candidates from one on; a nearer one wins over one
that is no longer. Candidates up to `lowest` end the search. The first argument
bounds their number. -/
def longest
    (data : ByteArray)
    (range : SearchRange)
    (lowest : Nat)
    (previous : Array Nat)
    (position : Nat) :
    Nat → Nat → Choice → Choice
  | 0, _, best => best
  | attempts + 1, candidate, best =>
      if candidate ≤ lowest ∨ best.length = range.stop - position then best
      else
        let earlier := candidate - 1
        let length :=
          if byteAt data (earlier + best.length) = byteAt data (position + best.length) then
            agreement data earlier position (range.stop - position) 0
          else 0
        longest data range lowest previous position attempts (previous.getD earlier 0)
          (if best.length < length then
            { start := position, length, value := position - earlier + 3 }
          else best)

/-- Matches of three bytes are not taken. -/
def noMatch (position : Nat) : Choice :=
  { start := position, length := 3, value := 1 }

/-- The longest match at a position. -/
def search
    (patience : Patience)
    (data : ByteArray)
    (range : SearchRange)
    (position : Nat)
    (table : ChainTable) :
    Choice × ChainTable :=
  let table := table.advanceTo data position
  (longest data range (range.lowest + patience.spared) table.previous position patience.attempts
    (table.heads.candidate data position) (noMatch position), table)

/-- How many bytes agree at the recent distance; zero if it is less than four. -/
def recentLength (data : ByteArray) (range : SearchRange) (recent position : Nat) : Nat :=
  if 0 < recent && agreesFor data (position - recent) position 4 then
    agreement data (position - recent) position (range.stop - position - 4) 4
  else 0

/-- The better of a match and what is found some places after it: the recent
distance, weighed by `recentWeight`, or the longest match, if it is worth
`handicap` more. Tells whether the longest match was better. -/
def improve
    (patience : Patience)
    (data : ByteArray)
    (range : SearchRange)
    (recent position recentWeight handicap : Nat)
    (choice : Choice)
    (table : ChainTable) :
    Bool × Choice × ChainTable :=
  let repeated := recentLength data range recent position
  let choice :=
    if 0 < repeated ∧
        recentWeight * choice.length + 1 < recentWeight * repeated + Nat.log2 choice.value then
      { start := position, length := repeated, value := 1 }
    else choice
  let (found, table) := search patience data range position table
  let worth (offered : Choice) : Int := 4 * offered.length - Nat.log2 offered.value
  if 4 ≤ found.length ∧ worth choice + handicap < worth found then (true, found, table)
  else (false, choice, table)

/-- Looks at further places as long as a better match is found, at one or two
places after the last one. The first argument bounds their number. -/
def wait
    (patience : Patience)
    (data : ByteArray)
    (range : SearchRange)
    (recent : Nat) :
    Nat → Nat → Choice → ChainTable → Choice × ChainTable
  | 0, _, choice, table => (choice, table)
  | steps + 1, position, choice, table =>
      if patience.lookAhead = 0 ∨ range.limit ≤ position then (choice, table)
      else
        let (isBetter, choice, table) :=
          improve patience data range recent (position + 1) 3 4 choice table
        if isBetter then
          wait patience data range recent steps (position + 1) choice table
        else if patience.lookAhead = 1 ∨ range.limit ≤ position + 1 then (choice, table)
        else
          let (isBetter, choice, table) :=
            improve patience data range recent (position + 2) 4 7 choice table
          if isBetter then
            wait patience data range recent steps (position + 2) choice table
          else (choice, table)

/-- The first place with a match. Places are passed over faster the more literals
are pending, from `start` on. The first argument bounds the number of places. -/
def findPlace
    (patience : Patience)
    (data : ByteArray)
    (range : SearchRange)
    (start recent : Nat) :
    Nat → Nat → ChainTable → Option Find × ChainTable
  | 0, _, table => (none, table)
  | places + 1, position, table =>
      if range.limit ≤ position then (none, table)
      else
        let repeated := recentLength data range recent (position + 1)
        let toFind (choice : Choice) : Find :=
          { start := choice.start
            distance := if choice.value = 1 then recent else choice.value - 3
            isRecent := choice.value = 1
            known := choice.length
            examined := position }
        let first : Choice := { start := position + 1, length := repeated, value := 1 }
        if patience.lookAhead = 0 ∧ 0 < repeated then (some (toFind first), table)
        else
          let (found, table) := search patience data range position table
          let choice := if repeated < found.length then found else first
          if choice.length < 4 then
            findPlace patience data range start recent places
              (position + (position - start) / 256 + 1) table
          else
            let (choice, table) :=
              wait patience data range recent (range.stop - position) position choice table
            (some (toFind choice), table)

def finder (patience : Patience) : Finder ChainTable :=
  { find := fun data range position start recent table =>
      findPlace patience data range start recent (range.stop - position) position table
    leave := fun _ _ _ table => table
    revisit := fun _ _ table => table }

end PatientSearch

end BlockCustody.Compression.Zstandard
