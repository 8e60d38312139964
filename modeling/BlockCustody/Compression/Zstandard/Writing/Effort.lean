import BlockCustody.Bytes.LittleEndian

/-!
Contract: how hard each level tries.

Owns:
- the ways in which earlier occurrences are searched;
- the parameters of every level.

Does not own: the searches themselves.
-/

namespace BlockCustody.Compression.Zstandard

/-- How long a search looks for a better match: at how many further places, and at
how many candidates for each of them. The last `margin` bytes are not searched.
No candidate is in the first `spared` bytes of the window, and no match goes back
to the first `avoided` of them. -/
structure Patience where
  lookAhead : Nat
  attempts : Nat
  margin : Nat
  spared : Nat
  avoided : Nat
deriving DecidableEq, Repr

/-- A way to search for earlier occurrences. -/
inductive SearchStyle where
  /-- One candidate per place, with a stride between the places looked at. -/
  | stepped (stride : Nat)
  /-- One candidate for a long match and one for a short match at every place. -/
  | double (shortWidth : Nat)
  /-- Several candidates per place, and further places at which a better match may
  start. -/
  | patient (patience : Patience)
deriving DecidableEq, Repr

/-- What a level asks for. `rank` orders the levels into nine groups, each of
which tries harder than the one before it. A match is found by the slot of the
first `hashedBytes` bytes, out of `powerOfTwo slotWidth` slots. -/
structure Effort where
  rank : Nat
  windowWidth : Nat
  style : SearchStyle
  slotWidth : Nat
  hashedBytes : Nat
  codesLiterals : Bool
deriving DecidableEq, Repr

namespace Effort

/-- No level lies above this one, and none below the negative of `leastLevel`. -/
def greatestLevel : Nat := 22

def leastLevel : Nat := 131072

/-- The level that zero stands for. -/
def usualLevel : Nat := 3

/-- Negative levels give up on more the lower they are: places further apart are
looked at, and literals are never coded. -/
def hasty (level : Nat) : Effort :=
  { rank := 1
    windowWidth := 19
    style := .stepped (min level leastLevel + 1)
    slotWidth := 13
    hashedBytes := 6
    codesLiterals := false }

def stepped (windowWidth slotWidth hashedBytes : Nat) : Effort :=
  { rank := 1
    windowWidth
    style := .stepped 2
    slotWidth
    hashedBytes
    codesLiterals := true }

def double (longWidth shortWidth : Nat) : Effort :=
  { rank := 2
    windowWidth := 21
    style := .double shortWidth
    slotWidth := longWidth
    hashedBytes := 5
    codesLiterals := true }

def patient (rank windowWidth hashedBytes : Nat) (patience : Patience) : Effort :=
  { rank
    windowWidth
    style := .patient patience
    slotWidth := 17
    hashedBytes
    codesLiterals := true }

/-- What a level above zero asks for. -/
def ofNumber : Nat → Effort
  | 1 => stepped 19 14 7
  | 2 => stepped 20 16 6
  | 3 => double 17 16
  | 4 => double 18 18
  | 5 => patient 3 21 5 ⟨0, 8, 16, 0, 0⟩
  | 6 => patient 4 21 5 ⟨1, 8, 16, 0, 0⟩
  | 7 => patient 4 21 5 ⟨1, 16, 16, 0, 0⟩
  | 8 => patient 5 21 5 ⟨2, 16, 16, 0, 0⟩
  | 9 => patient 5 22 5 ⟨2, 16, 16, 0, 0⟩
  | 10 => patient 5 22 5 ⟨2, 32, 16, 0, 0⟩
  | 11 => patient 5 22 5 ⟨2, 64, 16, 0, 0⟩
  | 12 => patient 5 22 5 ⟨2, 64, 16, 0, 0⟩
  | 13 => patient 6 22 5 ⟨2, 16, 8, 1, 0⟩
  | 14 => patient 6 22 5 ⟨2, 32, 8, 1, 0⟩
  | 15 => patient 6 22 5 ⟨2, 64, 8, 1, 0⟩
  | 16 => patient 7 22 5 ⟨2, 32, 8, 0, 1⟩
  | 17 => patient 7 23 4 ⟨2, 32, 8, 0, 1⟩
  | 18 => patient 8 23 4 ⟨2, 64, 8, 0, 1⟩
  | 19 => patient 9 23 4 ⟨2, 128, 8, 0, 1⟩
  | 20 => patient 9 25 4 ⟨2, 128, 8, 0, 1⟩
  | 21 => patient 9 26 4 ⟨2, 128, 8, 0, 1⟩
  | _ => patient 9 27 4 ⟨2, 256, 8, 0, 1⟩

def ofLevel (level : Int) : Effort :=
  if level < 0 then hasty level.natAbs
  else if level = 0 then ofNumber usualLevel
  else ofNumber (min level.toNat greatestLevel)

/-- By how many bytes something of the given size has to become shorter to be
kept in its coded form. -/
def leastGain (effort : Effort) (size : Nat) : Nat :=
  (if effort.rank < 8 then size / 64 else size / powerOfTwo (effort.rank - 1)) + 2

/-- Fewer literals than this are not coded. -/
def leastLiterals (effort : Effort) : Nat :=
  8 * powerOfTwo (min (9 - effort.rank) 3)

end Effort

end BlockCustody.Compression.Zstandard
