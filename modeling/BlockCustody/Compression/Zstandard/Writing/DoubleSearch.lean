import BlockCustody.Compression.Zstandard.Writing.Matches

/-!
Contract: the search that looks for a long and for a short match at every place.

Owns:
- preferring the recent distance, then a long match, then a short one;
- what is remembered of places looked at and of matches.

Does not own: how far a match reaches.
-/

namespace BlockCustody.Compression.Zstandard

/-- What is remembered by the eight bytes of long matches, and by the fewer bytes
of short ones. -/
structure DoubleTable where
  long : SlotTable
  short : SlotTable

namespace DoubleTable

def remember (table : DoubleTable) (data : ByteArray) (position : Nat) : DoubleTable :=
  { long := table.long.remember data position
    short := table.short.remember data position }

def rememberLong (table : DoubleTable) (data : ByteArray) (position : Nat) : DoubleTable :=
  { table with long := table.long.remember data position }

def rememberShort (table : DoubleTable) (data : ByteArray) (position : Nat) : DoubleTable :=
  { table with short := table.short.remember data position }

end DoubleTable

namespace DoubleSearch

/-- After this many bytes without a match the stride grows by one. -/
def patience : Nat := 256

/-- Whether a candidate above the start of the range has the same `width` bytes. -/
def isMatch (data : ByteArray) (range : SearchRange) (width candidate position : Nat) : Bool :=
  range.lowest + 1 < candidate && agreesFor data (candidate - 1) position width

def lengthOf (data : ByteArray) (range : SearchRange) (candidate position : Nat) : Nat :=
  agreement data (candidate - 1) position (range.stop - position) 0

def findAt (candidate position examined known : Nat) : Find :=
  { start := position
    distance := position + 1 - candidate
    isRecent := false
    known
    examined }

/-- Looks at the place `here`; `next` is the one after it. A short match is passed
over for a longer one at the next place. The first argument bounds the number of
places. -/
def findPlace
    (data : ByteArray)
    (range : SearchRange)
    (recent : Nat) :
    Nat → Nat → Nat → Nat → Nat → DoubleTable → Option Find × DoubleTable
  | 0, _, _, _, _, table => (none, table)
  | places + 1, here, next, stride, growsAt, table =>
      if range.limit < next then (none, table)
      else
        let long := table.long.candidate data here
        let short := table.short.candidate data here
        let table := table.remember data here
        if 0 < recent && agreesFor data (here + 1 - recent) (here + 1) 4 then
          let find : Find :=
            { start := here + 1
              distance := recent
              isRecent := true
              known := 4
              examined := here }
          (some find, table)
        else
          let settled := fun (table : DoubleTable) =>
            if stride < 4 then table.rememberLong data next else table
          if isMatch data range 8 long here then (some (findAt long here here 8), settled table)
          else if isMatch data range 4 short here then
            let longNext := table.long.candidate data next
            let known := lengthOf data range short here
            if isMatch data range 8 longNext next &&
                known < lengthOf data range longNext next then
              (some (findAt longNext next here 8), settled table)
            else (some (findAt short here here known), settled table)
          else if growsAt ≤ next then
            findPlace data range recent places next (next + stride + 1) (stride + 1)
              (growsAt + patience) table
          else findPlace data range recent places next (next + stride) stride growsAt table

def finder : Finder DoubleTable :=
  { find := fun data range position _ recent table =>
      findPlace data range recent (range.stop - position) position (position + 1) 1
        (position + patience) table
    leave := fun data find stop table =>
      let inside := find.examined + 2
      (((table.rememberLong data inside).rememberLong data (stop - 2)).rememberShort data
        inside).rememberShort data (stop - 1)
    revisit := fun data position table => table.remember data position }

end DoubleSearch

end BlockCustody.Compression.Zstandard
