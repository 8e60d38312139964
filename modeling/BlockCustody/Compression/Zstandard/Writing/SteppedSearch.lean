import BlockCustody.Compression.Zstandard.Writing.Matches

/-!
Contract: the search that looks at one candidate per place.

Owns:
- looking at places in pairs, the pairs ever further apart while nothing is found;
- what is remembered of places looked at and of matches.

Does not own: how far a match reaches.
-/

namespace BlockCustody.Compression.Zstandard

namespace SteppedSearch

/-- After this many bytes without a match the stride grows by one. -/
def patience : Nat := 128

/-- Whether a candidate in the range has the same four bytes. -/
def isMatch (data : ByteArray) (range : SearchRange) (candidate position : Nat) : Bool :=
  range.lowest < candidate && agreesFor data (candidate - 1) position 4

/-- Looks at the pair of places from `here` on and at the recent distance at
`following`, where the next pair starts; then goes on from there. The first
argument bounds the number of pairs. -/
def findPair
    (data : ByteArray)
    (range : SearchRange)
    (recent : Nat) :
    Nat → Nat → Nat → Nat → Nat → SlotTable → Option Find × SlotTable
  | 0, _, _, _, _, table => (none, table)
  | pairs + 1, here, following, stride, growsAt, table =>
      if range.limit ≤ following + 1 then (none, table)
      else
        let candidate := table.candidate data here
        let table := table.remember data here
        let second := here + 1
        if 0 < recent && agreesFor data (following - recent) following 4 then
          let back :=
            if byteAt data (following - 1) = byteAt data (following - 1 - recent) then 1 else 0
          let find : Find :=
            { start := following - back
              distance := recent
              isRecent := true
              known := 4 + back
              examined := here }
          (some find, table.remember data second)
        else if isMatch data range candidate here then
          let find : Find :=
            { start := here
              distance := here + 1 - candidate
              isRecent := false
              known := 4
              examined := here }
          (some find, table.remember data second)
        else
          let candidate := table.candidate data second
          let table := table.remember data second
          if isMatch data range candidate second then
            let find : Find :=
              { start := second
                distance := second + 1 - candidate
                isRecent := false
                known := 4
                examined := second }
            (some find, if stride ≤ 4 then table.remember data following else table)
          else
            let next := following + stride
            if growsAt ≤ next then
              findPair data range recent pairs following next (stride + 1) (growsAt + patience)
                table
            else findPair data range recent pairs following next stride growsAt table

/-- The search with the given first stride. -/
def finder (stride : Nat) : Finder SlotTable :=
  { find := fun data range position _ recent table =>
      findPair data range recent (range.stop - position) position (position + stride) stride
        (position + patience) table
    leave := fun data find stop table =>
      (table.remember data (find.examined + 2)).remember data (stop - 2)
    revisit := fun data position table => table.remember data position }

end SteppedSearch

end BlockCustody.Compression.Zstandard
