/-!
Contract: readers that take values off the front of a sequence of symbols.

Owns:
- reading one thing after another, with the first fault ending all reading;
- reading a counted number of like things.

Does not own: any format, and what its faults are.
-/

namespace BlockCustody

/-- Takes a value off the front of a list of symbols and returns it with the
symbols after it. -/
def FrontReader (symbol fault value : Type) :=
  List symbol → Except fault (value × List symbol)

namespace FrontReader

variable {symbol fault α β : Type}

/-- Reads nothing. -/
def done (value : α) : FrontReader symbol fault α :=
  fun input => .ok (value, input)

/-- Reads a value, then what its continuation reads. -/
def andThen (first : FrontReader symbol fault α) (next : α → FrontReader symbol fault β) :
    FrontReader symbol fault β :=
  fun input =>
    match first input with
    | .error fault => .error fault
    | .ok (value, rest) => next value rest

/-- Reads nothing and reports a fault. -/
def refuse (reason : fault) : FrontReader symbol fault α :=
  fun _ => .error reason

/-- Reads nothing; the value may have been found faulty. -/
def judge (judged : Except fault α) : FrontReader symbol fault α :=
  fun input =>
    match judged with
    | .error fault => .error fault
    | .ok value => .ok (value, input)

instance : Monad (FrontReader symbol fault) where
  pure := done
  bind := andThen

/-- Reads `count` items, put after those already read, which are given last one
first. -/
def items (item : FrontReader symbol fault α) : Nat → List α → FrontReader symbol fault (List α)
  | 0, found => fun input => .ok (found.reverse, input)
  | count + 1, found => fun input =>
      match item input with
      | .error fault => .error fault
      | .ok (value, rest) => items item count (value :: found) rest

end FrontReader

end BlockCustody
