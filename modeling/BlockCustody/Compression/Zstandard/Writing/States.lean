import BlockCustody.Compression.Zstandard.StateTable
import BlockCustody.Compression.Zstandard.Writing.Fields

/-!
Contract: symbols as a chain of states.

Owns:
- the states of a table, by symbol;
- the chain of states that stands for a list of symbols, and its bits.

Does not own: which tables are used for which symbols.
-/

namespace BlockCustody.Compression.Zstandard

/-- The states of a table, in ascending order for each symbol. -/
structure StateChoice where
  accuracy : Nat
  states : Array (Array Nat)

/-- A chain of states: the first of them, and for every further one the bits that
lead to it. -/
structure StateChain where
  start : Nat
  steps : List BitField

namespace StateChoice

def ofTable (table : StateTable) : StateChoice :=
  { accuracy := table.accuracy
    states :=
      (table.cells.toList.zipIdx).foldl
        (fun (states : Array (Array Nat)) (cell, state) =>
          states.modify cell.symbol (·.push state))
        (Array.replicate 256 #[]) }

def statesOf (choice : StateChoice) (symbol : Nat) : Array Nat :=
  choice.states.getD symbol #[]

/-- The state of a symbol from which `next` can be reached, and the bits that lead
there. The states of a symbol share out all states among them: those in front
take twice as many as those behind. -/
def before (choice : StateChoice) (symbol next : Nat) : Nat × BitField :=
  let states := choice.statesOf symbol
  let place := powerOfTwo choice.accuracy + next
  let narrow := choice.accuracy - Nat.log2 states.size
  let width := if place >>> narrow < states.size then narrow - 1 else narrow
  (states.getD ((place >>> width) - states.size) 0,
    { value := place % powerOfTwo width, width })

/-- The chain of a list of symbols. It ends in the first state of the last one. -/
def chain (choice : StateChoice) (symbols : List Nat) : StateChain :=
  let step := fun (symbol : Nat) (following : Option StateChain) =>
    match following with
    | none => some { start := (choice.statesOf symbol).getD 0 0, steps := [] }
    | some rest =>
        let (state, field) := choice.before symbol rest.start
        some { start := state, steps := field :: rest.steps }
  (symbols.foldr step none).getD { start := 0, steps := [] }

end StateChoice

/-- The field that names the first state. -/
def StateChain.startField (chain : StateChain) (accuracy : Nat) : BitField :=
  { value := chain.start, width := accuracy }

end BlockCustody.Compression.Zstandard
