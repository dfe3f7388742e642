import Mathlib.Data.List.TakeDrop
import Mathlib.Tactic.Common

namespace Umundo
namespace Foundation

/-!
# Texts that are processed in blocks

A text is cut into blocks of one size.  The full blocks are processed one after the other,
and what is left is kept until there is more.  It makes no difference how the text was cut
into pieces before.
-/

section

variable {Letter State : Type} (size : Nat) (process : State -> List Letter -> State)

/-- Process so many blocks. -/
def processBlocks : Nat -> State -> List Letter -> State
  | 0, state, _ => state
  | count + 1, state, text => processBlocks count (process state (text.take size)) (text.drop size)

/-- Process the full blocks of a text. -/
def processFull (state : State) (text : List Letter) : State :=
  processBlocks size process (text.length / size) state text

/-- What the full blocks leave of a text. -/
def remainder (text : List Letter) : List Letter := text.drop (size * (text.length / size))

variable {size process}

theorem processBlocks_add (first second : Nat) (state : State) (text : List Letter) :
    processBlocks size process (first + second) state text =
      processBlocks size process second (processBlocks size process first state text)
        (text.drop (size * first)) := by
  induction first generalizing state text with
  | zero => simp [processBlocks]
  | succ first ih =>
      rw [Nat.succ_add, processBlocks, ih, processBlocks, List.drop_drop, Nat.mul_succ, Nat.add_comm]

/-- Blocks do not depend on what comes behind them. -/
theorem processBlocks_append {count : Nat} {text : List Letter} (full : size * count ≤ text.length)
    (state : State) (more : List Letter) :
    processBlocks size process count state (text ++ more) = processBlocks size process count state text := by
  induction count generalizing state text with
  | zero => rfl
  | succ count ih =>
      rw [Nat.mul_succ] at full
      have rest : size * count ≤ (text.drop size).length := by
        rw [List.length_drop]
        omega
      rw [processBlocks, processBlocks, List.take_append_of_le_length (by omega),
        List.drop_append_of_le_length (by omega), ih rest]

theorem length_remainder (text : List Letter) : (remainder size text).length = text.length % size := by
  rw [remainder, List.length_drop, ← Nat.mod_def]

theorem length_append_div (positive : 0 < size) (text more : List Letter) :
    (text ++ more).length / size = text.length / size + (remainder size text ++ more).length / size := by
  rw [List.length_append, List.length_append, length_remainder]
  conv_lhs => rw [← Nat.div_add_mod text.length size]
  rw [Nat.add_assoc, Nat.mul_add_div positive]

/-- A text in two pieces is processed like its first piece, and then what that leaves together
with the second one. -/
theorem processFull_append (positive : 0 < size) (state : State) (text more : List Letter) :
    processFull size process state (text ++ more) =
      processFull size process (processFull size process state text) (remainder size text ++ more) := by
  have full : size * (text.length / size) ≤ text.length := Nat.mul_div_le text.length size
  rw [processFull, length_append_div positive, processBlocks_add, processBlocks_append full,
    List.drop_append_of_le_length full]
  rfl

theorem remainder_append (positive : 0 < size) (text more : List Letter) :
    remainder size (text ++ more) = remainder size (remainder size text ++ more) := by
  have full : size * (text.length / size) ≤ text.length := Nat.mul_div_le text.length size
  rw [remainder, length_append_div positive, Nat.mul_add, ← List.drop_drop, List.drop_append_of_le_length full]
  rfl

theorem processFull_of_lt {text : List Letter} (short : text.length < size) (state : State) :
    processFull size process state text = state := by
  rw [processFull, Nat.div_eq_of_lt short, processBlocks]

theorem remainder_of_lt {text : List Letter} (short : text.length < size) :
    remainder size text = text := by
  rw [remainder, Nat.div_eq_of_lt short, Nat.mul_zero, List.drop_zero]

theorem processFull_of_length {block : List Letter} (positive : 0 < size) (full : block.length = size)
    (state : State) : processFull size process state block = process state block := by
  rw [processFull, full, Nat.div_self positive, processBlocks, processBlocks,
    List.take_of_length_le (Nat.le_of_eq full)]

end

end Foundation
end Umundo
