import Multicast.Bits

/-!
# `Multicast.Room` — sizes that can be had

Texts and datagrams are made in the size that is asked for, as long as there is room for it. Sizes
are counted in 64 bits with a sign, and memory ends long before these do.

## Contents
- **Causes.** `RoomError`, why a size cannot be had.
- **Limits.** `Room.forText?` and `Room.forOctets?`, which refuse what the memory does not hold, and
  `Room.HasLine`: there is room for what a line of a screen is filled up with.
-/

namespace Multicast

/-! ## Causes -/

/-- Why a size cannot be had. -/
inductive RoomError where
  /-- The size does not fit 64 bits. -/
  | uncountable
  /-- The size fits, but not together with what a byte string takes besides its bytes. -/
  | tooLong
  /-- There is not that much memory. -/
  | exhausted
deriving Repr, DecidableEq

/-- The wording of a size that cannot be had. -/
def RoomError.message : RoomError → String
  | uncountable => "cannot fit 'int' into an index-sized integer"
  | tooLong => "byte string is too large"
  | exhausted => ""

/-! ## Limits -/

namespace Room

/-- The bytes that a byte string takes besides its own. -/
def overhead : Nat := 33

/-- Room for a number of characters, in a memory that holds so many of them. -/
def forText? (memory : Nat) (n : Int) : Except RoomError Nat :=
  if !fitsSigned 64 n then .error .uncountable
  else if (memory : Int) < n then .error .exhausted
  else .ok n.toNat

/-- Room for a number of bytes. -/
def forOctets? (memory : Nat) (n : Int) : Except RoomError Nat :=
  if fitsSigned 64 n && !fitsSigned 64 (n + overhead) then .error .tooLong else forText? memory n

/-- A line of a screen of some width can be filled up, with one blank at least. -/
def HasLine (memory : Nat) (width : Int) : Prop :=
  width ≤ memory ∧ 1 ≤ memory ∧ width < 2 ^ 63

instance (memory : Nat) (width : Int) : Decidable (HasLine memory width) :=
  inferInstanceAs (Decidable (_ ∧ _))

end Room

end Multicast
