/-! Sizes asked for in advance, as powers of two, and tables that have run out of numbers. -/
namespace StateIntern

inductive CapacityError where
  /-- A registry was asked to be too large. -/
  | registry
  /-- A memo table was asked to be too large. -/
  | memo
  /-- There is no number for one more entry. -/
  | full
  deriving DecidableEq, Repr

def CapacityError.message : CapacityError → String
  | .registry => "Table bits should be in the range 0..=31"
  | .memo => "Cache bits should be in the range 0..=31"
  | .full => "Table is full"

/-- A table grows as needed, so only the range of `bits` matters. -/
def sized (error : CapacityError) (bits : Nat) (table : α) : Except CapacityError α :=
  if bits ≤ 31 then .ok table else .error error

end StateIntern
