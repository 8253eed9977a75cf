import Muster.Store.Locks
import Muster.Time.Span

/-!
# Why a store fails
-/

namespace Muster

/-- Why a store does not do what it is asked to. -/
inductive Store.Fault
  /-- A transaction was used on a dictionary of another store. -/
  | foreign (id : TransactionId)
  /-- The lock of a cell was not handed over in time. -/
  | lockTimeout (cell : Cell) (timeout : Time.Span)
  /-- The call was planned to fail. -/
  | planned (message : String)
  deriving DecidableEq

/-- The fault in words. -/
def Store.Fault.message : Store.Fault → String
  | .foreign id => "transaction " ++ Decimal.ofNat id ++ " belongs to a different store"
  | .lockTimeout cell timeout =>
    "timed out after " ++ timeout.toText ++ " waiting for the lock on '" ++ cell.key ++ "' in '" ++
      cell.dictionary ++ "'"
  | .planned message => message

end Muster
