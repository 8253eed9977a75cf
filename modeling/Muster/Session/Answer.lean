import Muster.Gateways.Operations
import Muster.Table.Operations

/-!
# Answers of a session
-/

namespace Muster.Session

/-- What a step of a session answers. -/
inductive Answer
  /-- Nothing. -/
  | nothing
  /-- A truth value. -/
  | flag (b : Bool)
  /-- Whether a task still runs. -/
  | pending (b : Bool)
  /-- A text. -/
  | text (s : String)
  /-- A transaction that has begun, with the name that it goes by from now on. -/
  | begun (name : String) (tx : Ticket)
  /-- The value of a cell. -/
  | value (bytes : Option Bytes)
  /-- The rows of a dictionary. -/
  | rows (rows : List Row)
  /-- The rows of dictionaries. -/
  | contents (dictionaries : List (String × List Row))
  /-- A reading of the table; the etag of its row goes by the given name from now on. -/
  | roster (roster : Table.Roster) (etagName : Option String)
  /-- Gateway URIs. -/
  | gateways (uris : List Uri)
  /-- The gateway list that is kept. -/
  | keptGateways (uris : Option (List Uri))
  /-- How many calls a store has seen. -/
  | tally (tally : Tally)
  /-- The cluster and the dictionary of a table. -/
  | table (clusterId stateName : String)
  /-- The dictionary of a gateway list and how old it may grow. -/
  | gatewayList (stateName : String) (maxStaleness : Time.Span)
  /-- A request on a transaction failed. -/
  | refused (fault : Store.Fault)
  /-- An operation of a table or gateway list failed. -/
  | failed (failure : Failure)
  /-- The step names something that is not there. -/
  | unknown (name : String)

variable {α : Type}

/-- The program of an operation on a table or gateway list. -/
def operationProgram (encode : α → Answer) (operation : Operation α) : Program Answer := do
  match ← operation.run with
  | .ok a => return encode a
  | .error failure => return .failed failure

/-- The program of a request on a transaction, whose failures are those of the store. -/
def requestProgram (encode : α → Answer) (operation : Operation α) : Program Answer := do
  match ← operation.run with
  | .ok a => return encode a
  | .error (.store fault) => return .refused fault
  | .error failure => return .failed failure

end Muster.Session
