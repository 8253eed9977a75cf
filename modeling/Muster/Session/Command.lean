import Muster.Session.Step

/-!
# The programs of commands

Every command is a program that ends with the answer of its step. The commands on transactions
look their dictionary up first and report the failures of the store as they are.
-/

namespace Muster.Session

open Operation

/-- The answer to a request. -/
def answerOf : (r : Request) → r.Reply → Answer
  | .read _, value => .value value
  | .readLocked _, value => .value value
  | .set _ _, () => .nothing
  | .add _ _, isAdded => .flag isAdded
  | .remove _, value => .value value
  | .scan _, rows => .rows rows

/-- Looks up a dictionary for one request. -/
def lookUp (store dictionary : String) : Operation String := do
  attempt store .resolve
  return dictionary

/-- Lets the rows of a reply arrive one by one. -/
def arrive (store : String) : (r : Request) → r.Reply → Operation Unit
  | .scan _, rows => rows.forM fun _ => attempt store .item
  | _, _ => return ()

/-- The program of a request on a transaction. -/
def askProgram (store : String) (tx : Ticket) (request : Request) : Program Answer :=
  requestProgram (answerOf request) do
    attempt store .resolve
    let reply ← ask store tx request
    arrive store request reply
    return reply

/-- Runs a body in a transaction of its own that passes neither faults nor the gate. -/
def aside {α : Type} (store : String) (body : Ticket → Operation α) : Operation α := do
  let tx ← perform (.begin store)
  tryCatch (body tx) fun failure => do
    discard tx
    throw failure

/-- Does something in a transaction past everything planned. -/
def askAside (tx : Ticket) (request : Request) : Operation request.Reply := do
  match ← perform (.ask tx request) with
  | .ok reply => return reply
  | .error fault => throw (.store fault)

/-- The program that writes a cell in a transaction of its own. -/
def putProgram (store : String) (cell : Cell) (value : Bytes) : Program Answer :=
  requestProgram (fun () => .nothing) <| aside store fun tx => do
    askAside tx (.set cell value)
    perform (.commit tx)

/-- The program that reads dictionaries in a transaction of its own. -/
def dumpProgram (store : String) (dictionaries : List String) : Program Answer :=
  requestProgram .contents <| aside store fun tx => do
    let all ← dictionaries.mapM fun d => do
      return (d, ← askAside tx (.scan d))
    discard tx
    return all

/-- The program of a command on a gateway list. -/
def gatewayProgram (g : GatewayList) : GatewayCommand → Program Answer
  | .prepare => operationProgram (fun () => .nothing) g.prepare
  | .refresh => operationProgram .gateways g.refresh
  | .kept => operationProgram .keptGateways g.kept
  | .isStale => operationProgram .flag g.isStale

/-- The program of a command on a table; `saved` finds a saved etag. -/
def tableProgram (t : Table) (saved : String → Option String) :
    TableCommand → Program Answer
  | .prepare createVersion => operationProgram (fun () => .nothing) (t.prepare createVersion)
  | .insertRow entry expected => operationProgram .flag (t.insertRow entry expected)
  | .updateRow entry (.given etag) expected =>
    operationProgram .flag (t.updateRow entry etag expected)
  | .updateRow entry (.saved name) expected =>
    match saved name with
    | some etag => operationProgram .flag (t.updateRow entry etag expected)
    | none => .done (.unknown name)
  | .heartbeat entry => operationProgram (fun () => .nothing) (t.heartbeat entry)
  | .readRow address etagName => operationProgram (.roster · etagName) (t.readRow address)
  | .readAll => operationProgram (.roster · none) t.readAll
  | .deleteEntries clusterId => operationProgram (fun () => .nothing) (t.deleteEntries clusterId)

end Muster.Session
