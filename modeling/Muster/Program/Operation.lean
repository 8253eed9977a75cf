import Muster.Program.Basic

/-!
# Operations

An operation is a program that may fail. This module holds the steps that operations are made of:
looking up dictionaries, running a body inside a transaction, and requests on the rows of a
dictionary. Whatever way the body of a transaction ends, the transaction has ended behind it.
-/

namespace Muster

/-- Why an operation fails. -/
inductive Failure
  /-- The store failed. -/
  | store (fault : Store.Fault)
  /-- Stored bytes could not be read. -/
  | stored (fault : Stored.Fault)
  /-- The operation was told to give up. -/
  | cancelled

/-- The failure in words. -/
def Failure.message : Failure → String
  | .store fault => "store error: " ++ fault.message
  | .stored fault => fault.message
  | .cancelled => "operation cancelled"

/-- A program that may fail. -/
abbrev Operation (α : Type) := ExceptT Failure Program α

namespace Operation

variable {α : Type}

/-- The operation of one call. -/
def perform (c : Call) : Operation c.Reply :=
  ExceptT.lift (Program.perform c)

/-- Tells something. -/
def note (notice : Notice) : Operation Unit :=
  perform (.note notice)

/-- Goes on with bytes that were read, or fails. -/
def read (result : Except Stored.Fault α) : Operation α :=
  match result with
  | .ok a => pure a
  | .error fault => throw (.stored fault)

/-- Makes a call of a kind on a store, which may be planned to fail. -/
def attempt (store : String) (kind : CallKind) : Operation Unit := do
  match ← perform (.attempt store kind) with
  | none => return ()
  | some message => throw (.store (.planned message))

/-- Looks up the dictionary of a handle, unless that was done before. -/
def resolve (handle : Handle) : Operation Unit := do
  match ← perform (.claim handle) with
  | .resolved => return ()
  | .mine =>
    note (.resolving handle.dictionary)
    match ← perform (.attempt handle.store .resolve) with
    | none => perform (.settle handle true)
    | some message =>
      perform (.settle handle false)
      throw (.store (.planned message))

/-- Begins a transaction. -/
def begin (store : String) : Operation Ticket := do
  attempt store .begin
  let tx ← perform (.begin store)
  perform (.pass tx)
  return tx

/-- Does something in a transaction on a dictionary of `store`. -/
def ask (store : String) (tx : Ticket) (request : Request) : Operation request.Reply := do
  attempt store request.kind
  if tx.store ≠ store then throw (.store (.foreign tx.id))
  match ← perform (.ask tx request) with
  | .ok reply => return reply
  | .error fault => throw (.store fault)

/-- Ends a transaction without its changes. -/
def discard (tx : Ticket) : Operation Unit :=
  perform (.discard tx)

/-- Ends a transaction with its changes; if that fails, it has ended without them. -/
def commit (tx : Ticket) : Operation Unit := do
  match ← perform (.attempt tx.store .commit) with
  | none => perform (.commit tx)
  | some message =>
    discard tx
    throw (.store (.planned message))

/-- Runs a body inside a new transaction. If the body fails, the transaction is discarded. -/
def within (store : String) (body : Ticket → Operation α) : Operation α := do
  let tx ← begin store
  tryCatch (body tx) fun failure => do
    discard tx
    throw failure

/-- Lets the rows of a scan arrive one by one, unless the operation is told to give up. -/
def deliver (handle : Handle) : List Row → Operation Unit
  | [] => do
    if ← perform (.next false) then
      note (.scanCancelled handle.dictionary)
      throw .cancelled
  | _ :: rest => do
    if ← perform (.next true) then
      note (.scanCancelled handle.dictionary)
      throw .cancelled
    attempt handle.store .item
    deliver handle rest

/-- Fails if the operation has been told to give up. -/
def checkCancelled : Operation Unit := do
  if ← perform .isCancelled then throw .cancelled

/-- All rows of a dictionary, unless the operation is told to give up. -/
def scan (handle : Handle) (tx : Ticket) : Operation (List Row) := do
  checkCancelled
  let rows ← ask handle.store tx (.scan handle.dictionary)
  deliver handle rows
  return rows

end Operation

end Muster
