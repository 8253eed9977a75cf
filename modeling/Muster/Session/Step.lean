import Muster.Session.Answer
import Muster.System.Basic

/-!
# Steps of a session

A session is a script that uses stores, tables and gateway lists step by step. A command may run
in the background as a task; other steps watch tasks, move the clock, or plan what goes wrong.
Stores, tables, transactions, tasks and saved etags are known by names.
-/

namespace Muster.Session

open Muster.Silo (Address Entry)

/-- An etag, or the name of one that was saved. -/
inductive EtagSource
  /-- The etag itself. -/
  | given (etag : String)
  /-- The etag saved under a name. -/
  | saved (name : String)

/-- What a table is asked to do. -/
inductive TableCommand
  /-- Get ready, creating the version record if asked to. -/
  | prepare (createVersion : Bool)
  /-- Insert the row of an entry. -/
  | insertRow (entry : Entry) (expected : Table.Version)
  /-- Replace the row of an entry. -/
  | updateRow (entry : Entry) (etag : EtagSource) (expected : Table.Version)
  /-- Write the heartbeat of an entry. -/
  | heartbeat (entry : Entry)
  /-- Read the row of a silo, saving its etag if asked to. -/
  | readRow (address : Address) (etagName : Option String)
  /-- Read all rows. -/
  | readAll
  /-- Remove all rows. -/
  | deleteEntries (clusterId : String)

/-- What a gateway list is asked to do. -/
inductive GatewayCommand
  /-- Get ready. -/
  | prepare
  /-- Read the list. -/
  | refresh
  /-- Tell the list that is kept. -/
  | kept
  /-- Tell whether the list should be read again. -/
  | isStale

/-- What can run in the background. -/
inductive Command
  /-- Look up a dictionary. -/
  | resolve (store dictionary : String)
  /-- Begin a transaction and give it a name. -/
  | begin (store tx : String)
  /-- Do something in a transaction, on a dictionary of a store. -/
  | ask (store tx : String) (request : Request)
  /-- End a transaction with its changes. -/
  | commit (tx : String)
  /-- End a transaction without its changes. -/
  | discard (tx : String)
  /-- Write a cell in a transaction of its own, past everything planned. -/
  | put (store : String) (cell : Cell) (value : Bytes)
  /-- Read the rows of dictionaries in a transaction of its own, past everything planned. -/
  | dump (store : String) (dictionaries : List String)
  /-- Ask a table to do something. -/
  | table (name : String) (command : TableCommand)
  /-- Ask a gateway list to do something. -/
  | gateway (name : String) (command : GatewayCommand)

/-- When a command is told to give up. -/
inductive Interruption
  /-- Before it begins. -/
  | before
  /-- When a token fires. -/
  | token (name : String)
  /-- By its own progress. -/
  | trigger (trigger : Trigger)

/-- What can be shown in all detail. -/
inductive Subject
  /-- A store. -/
  | store (name : String)
  /-- A transaction. -/
  | tx (name : String)
  /-- A gateway list. -/
  | gateway (name : String)

/-- One step of a session. -/
inductive Step
  /-- Run a command, in the background if a task is named. -/
  | run (command : Command) (interruption : Option Interruption) (task : Option String)
  /-- Tell whether a task still runs. -/
  | poll (task : String)
  /-- Wait for a task and tell its answer. -/
  | join (task : String)
  /-- Move the clock on. -/
  | advance (span : Time.Span)
  /-- Fire a token. -/
  | cancel (token : String)
  /-- Plan a call of a store to fail. -/
  | plan (store : String) (fault : PlannedFault)
  /-- Hold up the next transaction of a store. -/
  | hold (store : String)
  /-- Let the transactions of a store go on. -/
  | release (store : String)
  /-- Tell how many calls a store has seen. -/
  | tally (store : String)
  /-- Show something in all detail. -/
  | describe (subject : Subject)
  /-- Tell what a table is set up with. -/
  | tableInfo (name : String)
  /-- Tell what a gateway list is set up with. -/
  | gatewayInfo (name : String)

end Muster.Session
