import Muster.Store.Locks
import Muster.Store.Transaction

/-!
# The store

A store holds what has been committed, the transactions that have not ended, and the locks that
they hold or wait for. A request whose cell is locked by another transaction is not answered yet:
it waits, and asking again answers it once the lock has been handed over. A commit applies all
changes of a transaction and then lets go of its locks; every other end only lets go.
-/

namespace Muster

/-- A transactional key-value store. -/
structure Store where
  /-- What has been committed. -/
  committed : Contents
  /-- The transactions that have not ended. -/
  live : SortedMap TransactionId Transaction
  /-- The locks that are held. -/
  locks : Locks
  /-- The number of the next transaction. -/
  nextId : TransactionId

namespace Store

/-- A store that keeps nothing; its first transaction has the number 1. -/
def empty : Store :=
  ⟨.empty, .empty, .empty, 1⟩

/-- Begins a transaction on the committed contents. -/
def begin (s : Store) : TransactionId × Store :=
  (s.nextId, { s with
    live := s.live.insert s.nextId (.begin s.committed)
    nextId := s.nextId + 1 })

/-- Does what a request asks of a transaction, once its cell is locked. -/
def answer (s : Store) (id : TransactionId) (tx : Transaction) (r : Request) : Store × r.Reply :=
  let done := tx.perform s.committed r
  ({ s with live := s.live.insert id done.1 }, done.2)

/-- Asks a transaction to do something. There is no reply as long as the request waits for a lock;
a transaction that has ended never replies. -/
def ask (s : Store) (id : TransactionId) (r : Request) : Store × Option r.Reply :=
  match s.live.find? id with
  | none => (s, none)
  | some tx =>
    match r.lock? with
    | none =>
      let (s, reply) := s.answer id tx r
      (s, some reply)
    | some cell =>
      -- The request joins the queue once; asked again, it is polled where it stands.
      let s := { s with locks := s.locks.request id cell }
      if s.locks.holds id cell then
        let (s, reply) := s.answer id tx r
        (s, some reply)
      else (s, none)

/-- Ends the waiting of a transaction for the lock of a request. -/
def withdraw (s : Store) (id : TransactionId) (r : Request) : Store :=
  match r.lock? with
  | none => s
  | some cell => { s with locks := s.locks.withdraw id cell }

/-- Ends a transaction without its changes. -/
def discard (s : Store) (id : TransactionId) : Store :=
  match s.live.find? id with
  | none => s
  | some _ => { s with live := s.live.erase id, locks := s.locks.release id }

/-- Ends a transaction with its changes. -/
def commit (s : Store) (id : TransactionId) : Store :=
  match s.live.find? id with
  | none => s
  | some tx => { s with committed := s.committed.apply tx.changes }.discard id

/-- The rows of a dictionary as they are committed. -/
def rows (s : Store) (dictionary : String) : List Row :=
  s.committed.rows dictionary

end Store

end Muster
