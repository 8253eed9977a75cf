import Muster.Net.Endpoint

/-!
# Silo addresses

A silo is known by the endpoint it listens on and by a generation, which tells a process apart
from the one that listened there before it. The canonical text `<ip>:<port>@<generation>` is read
back to the same address, up to the flow label, which no text shows.
-/

namespace Muster.Silo

open Muster.Net

/-- The identity of a silo. -/
structure Address where
  /-- Where the silo listens. -/
  endpoint : Endpoint
  /-- Which of the processes on that endpoint it is. -/
  generation : Int32
  deriving DecidableEq

namespace Address

/-- Why a text is no address; every cause carries the text. -/
inductive Fault
  /-- There is no `@`, or what a prefix codec expects is not there. -/
  | missingGeneration (text : String)
  /-- What stands in front of the last `@` is no endpoint. -/
  | invalidEndpoint (text : String)
  /-- What stands behind the last `@` is no generation. -/
  | invalidGeneration (text : String) (cause : Decimal.Fault)
  deriving DecidableEq

/-- The cause in words. -/
def Fault.message : Fault → String
  | .missingGeneration text => "missing generation in silo address '" ++ text ++ "'"
  | .invalidEndpoint text =>
    "invalid endpoint in silo address '" ++ text ++ "': " ++ Endpoint.syntaxMessage
  | .invalidGeneration text cause =>
    "invalid generation in silo address '" ++ text ++ "': " ++ cause.message

/-- Endpoints decide first, then generations. -/
instance : Ord Address where
  compare a b := (compare a.endpoint b.endpoint).then (compare a.generation b.generation)

/-- The canonical text of an address. -/
def toText (a : Address) : String :=
  a.endpoint.toText ++ "@" ++ Decimal.ofInt a.generation.toInt

/-- Reads a text as an address. -/
def ofText? (text : String) : Except Fault Address :=
  match Chars.splitLast? '@' text.toList with
  | none => .error (.missingGeneration text)
  | some (front, back) =>
    match Endpoint.ofText? front with
    | none => .error (.invalidEndpoint text)
    | some endpoint =>
      match Decimal.int32? back with
      | .error cause => .error (.invalidGeneration text cause)
      | .ok generation => .ok ⟨endpoint, generation⟩

/-- The address without its flow label, which is what its text shows. -/
def withoutFlow (a : Address) : Address :=
  { a with endpoint := a.endpoint.withoutFlow }

/-- Whether reading the canonical text gives the address back. -/
def roundTrips (a : Address) : Bool :=
  match ofText? a.toText with
  | .ok b => a = b
  | .error _ => false

/-- The addresses in ascending order, equal ones kept. -/
def sort (addresses : List Address) : List Address :=
  addresses.mergeSort fun a b => (compare a b).isLE

/-- How many different addresses there are in a list. -/
def countDistinct (addresses : List Address) : Nat :=
  addresses.eraseDups.length

end Address

end Muster.Silo
