import Muster.Silo.Address
import Muster.Uri.Basic

/-!
# Gateway URIs

Clients reach a silo through the gateway that it opens on its own address at a port of its own.
The URI of the gateway keeps the generation as its path, so that clients can tell restarted silos
apart. Its scheme is a general one: an IPv4 host stays text, and a scope is not written.
-/

namespace Muster.Silo.Gateway

open Muster.Net

/-- The scheme of gateway URIs. -/
def scheme : String :=
  "gwy.tcp"

/-- What is wrong with a gateway URI. -/
inductive Reason
  /-- The text is no URI. -/
  | notAUri (cause : Uri.Fault)
  /-- The scheme is not that of gateways. -/
  | unexpectedScheme
  /-- There is no host. -/
  | missingHost
  /-- There is no port. -/
  | missingPort
  /-- Host and port are no endpoint. -/
  | invalidEndpoint
  /-- The path does not begin with a slash. -/
  | missingGeneration
  /-- The path is no generation. -/
  | invalidGeneration (cause : Decimal.Fault)
  deriving DecidableEq

/-- The reason in words. -/
def Reason.message : Reason → String
  | .notAUri cause => cause.message
  | .unexpectedScheme => "unexpected scheme"
  | .missingHost => "missing host"
  | .missingPort => "missing port"
  | .invalidEndpoint => Endpoint.syntaxMessage
  | .missingGeneration => "missing generation"
  | .invalidGeneration cause => cause.message

/-- A URI that is no gateway's. -/
structure Fault where
  /-- The text of the URI. -/
  uri : String
  /-- What is wrong with it. -/
  reason : Reason
  deriving DecidableEq

/-- The fault in words. -/
def Fault.message (fault : Fault) : String :=
  "invalid gateway uri '" ++ fault.uri ++ "': " ++ fault.reason.message

/-- The URI of the gateway that a silo opens at `port`. -/
def uri? (address : Address) (port : UInt16) : Except Fault Uri :=
  let text := scheme ++ "://" ++ (Endpoint.ofIp address.endpoint.ip port).toText ++ "/" ++
    Decimal.ofInt address.generation.toInt
  match Uri.ofText? text with
  | .ok uri => .ok uri
  | .error cause => .error ⟨text, .notAUri cause⟩

/-- The endpoint and generation that a URI names, or what is wrong with it. -/
def address? (uri : Uri) : Except Reason Address :=
  if String.ofList uri.scheme ≠ scheme then .error .unexpectedScheme
  else match uri.host? with
    | none => .error .missingHost
    | some host =>
      match uri.port? with
      | none => .error .missingPort
      | some port =>
        -- The host is read once more as an endpoint, which takes IP addresses only.
        match Endpoint.ofText? (host.toText ++ ":" ++ Decimal.ofNat port.toNat).toList with
        | none => .error .invalidEndpoint
        | some endpoint =>
          match Chars.expect? '/' uri.path with
          | none => .error .missingGeneration
          | some path =>
            match Decimal.int32? path with
            | .error cause => .error (.invalidGeneration cause)
            | .ok generation => .ok ⟨endpoint, generation⟩

/-- The address of the gateway that a URI names: its port is the gateway's, not the silo's. -/
def ofUri? (uri : Uri) : Except Fault Address :=
  (address? uri).mapError fun reason => ⟨uri.toText, reason⟩

end Muster.Silo.Gateway
