import Muster.Proofs.Net.Endpoint
import Muster.Proofs.Uri.General
import Muster.Proofs.Uri.Host
import Muster.Silo.Gateway

/-!
# Gateway URIs are read back

The URI of a gateway can be built for every address and every port (`uri?_eq`): its parts are the
host of the address, the port, and the generation as its path. An IPv4 host stays the text that it
is written as; an IPv6 host is read back from its brackets and written again in hexadecimal, also
where the endpoint showed it with an IPv4 address in it. Both texts spell the same address
(`Spells`), so what is proved of spellings serves the text that the URI is built from and the text
that the URI itself has.

From the URI, endpoint and generation are read back (`ofUri?_uri`). A URI that somebody else
wrote names no scope and no flow label either: in front of its port stands an IPv6 address in
brackets or a name without a bracket (`endpoint_of_address?`). Together, gateway URIs and the
addresses that they name determine each other (`uris_round_trip`).
-/

namespace Muster.Silo.Gateway

open Muster.Net Muster.Uri

/-- The host that a gateway URI names. -/
def host : Ip → Host
  | .v4 ip => .domain ip.toText.toList
  | .v6 ip => .ipv6 ip

/-- A host as it is written in a gateway URI. -/
def hostText : Ip → List Char
  | .v4 ip => ip.toText.toList
  | .v6 ip => '[' :: (ip.toText.toList ++ [']'])

/-- The gateway URI of an address and a port. -/
def uri (address : Address) (port : UInt16) : Uri :=
  ⟨scheme.toList, some ⟨none, host address.endpoint.ip, some port⟩,
    '/' :: (Decimal.ofInt address.generation.toInt).toList, none, none⟩

/-! ## Hosts -/

/-- The text of an endpoint is that of its host with its port. -/
theorem toList_toText_ofIp (ip : Ip) (port : UInt16) :
    (Endpoint.ofIp ip port).toText.toList = place (hostText ip) port := by
  have hcolon : ":".toList = [':'] := rfl
  cases ip with
  | v4 ip =>
    rw [Endpoint.ofIp, Endpoint.toText, String.toList_append, String.toList_append, hcolon,
      List.append_assoc]
    rfl
  | v6 ip =>
    rw [Endpoint.ofIp, Endpoint.toList_toText_v6, place, hostText]
    simp [Endpoint.scopeText]

/-- The texts that spell an address as the host of a gateway URI. -/
inductive Spells : Ip → List Char → Prop
  /-- An IPv4 address has one spelling. -/
  | v4 (ip : Ipv4) : Spells (.v4 ip) ip.toText.toList
  /-- An IPv6 address may be spelled in brackets in any way that is read as the address. -/
  | v6 {ip : Ipv6} {text : List Char} (read : Ipv6.ofText? text = some ip)
    (chars : ∀ c ∈ text, c = ':' ∨ c = '.' ∨ c ∈ Hex.digits) :
    Spells (.v6 ip) ('[' :: (text ++ [']']))

/-- What a URI is built from spells its host. -/
theorem spells_hostText (ip : Ip) : Spells ip (hostText ip) := by
  cases ip with
  | v4 ip => exact .v4 ip
  | v6 ip => exact .v6 ip.ofText?_toText fun _ => Ipv6.mem_toText

/-- So does what a URI is written with. -/
theorem spells_toText_host (ip : Ip) : Spells ip (host ip).toText.toList := by
  cases ip with
  | v4 ip =>
    rw [host, Host.toText, String.toList_ofList]
    exact .v4 ip
  | v6 ip =>
    have hopen : "[".toList = ['['] := rfl
    have hclose : "]".toList = [']'] := rfl
    rw [host, Host.toText, String.toList_append, String.toList_append, hopen, hclose,
      List.append_assoc, List.singleton_append]
    exact .v6 ip.ofText?_compressed fun c hc => (Ipv6.mem_compressed hc).imp_right .inr

section Spellings

variable {ip : Ip} {name : List Char}

/-- The name of a host consists of plain characters. -/
theorem Spells.isPlain (h : Spells ip name) : ∀ c ∈ name, isPlain c = true := by
  have hdigits : ∀ c ∈ Hex.digits, Uri.isPlain c = true := forall_mem_of_all (by decide)
  intro c hc
  -- The name of an IPv6 host stands in brackets; all else are digits, points and colons.
  cases h with
  | v4 ip =>
    rcases Ipv4.mem_toText hc with rfl | hc
    · decide
    · exact hdigits c hc
  | v6 read chars =>
    rcases List.mem_cons.1 hc with rfl | hc
    · decide
    · rcases List.mem_append.1 hc with hc | hc
      · rcases chars c hc with rfl | rfl | hc
        · decide
        · decide
        · exact hdigits c hc
      · rw [List.mem_singleton.1 hc]
        decide

/-- The name of the host ends at the colon in front of the port. -/
theorem Spells.hostLength (h : Spells ip name) (rest : List Char) :
    hostLength false (name ++ ':' :: rest) = name.length := by
  have hdigits : ∀ c ∈ Hex.digits, c ≠ '[' ∧ c ≠ ']' ∧ c ≠ ':' := forall_mem_of_all (by decide)
  cases h with
  | v4 ip =>
    have hname : ∀ c ∈ ip.toText.toList, c ≠ '[' ∧ c ≠ ']' ∧ (c = ':' → false = true) := by
      intro c hc
      rcases Ipv4.mem_toText hc with rfl | hc
      · decide
      · obtain ⟨hopen, hclose, hcolon⟩ := hdigits c hc
        exact ⟨hopen, hclose, fun h => absurd h hcolon⟩
    rw [hostLength_append hname, Uri.hostLength, if_neg (by simp), Nat.add_zero]
  | @v6 ip text read chars =>
    -- Inside the brackets colons do not count.
    have hinside : ∀ c ∈ text, c ≠ '[' ∧ c ≠ ']' ∧ (c = ':' → true = true) := by
      intro c hc
      rcases chars c hc with rfl | rfl | hc
      · decide
      · decide
      · obtain ⟨hopen, hclose, -⟩ := hdigits c hc
        exact ⟨hopen, hclose, fun _ => rfl⟩
    rw [List.cons_append, Uri.hostLength, List.append_assoc, hostLength_append hinside,
      List.singleton_append, Uri.hostLength, Uri.hostLength, if_neg (by simp), List.length_cons,
      List.length_append, List.length_singleton]

/-- A spelled address is read as the host that it names. -/
theorem Spells.general? (h : Spells ip name) : Host.general? name = .ok (host ip) := by
  cases h with
  | v4 ip =>
    have hdigits : ∀ c ∈ Hex.digits, c ∉ Host.forbidden := forall_mem_of_all (by decide)
    refine general?_plain ip.toText_ne_nil (Spells.v4 ip).isPlain fun c hc => ?_
    rcases Ipv4.mem_toText hc with rfl | hc
    · decide
    · exact hdigits c hc
  | v6 read chars => exact general?_brackets read

end Spellings

/-- The host of a URI is not empty. -/
theorem host_ne_empty (ip : Ip) : host ip ≠ .empty := by
  cases ip <;> simp [host]

/-! ## Generations -/

/-- A generation consists of plain characters. -/
theorem isPlain_generation {n : Int} {c : Char} (h : c ∈ (Decimal.ofInt n).toList) :
    isPlain c = true := by
  have hdigits : ∀ c ∈ Hex.digits, isPlain c = true := forall_mem_of_all (by decide)
  rcases Decimal.mem_ofInt h with rfl | h
  · decide
  · exact hdigits c h

/-- A generation is no segment that moves. -/
theorem dropPoint?_generation (n : Int) : Path.dropPoint? (Decimal.ofInt n).toList = none := by
  have hdigits : ∀ c ∈ Hex.digits, c ≠ '.' ∧ c ≠ '%' := forall_mem_of_all (by decide)
  obtain ⟨c, rest, hcons⟩ := List.exists_cons_of_ne_nil (Decimal.ofInt_ne_nil n)
  have hhead : c ≠ '.' ∧ c ≠ '%' := by
    have hmem : c ∈ (Decimal.ofInt n).toList := by
      rw [hcons]
      exact List.mem_cons_self
    rcases Decimal.mem_ofInt hmem with rfl | hc
    · decide
    · exact hdigits c hc
  rw [hcons]
  exact dropPoint?_cons hhead.1 hhead.2 rest

/-! ## URIs -/

section Written

variable (address : Address) (port : UInt16)

/-- However its host is spelled, the text of a gateway URI is read as its parts. -/
theorem ofText?_spelled {text : String} {name : List Char} (h : Spells address.endpoint.ip name)
    (htext : text.toList = scheme.toList ++ ':' :: '/' :: '/' :: (place name port ++
      '/' :: (Decimal.ofInt address.generation.toInt).toList)) :
    Uri.ofText? text = .ok (uri address port) :=
  ofText?_place htext (fun _ => rfl) (by decide) (forall_mem_of_all (by decide)) h.isPlain
    h.hostLength h.general? (host_ne_empty _) (fun _ => isPlain_generation)
    (dropPoint?_generation _)

/-- **Every address has a gateway URI at every port**, whatever its family and generation. -/
theorem uri?_eq : uri? address port = .ok (uri address port) := by
  have htext : (scheme ++ "://" ++ (Endpoint.ofIp address.endpoint.ip port).toText ++ "/" ++
      Decimal.ofInt address.generation.toInt).toList =
      scheme.toList ++ ':' :: '/' :: '/' :: (place (hostText address.endpoint.ip) port ++
        '/' :: (Decimal.ofInt address.generation.toInt).toList) := by
    have hslashes : "://".toList = [':', '/', '/'] := rfl
    have hslash : "/".toList = ['/'] := rfl
    simp only [String.toList_append, hslashes, hslash, toList_toText_ofIp, List.append_assoc,
      List.cons_append, List.nil_append]
  rw [uri?, ofText?_spelled address port (spells_hostText _) htext]

/-- The text of a gateway URI is read as that URI. -/
theorem ofText?_toText_uri : Uri.ofText? (uri address port).toText = .ok (uri address port) := by
  refine ofText?_spelled address port (spells_toText_host _) ?_
  have hcolon : ":".toList = [':'] := rfl
  simp [uri, Uri.toText, Authority.toText, place, hcolon]

end Written

/-! ## Addresses -/

/-- What stands in front of the path of a gateway URI is read as its endpoint. -/
theorem ofText?_host (ip : Ip) (port : UInt16) :
    Endpoint.ofText? ((host ip).toText ++ ":" ++ Decimal.ofNat port.toNat).toList =
      some (.ofIp ip port) := by
  cases ip with
  | v4 ip =>
    rw [host, Host.toText, String.ofList_toList]
    exact Endpoint.ofText?_toText (.v4 ip port)
  | v6 ip =>
    -- The brackets around the address are those that the reader of endpoints expects.
    have htext : ((host (.v6 ip)).toText ++ ":" ++ Decimal.ofNat port.toNat).toList =
        '[' :: (ip.compressed.toList ++ ']' :: ':' :: (Decimal.ofNat port.toNat).toList) := by
      have hopen : "[".toList = ['['] := rfl
      have hclose : "]".toList = [']'] := rfl
      have hcolon : ":".toList = [':'] := rfl
      simp only [host, Host.toText, String.toList_append, hopen, hclose, hcolon, List.append_assoc,
        List.cons_append, List.nil_append]
    rw [htext, Endpoint.ofText?_compressed]

/-- **The address that a gateway URI names**: address, port and generation are those that it was
built from, and it has neither a scope nor a flow label. -/
theorem ofUri?_uri (address : Address) (port : UInt16) :
    ofUri? (uri address port) = .ok ⟨.ofIp address.endpoint.ip port, address.generation⟩ := by
  have hhost : (uri address port).host? = some (host address.endpoint.ip) :=
    if_neg (host_ne_empty _)
  have hport : (uri address port).port? = some port := rfl
  -- Host, port and generation are all there and can be read.
  have hread : address? (uri address port) =
      .ok ⟨.ofIp address.endpoint.ip port, address.generation⟩ := by
    rw [address?, if_neg (by simp [uri]), hhost]
    dsimp only
    rw [hport]
    dsimp only
    rw [ofText?_host]
    dsimp only
    rw [uri, Chars.expect?_cons]
    dsimp only
    rw [Decimal.int32?_ofInt]
  rw [ofUri?, hread]
  rfl

/-- Gateway URIs are equal iff address, port and generation are. -/
theorem uri_eq_iff (a b : Address) (p q : UInt16) :
    uri a p = uri b q ↔ a.endpoint.ip = b.endpoint.ip ∧ p = q ∧ a.generation = b.generation := by
  constructor
  · intro h
    have hread := ofUri?_uri a p
    rw [h, ofUri?_uri b q] at hread
    obtain ⟨hendpoint, hgeneration⟩ := Address.mk.inj (Except.ok.inj hread)
    obtain ⟨hip, hport⟩ := Endpoint.ofIp_inj.1 hendpoint
    exact ⟨hip.symm, hport.symm, hgeneration.symm⟩
  · rintro ⟨hip, rfl, hgeneration⟩
    rw [uri, uri, hip, hgeneration]

/-- So are their texts. -/
theorem toText_uri_eq_iff (a b : Address) (p q : UInt16) :
    (uri a p).toText = (uri b q).toText ↔ uri a p = uri b q := by
  refine ⟨fun h => ?_, congrArg Uri.toText⟩
  have hread := ofText?_toText_uri a p
  rw [h, ofText?_toText_uri b q] at hread
  exact (Except.ok.inj hread).symm

/-- What stands in front of a port names neither a scope nor a flow label: an address that is no
IPv6 host is written without a bracket. -/
theorem endpoint_of_host {host : Host} {port : UInt16} {endpoint : Endpoint}
    (hname : host.IsUnbracketed)
    (h : Endpoint.ofText? (host.toText ++ ":" ++ Decimal.ofNat port.toNat).toList =
      some endpoint) : endpoint = .ofIp endpoint.ip endpoint.port := by
  -- A host without a bracket in front is that of an IPv4 endpoint, which has nothing to lose.
  have hv4 : '[' ∉ host.toText.toList → endpoint = .ofIp endpoint.ip endpoint.port := by
    intro htext
    have hhead : (host.toText ++ ":" ++ Decimal.ofNat port.toNat).toList.head? ≠ some '[' := by
      rw [String.toList_append, String.toList_append]
      cases htoText : host.toText.toList with
      | nil => exact fun h => absurd (Option.some.inj h) (by decide)
      | cons c text =>
        rw [htoText] at htext
        exact fun h => List.ne_of_not_mem_cons htext (Option.some.inj h).symm
    obtain ⟨ip, port, rfl⟩ := Endpoint.eq_v4_of_ofText? hhead h
    rfl
  cases host with
  | empty => exact hv4 (by decide)
  | domain text =>
    refine hv4 ?_
    rw [Host.toText, String.toList_ofList]
    exact hname text rfl
  -- The text of an IPv4 host consists of points and digits.
  | ipv4 ip =>
    refine hv4 fun hmem => ?_
    rcases Ipv4.mem_toText hmem with hpoint | hdigit
    · exact absurd hpoint (by decide)
    · exact absurd hdigit (by decide)
  | ipv6 ip =>
    have hread := h.symm.trans (ofText?_host (.v6 ip) port)
    rw [Option.some.inj hread]
    rfl

/-- **The endpoint that any URI names is its address and port**, if the URI was read from a
text. -/
theorem endpoint_of_address? {found : Uri} {address : Address} (hread : found.IsUnbracketed)
    (h : address? found = .ok address) :
    address.endpoint = .ofIp address.endpoint.ip address.endpoint.port := by
  -- The host of a URI that was read is not a name in brackets.
  have hname : ∀ host, found.host? = some host → host.IsUnbracketed := by
    intro host hhost
    unfold Uri.host? at hhost
    split at hhost
    · exact absurd hhost (by simp)
    · rename_i authority hauthority
      split at hhost
      · exact absurd hhost (by simp)
      · obtain rfl := Option.some.inj hhost
        exact hread authority hauthority
  unfold address? at h
  split at h
  · exact absurd h (by simp)
  · split at h
    · exact absurd h (by simp)
    · rename_i host hhost
      split at h
      · exact absurd h (by simp)
      · rename_i port _
        split at h
        · exact absurd h (by simp)
        · rename_i endpoint hendpoint
          -- Nothing that is read has a flow label or a scope of its own.
          have hkept : endpoint = .ofIp endpoint.ip endpoint.port :=
            endpoint_of_host (hname host hhost) hendpoint
          split at h
          · exact absurd h (by simp)
          · split at h
            · exact absurd h (by simp)
            · obtain rfl := Except.ok.inj h
              exact hkept

/-- **Gateway URIs and the addresses that they name determine each other.** Every address has a
gateway URI at every port, which names its address, that port and its generation. Two of them are
equal, as URIs and as texts, iff these three agree. And whoever wrote a URI that names an address:
the gateway URI of that address at its own port names the same address. -/
theorem uris_round_trip :
    (∀ (a : Address) (p : UInt16), ∃ u, uri? a p = .ok u ∧
      ofUri? u = .ok ⟨.ofIp a.endpoint.ip p, a.generation⟩) ∧
    (∀ (a b : Address) (p q : UInt16) (u v : Uri), uri? a p = .ok u → uri? b q = .ok v →
      (u = v ↔ a.endpoint.ip = b.endpoint.ip ∧ p = q ∧ a.generation = b.generation) ∧
      (u.toText = v.toText ↔
        a.endpoint.ip = b.endpoint.ip ∧ p = q ∧ a.generation = b.generation)) ∧
    (∀ (text : String) (u : Uri) (b : Address), Uri.ofText? text = .ok u → ofUri? u = .ok b →
      ∃ v, uri? b b.endpoint.port = .ok v ∧ ofUri? v = .ok b) := by
  refine ⟨fun a p => ⟨uri a p, uri?_eq a p, ofUri?_uri a p⟩, ?_, ?_⟩
  · intro a b p q u v hu hv
    obtain rfl := Except.ok.inj ((uri?_eq a p).symm.trans hu)
    obtain rfl := Except.ok.inj ((uri?_eq b q).symm.trans hv)
    exact ⟨uri_eq_iff a b p q, (toText_uri_eq_iff a b p q).trans (uri_eq_iff a b p q)⟩
  -- What was read is an address without a flow label, so its URI gives it back.
  · intro text u b htext hu
    have hnamed : address? u = .ok b := by
      unfold ofUri? at hu
      cases haddress : address? u with
      | error reason =>
        rw [haddress] at hu
        exact absurd hu (by simp [Except.mapError])
      | ok address =>
        rw [haddress] at hu
        obtain rfl := Except.ok.inj hu
        rfl
    have hkept := endpoint_of_address? (isUnbracketed_ofText? htext) hnamed
    refine ⟨uri b b.endpoint.port, uri?_eq _ _, ?_⟩
    rw [ofUri?_uri, ← hkept]

namespace Sample

/-- The address of a gateway at port zero, on an IPv6 address that maps an IPv4 address. -/
def mapped : Address :=
  ⟨.v6 ⟨[0, 0, 0, 0, 0, 0xffff, 0x0a00, 2], rfl⟩ 0 0 0, -7⟩

/-- A URI of that gateway with a user and a query, as somebody may have written it. -/
def written : String :=
  "gwy.tcp://me@[0:0::ffff:10.0.0.2]:0/-07?x#y"

/-- What the text is read as. -/
def found : Uri :=
  ⟨scheme.toList, some ⟨some ['m', 'e'], host mapped.endpoint.ip, some 0⟩, "/-07".toList,
    some ['x'], some ['y']⟩

end Sample

/-- A URI that is not the gateway URI of the address that it names: the one that is names the same
address. -/
theorem exists_uri?_written : Uri.ofText? Sample.written = .ok Sample.found ∧
    ofUri? Sample.found = .ok Sample.mapped ∧
      ∃ v, uri? Sample.mapped 0 = .ok v ∧ ofUri? v = .ok Sample.mapped ∧ v ≠ Sample.found := by
  have hread : Uri.ofText? Sample.written = .ok Sample.found := by decide +kernel
  have hnamed : ofUri? Sample.found = .ok Sample.mapped := by decide +kernel
  obtain ⟨v, hv, hback⟩ := uris_round_trip.2.2 _ _ _ hread hnamed
  refine ⟨hread, hnamed, v, hv, hback, ?_⟩
  rintro rfl
  exact absurd hv (by decide +kernel)

end Muster.Silo.Gateway
