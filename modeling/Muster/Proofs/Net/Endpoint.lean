import Muster.Net.Endpoint
import Muster.Proofs.Net.Ipv6

/-!
# Endpoints are read back

An IPv4 endpoint begins with a digit and an IPv6 endpoint with a bracket, so no text is read as
both. Inside the brackets the address ends where its scope or the closing bracket begins. What is
read back is the endpoint without its flow label, which no text shows; and what any text is read
as has no flow label (`withoutFlow_of_ofText?`).
-/

namespace Muster.Net.Endpoint

/-! ## Ports and scopes -/

/-- A written port is read back. -/
theorem port?_ofNat (port : UInt16) :
    port? (':' :: (Decimal.ofNat port.toNat).toList) = some (port, []) := by
  have hport : port.toNat < 65536 := port.toNat_lt
  have hread : Decimal.natUpTo? 65535 ((Decimal.ofNat port.toNat).toList ++ []) =
      some (port.toNat, []) := Decimal.natUpTo?_ofNat (by omega) rfl
  rw [List.append_nil] at hread
  rw [port?, Chars.expect?_cons]
  simp only [Option.bind_eq_bind, Option.bind_some, hread, UInt16.ofNat_toNat]
  rfl

/-- A scope as it is written: nothing where it is zero. -/
def scopeText (scope : UInt32) : List Char :=
  if scope = 0 then [] else '%' :: (Decimal.ofNat scope.toNat).toList

/-- A written scope is read back in front of the closing bracket. -/
theorem readScope_scopeText (scope : UInt32) (rest : List Char) :
    readScope (scopeText scope ++ ']' :: rest) = (scope, ']' :: rest) := by
  rw [scopeText]
  split
  · rename_i hzero
    rw [hzero]
    rfl
  -- The scope is written behind a mark, and it is small enough to be read.
  · have hscope : scope.toNat < 4294967296 := scope.toNat_lt
    have hread : Decimal.natUpTo? 0xffffffff ((Decimal.ofNat scope.toNat).toList ++ ']' :: rest) =
        some (scope.toNat, ']' :: rest) :=
      Decimal.natUpTo?_ofNat (by omega) (List.takeWhile_cons_of_neg (by decide))
    rw [List.cons_append, readScope, Chars.expect?_cons, Option.bind_eq_bind, Option.bind_some,
      hread]
    dsimp only
    rw [UInt32.ofNat_toNat]

/-- No group follows where a scope or the closing bracket stands. -/
theorem endsGroups_scopeText (scope : UInt32) (rest : List Char) :
    Ipv6.EndsGroups (scopeText scope ++ ']' :: rest) := by
  rw [scopeText]
  split
  · exact Ipv6.endsGroups_cons (by decide) (by decide) (by decide) rest
  · exact Ipv6.endsGroups_cons (by decide) (by decide) (by decide) _

/-! ## Endpoints -/

/-- The text of an IPv4 endpoint is read back. -/
theorem readV4?_toText (ip : Ipv4) (port : UInt16) :
    readV4? (toText (.v4 ip port)).toList = some (.v4 ip port, []) := by
  have hcolon : ":".toList = [':'] := rfl
  have hends : (':' :: (Decimal.ofNat port.toNat).toList).takeWhile Char.isDigit = [] :=
    List.takeWhile_cons_of_neg (by decide)
  rw [toText, String.toList_append, String.toList_append, hcolon, List.append_assoc,
    List.singleton_append, readV4?, Ipv4.read?_toText ip hends]
  simp only [Option.bind_eq_bind, Option.bind_some, port?_ofNat]
  rfl

/-- A text that begins with a bracket is no IPv4 endpoint. -/
theorem readV4?_bracket (rest : List Char) : readV4? ('[' :: rest) = none := by
  have hread : Ipv4.read? ('[' :: rest) = none := by
    refine Ipv4.read?_eq_none ?_
    rw [List.dropWhile_cons_of_neg (by decide), List.head?_cons]
    decide
  rw [readV4?, hread]
  rfl

/-- The characters of an IPv6 endpoint. -/
theorem toList_toText_v6 (ip : Ipv6) (port : UInt16) (flow scope : UInt32) :
    (toText (.v6 ip port flow scope)).toList =
      '[' :: (ip.toText.toList ++
        (scopeText scope ++ ']' :: ':' :: (Decimal.ofNat port.toNat).toList)) := by
  have hopen : "[".toList = ['['] := rfl
  have hclose : "]:".toList = [']', ':'] := rfl
  have hmark : "%".toList = ['%'] := rfl
  rw [toText, scopeText]
  split <;> simp [hopen, hclose, hmark]

/-- In whatever way the address is written, an IPv6 endpoint is read back from its brackets. -/
theorem readV6?_bracketed {ip : Ipv6} {text : List Char}
    (h : ∀ rest, Ipv6.EndsGroups rest → Ipv6.read? (text ++ rest) = some (ip, rest))
    (port : UInt16) (scope : UInt32) :
    readV6? ('[' :: (text ++
      (scopeText scope ++ ']' :: ':' :: (Decimal.ofNat port.toNat).toList))) =
        some (.v6 ip port 0 scope, []) := by
  have hip := h _ (endsGroups_scopeText scope (':' :: (Decimal.ofNat port.toNat).toList))
  rw [readV6?, Chars.expect?_cons]
  simp only [Option.bind_eq_bind, Option.bind_some, hip, readScope_scopeText, Chars.expect?_cons,
    port?_ofNat]
  rfl

/-- The text of an IPv6 endpoint is read back without the flow label. -/
theorem readV6?_toText (ip : Ipv6) (port : UInt16) (flow scope : UInt32) :
    readV6? (toText (.v6 ip port flow scope)).toList = some (.v6 ip port 0 scope, []) := by
  rw [toList_toText_v6]
  exact readV6?_bracketed (fun _ => ip.read?_toText) port scope

/-- An endpoint is read back with its address in hexadecimal as well. -/
theorem ofText?_compressed (ip : Ipv6) (port : UInt16) :
    ofText? ('[' :: (ip.compressed.toList ++ ']' :: ':' :: (Decimal.ofNat port.toNat).toList)) =
      some (.ofIp (.v6 ip) port) := by
  have hread := readV6?_bracketed (fun _ => ip.read?_compressed) port 0
  rw [scopeText, if_pos rfl, List.nil_append] at hread
  rw [ofText?, readV4?_bracket, hread]
  rfl

/-- **A written endpoint is read back** without its flow label. -/
theorem ofText?_toText (e : Endpoint) : ofText? e.toText.toList = some e.withoutFlow := by
  cases e with
  | v4 ip port =>
    rw [ofText?, readV4?_toText]
    rfl
  | v6 ip port flow scope =>
    have hv4 : readV4? (toText (.v6 ip port flow scope)).toList = none := by
      rw [toList_toText_v6]
      exact readV4?_bracket _
    rw [ofText?, hv4, readV6?_toText]
    rfl

/-- The flow label of an endpoint, zero for IPv4. -/
def flow : Endpoint → UInt32
  | .v4 _ _ => 0
  | .v6 _ _ flow _ => flow

/-- An endpoint has nothing to lose exactly if its flow label is zero. -/
theorem withoutFlow_eq_iff (e : Endpoint) : e.withoutFlow = e ↔ e.flow = 0 := by
  cases e with
  | v4 ip port => exact ⟨fun _ => rfl, fun _ => rfl⟩
  | v6 ip port flow scope => simp [withoutFlow, Endpoint.flow, eq_comm]

/-- The text of an endpoint does not show its flow label. -/
theorem toText_withoutFlow (e : Endpoint) : e.withoutFlow.toText = e.toText := by
  cases e <;> rfl

/-- No flow label is read from the text of an IPv4 endpoint. -/
theorem withoutFlow_of_readV4? {text rest : List Char} {e : Endpoint}
    (h : readV4? text = some (e, rest)) : e.withoutFlow = e := by
  simp only [readV4?, Option.bind_eq_bind, Option.bind_eq_some_iff, Option.pure_def,
    Option.some.injEq, Prod.mk.injEq] at h
  obtain ⟨_, -, _, -, rfl, -⟩ := h
  rfl

/-- No flow label is read from the text of an IPv6 endpoint. -/
theorem withoutFlow_of_readV6? {text rest : List Char} {e : Endpoint}
    (h : readV6? text = some (e, rest)) : e.withoutFlow = e := by
  simp only [readV6?, Option.bind_eq_bind, Option.bind_eq_some_iff, Option.pure_def,
    Option.some.injEq, Prod.mk.injEq] at h
  obtain ⟨_, -, _, -, _, -, _, -, rfl, -⟩ := h
  rfl

/-- Without a bracket in front, a text is read as an IPv4 endpoint if it is one at all. -/
theorem eq_v4_of_ofText? {text : List Char} {e : Endpoint} (hbracket : text.head? ≠ some '[')
    (h : ofText? text = some e) : ∃ ip port, e = .v4 ip port := by
  -- Without a bracket the text is not that of an IPv6 endpoint.
  have hv6 : readV6? text = none := by
    have hexpect : Chars.expect? '[' text = none := by
      cases text with
      | nil => rfl
      | cons c rest => rw [Chars.expect?, if_neg fun hc => hbracket (congrArg some hc)]
    rw [readV6?, hexpect]
    rfl
  unfold ofText? at h
  rw [hv6] at h
  cases hv4 : readV4? text with
  | none =>
    rw [hv4] at h
    exact absurd h (by simp)
  | some read =>
    rw [hv4] at h
    simp only [readV4?, Option.bind_eq_bind, Option.bind_eq_some_iff, Option.pure_def,
      Option.some.injEq] at hv4
    obtain ⟨⟨ip, _⟩, -, ⟨port, rest⟩, -, rfl⟩ := hv4
    cases rest with
    | nil => exact ⟨ip, port, (Option.some.inj h).symm⟩
    | cons c rest => exact absurd h (by simp)

/-- An endpoint without flow label and scope is known by its address and its port. -/
theorem ofIp_inj {ip ip' : Ip} {port port' : UInt16} :
    ofIp ip port = ofIp ip' port' ↔ ip = ip' ∧ port = port' := by
  cases ip <;> cases ip' <;> simp [ofIp]

/-- What a text is read as has no flow label. -/
theorem withoutFlow_of_ofText? {text : List Char} {e : Endpoint} (h : ofText? text = some e) :
    e.withoutFlow = e := by
  unfold ofText? at h
  split at h
  · rename_i read hread
    obtain rfl := Option.some.inj h
    -- Both readers give an endpoint without a flow label.
    cases hv4 : readV4? text with
    | some found =>
      rw [hv4] at hread
      obtain rfl := Option.some.inj hread
      exact withoutFlow_of_readV4? hv4
    | none =>
      rw [hv4] at hread
      exact withoutFlow_of_readV6? hread
  · exact absurd h (by simp)

end Muster.Net.Endpoint
