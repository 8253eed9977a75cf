import Muster.Proofs.Net.Endpoint
import Muster.Silo.Codec

/-!
# Silo addresses are read back

The canonical text of an address ends with its generation, which has no `@`; so the last `@` is
the one in front of the generation, and both parts are read back. Texts tell addresses apart up to
the flow label (`toText_eq_iff`), and a codec that puts a fixed text in front changes nothing
about it.
-/

namespace Muster.Silo

open Muster.Net

namespace Address

/-- A numeral has no `@`. -/
theorem at_notMem_ofInt (n : Int) : '@' ∉ (Decimal.ofInt n).toList := by
  intro h
  rcases Decimal.mem_ofInt h with hsign | hdigit
  · exact absurd hsign (by decide)
  · exact absurd hdigit (by decide)

/-- The last `@` of a canonical text is the one in front of the generation. -/
theorem splitLast?_toText (a : Address) :
    Chars.splitLast? '@' a.toText.toList =
      some (a.endpoint.toText.toList, (Decimal.ofInt a.generation.toInt).toList) := by
  have hat : "@".toList = ['@'] := rfl
  rw [toText, String.toList_append, String.toList_append, hat, List.append_assoc,
    List.singleton_append]
  exact Chars.splitLast?_append _ (at_notMem_ofInt _)

/-- **A written address is read back** without its flow label. -/
theorem ofText?_toText (a : Address) : ofText? a.toText = .ok a.withoutFlow := by
  rw [ofText?, splitLast?_toText]
  dsimp only
  rw [Endpoint.ofText?_toText]
  dsimp only
  rw [Decimal.int32?_ofInt]
  rfl

/-- The text of an address does not show its flow label. -/
theorem toText_withoutFlow (a : Address) : a.withoutFlow.toText = a.toText := by
  rw [toText, toText, withoutFlow, Endpoint.toText_withoutFlow]

/-- An address without a flow label is one whose flow label is zero. -/
theorem withoutFlow_eq_iff (a : Address) : a.withoutFlow = a ↔ a.endpoint.flow = 0 := by
  rw [← Endpoint.withoutFlow_eq_iff]
  exact ⟨congrArg endpoint, fun h => by rw [withoutFlow, h]⟩

/-- Texts are equal only if the addresses are, up to their flow labels. -/
theorem toText_eq_iff (a b : Address) : a.toText = b.toText ↔ a.withoutFlow = b.withoutFlow := by
  constructor
  · intro h
    have hread := ofText?_toText a
    rw [h, ofText?_toText b] at hread
    exact (Except.ok.inj hread).symm
  · intro h
    rw [← toText_withoutFlow a, h, toText_withoutFlow b]

/-- What a text is read as has no flow label. -/
theorem withoutFlow_of_ofText? {text : String} {a : Address} (h : ofText? text = .ok a) :
    a.withoutFlow = a := by
  unfold ofText? at h
  split at h
  · exact absurd h (by simp)
  · split at h
    · exact absurd h (by simp)
    · rename_i endpoint hendpoint
      split at h
      · exact absurd h (by simp)
      · obtain rfl := Except.ok.inj h
        rw [withoutFlow, Endpoint.withoutFlow_of_ofText? hendpoint]

end Address

namespace Codec

/-- The canonical codec reads an address back without its flow label. -/
theorem canonical_decode_encode (a : Address) :
    canonical.decode (canonical.encode a) = .ok a.withoutFlow :=
  Address.ofText?_toText a

/-- So does a codec that puts a text in front, whatever that text is. -/
theorem prefixed_decode_encode (front : String) (a : Address) :
    (prefixed front).decode ((prefixed front).encode a) = .ok a.withoutFlow := by
  rw [prefixed]
  dsimp only
  rw [String.toList_append, Chars.dropWord?_append]
  dsimp only
  rw [String.ofList_toList, Address.ofText?_toText]

end Codec

end Muster.Silo
