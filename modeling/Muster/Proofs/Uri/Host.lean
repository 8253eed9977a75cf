import Muster.Proofs.Text.Numeral
import Muster.Uri.Basic

/-!
# Brackets mark IPv6 hosts

Whatever text a URI is read from, the name of its host holds no opening bracket
(`isUnbracketed_ofText?`): the reader refuses the character in names, and percent-encoding puts
none in. So a host whose text begins with a bracket is an IPv6 address.
-/

namespace Muster.Uri

/-- The name that a host has, if it has one, holds no opening bracket. -/
def Host.IsUnbracketed (host : Host) : Prop :=
  ∀ name, host = .domain name → '[' ∉ name

namespace Host

/-- An empty host has no brackets. -/
theorem isUnbracketed_empty : IsUnbracketed .empty :=
  fun _ h => absurd h (by simp)

/-- Percent-encoding writes no bracket. -/
theorem bracket_of_mem_encode {reserved : Percent.Reserved} {text : List Char}
    (h : '[' ∈ Percent.encode reserved text) : '[' ∈ text := by
  -- An octet is written with hexadecimal digits, none of which is a bracket.
  have hdigits : ∀ n < 16, '[' ≠ (Nat.digitChar n).toUpper := by decide
  obtain ⟨c, hc, hmem⟩ := List.mem_flatMap.1 h
  rw [Percent.encodeChar] at hmem
  split at hmem
  · obtain ⟨b, -, hb⟩ := List.mem_flatMap.1 hmem
    have hbyte : b.toNat < 256 := b.toNat_lt
    simp only [Hex.upperOctet, List.mem_cons, List.not_mem_nil, or_false] at hb
    rcases hb with hb | hb | hb
    · exact absurd hb (by decide)
    · exact absurd hb (hdigits _ (by omega))
    · exact absurd hb (hdigits _ (by omega))
  -- The character stands for itself, and so it was in the text.
  · rwa [List.mem_singleton.1 hmem]

/-- A host in brackets is an IPv6 address and keeps none of them. -/
theorem isUnbracketed_ofBrackets? {text : List Char} {host : Host}
    (h : ofBrackets? text = .ok host) : host.IsUnbracketed := by
  rintro name rfl
  unfold ofBrackets? at h
  split at h
  · split at h
    · exact absurd h (by simp)
    · exact absurd h (by simp)
  · exact absurd h (by simp)

/-- The host of a general scheme keeps no brackets. -/
theorem isUnbracketed_general? {text : List Char} {host : Host} (h : general? text = .ok host) :
    host.IsUnbracketed := by
  unfold general? at h
  split at h
  · exact isUnbracketed_ofBrackets? h
  -- Brackets around the host: what is between them is an address and never a name.
  · obtain rfl := Except.ok.inj h
    exact isUnbracketed_empty
  · split at h
    · exact absurd h (by simp)
    · rename_i hallowed
      -- A name is the encoded text, and a bracket in it is one of the characters refused above.
      rintro name rfl
      obtain rfl := domain.inj (Except.ok.inj h)
      intro hmem
      exact hallowed (List.any_eq_true.2 ⟨'[', bracket_of_mem_encode hmem, by decide⟩)

/-- The host of a special scheme keeps no brackets. -/
theorem isUnbracketed_special? {text : List Char} {host : Host} (h : special? text = .ok host) :
    host.IsUnbracketed := by
  unfold special? at h
  split at h
  · exact isUnbracketed_ofBrackets? h
  · dsimp only at h
    split at h
    · exact absurd h (by simp)
    · rename_i ascii _
      rintro name rfl
      split at h
      · exact absurd h (by simp)
      · rename_i hallowed
        -- A name whose end looks like a number is an address, so only the last branch leaves a
        -- name.
        have hname : ascii = name := by
          split at h
          · exact absurd h (by simp)
          · split at h
            · split at h
              · exact absurd h (by simp)
              · exact absurd h (by simp)
            · exact domain.inj (Except.ok.inj h)
        rw [← hname]
        intro hmem
        exact hallowed (List.any_eq_true.2 ⟨'[', hmem, by decide⟩)

end Host

/-! ## URIs -/

/-- The host of a URI, if it has one, is named without brackets. -/
def IsUnbracketed (uri : Uri) : Prop :=
  ∀ authority, uri.authority = some authority → authority.host.IsUnbracketed

/-- A path and what follows it put no brackets into the host. -/
theorem isUnbracketed_withTail {kind : SchemeKind} {scheme path rest : List Char}
    {authority : Authority} (h : authority.host.IsUnbracketed) :
    (withTail kind scheme (some authority) path rest).IsUnbracketed := by
  rintro found hfound
  obtain rfl := Option.some.inj hfound
  exact h

section Steps

variable {α β : Type} {f : α → Except Fault β} {b : β}

/-- What succeeds in two steps succeeds in the first and then in the second. -/
theorem ok_of_bind {x : Except Fault α} (h : x >>= f = .ok b) : ∃ a, x = .ok a ∧ f a = .ok b := by
  cases x with
  | error fault => exact absurd h (by simp [bind, Except.bind])
  | ok a => exact ⟨a, rfl, h⟩

/-- What fails in its first step does not succeed. -/
theorem throw_bind_ne_ok (fault : Fault) : (throw fault : Except Fault α) >>= f ≠ .ok b := by
  rintro ⟨⟩

end Steps

/-- What is read behind `//` has a host that one of the two host readers gave. -/
theorem afterSlashes_eq_ok {kind : SchemeKind} {scheme text : List Char} {uri : Uri}
    (h : afterSlashes kind scheme text = .ok uri) :
    ∃ user host port rest name, (Host.special? name = .ok host ∨ Host.general? name = .ok host) ∧
      uri = afterAuthority kind scheme ⟨user, host, port⟩ rest := by
  unfold afterSlashes at h
  extract_lets front rest at h
  split at h
  -- `hosted` is what is done with the host, `named` what is done with its name.
  rename_i info place _
  extract_lets user length name colon hosted named at h
  have hhosted : ∀ host, hosted host = .ok uri →
      ∃ port rest, uri = afterAuthority kind scheme ⟨user, host, port⟩ rest := by
    intro host h
    dsimp only [hosted] at h
    split at h
    · exact absurd h (throw_bind_ne_ok _)
    · split at h
      · obtain ⟨⟨port, rest⟩, -, h⟩ := ok_of_bind h
        exact ⟨port, rest, (Except.ok.inj h).symm⟩
      · exact ⟨none, rest, (Except.ok.inj h).symm⟩
  split at h
  · exact absurd h (throw_bind_ne_ok _)
  · dsimp only [named] at h
    split at h
    · split at h
      · exact absurd h (throw_bind_ne_ok _)
      · obtain ⟨host, hhost, h⟩ := ok_of_bind h
        obtain ⟨port, rest, huri⟩ := hhosted host h
        exact ⟨user, host, port, rest, name, .inl hhost, huri⟩
    · obtain ⟨host, hhost, h⟩ := ok_of_bind h
      obtain ⟨port, rest, huri⟩ := hhosted host h
      exact ⟨user, host, port, rest, name, .inr hhost, huri⟩

/-- Behind slashes no brackets get into the host. -/
theorem isUnbracketed_afterSlashes {kind : SchemeKind} {scheme text : List Char} {uri : Uri}
    (h : afterSlashes kind scheme text = .ok uri) : uri.IsUnbracketed := by
  obtain ⟨user, host, port, rest, name, hname, rfl⟩ := afterSlashes_eq_ok h
  refine isUnbracketed_withTail ?_
  exact hname.elim Host.isUnbracketed_special? Host.isUnbracketed_general?

/-- Behind the host of a file no brackets get into it. -/
theorem isUnbracketed_afterFileHost {scheme text : List Char} {host : Host}
    (h : host.IsUnbracketed) : (afterFileHost scheme host text).IsUnbracketed := by
  refine isUnbracketed_withTail ?_
  dsimp only
  split
  · exact Host.isUnbracketed_empty
  · exact h

/-- The URI of a file has a host without brackets. -/
theorem isUnbracketed_afterFile {scheme text : List Char} {uri : Uri}
    (h : afterFile scheme text = .ok uri) : uri.IsUnbracketed := by
  -- A scheme of files drops the host in three places; the empty host is the same each time.
  have hempty : ∀ text, (afterFileHost scheme .empty text).IsUnbracketed :=
    fun _ => isUnbracketed_afterFileHost Host.isUnbracketed_empty
  unfold afterFile at h
  extract_lets kind at h
  split at h
  · split at h
    · extract_lets name at h
      split at h
      · rw [← Except.ok.inj h]
        exact hempty _
      · obtain ⟨host, hhost, h⟩ := ok_of_bind h
        split at h
        · rw [← Except.ok.inj h]
          exact hempty _
        · rw [← Except.ok.inj h]
          exact isUnbracketed_afterFileHost (Host.isUnbracketed_special? hhost)
    · rw [← Except.ok.inj h]
      exact hempty _
  · rw [← Except.ok.inj h]
    exact hempty _

/-- The URI of a general scheme has a host without brackets. -/
theorem isUnbracketed_afterGeneral {scheme text : List Char} {uri : Uri}
    (h : afterGeneral scheme text = .ok uri) : uri.IsUnbracketed := by
  have hnone : ∀ path rest, (withTail .general scheme none path rest).IsUnbracketed :=
    fun _ _ _ hfound => absurd hfound (by simp [withTail])
  unfold afterGeneral at h
  extract_lets kind raw rest at h
  split at h
  · exact isUnbracketed_afterSlashes h
  · rw [← Except.ok.inj h]
    exact hnone _ _
  · rw [← Except.ok.inj h]
    exact hnone _ _

/-- **The host of a URI that was read has no bracket in its name**, whatever the scheme. -/
theorem isUnbracketed_ofText? {text : String} {uri : Uri} (h : ofText? text = .ok uri) :
    uri.IsUnbracketed := by
  unfold ofText? at h
  split at h
  · exact absurd h (by simp)
  · split at h
    · exact isUnbracketed_afterGeneral h
    · exact isUnbracketed_afterFile h
    · exact isUnbracketed_afterSlashes h

end Muster.Uri
