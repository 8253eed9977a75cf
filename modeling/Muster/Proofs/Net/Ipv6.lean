import Muster.Net.Ipv6
import Muster.Proofs.Net.Ipv4

/-!
# IPv6 addresses are read back

Groups are read back one at a time: each is followed by the colon of the next group or by a text
that goes on with neither a digit nor a point, so it is taken whole and is not mistaken for the
beginning of an IPv4 address (`readGroups_written`). Reading stops where a `::` stands, or where
the address ends (`readGroups_ends`).

The longest run of zero groups is what its length and place say, so filling the gap of a `::` with
zeros gives the groups back (`fill_zeroRun`). An address that maps an IPv4 address is written with
that address, whose octets are the halves of the last two groups (`groups_of_mapped?`).
-/

namespace Muster.Net.Ipv6

/-! ## One group -/

/-- A text that does not continue a group: neither with a digit nor with a point. -/
structure EndsGroup (text : List Char) : Prop where
  /-- There is no digit in front. -/
  digit : text.takeWhile Hex.isDigit = []
  /-- There is no point in front. -/
  point : text.head? ≠ some '.'

/-- A group ends at every character that is neither a digit nor a point. -/
theorem endsGroup_cons {c : Char} (hdigit : Hex.isDigit c = false) (hpoint : c ≠ '.')
    (rest : List Char) : EndsGroup (c :: rest) where
  digit := List.takeWhile_cons_of_neg (by simp [hdigit])
  point := by simpa using hpoint

/-- What does not continue a group does not continue a decimal numeral either. -/
theorem EndsGroup.takeWhile {text : List Char} (h : EndsGroup text) :
    text.takeWhile Char.isDigit = [] := by
  cases text with
  | nil => rfl
  | cons c rest =>
    refine List.takeWhile_cons_of_neg fun hc => ?_
    have htake := h.digit
    rw [List.takeWhile_cons_of_pos (Hex.isDigit_of_isDigit hc)] at htake
    exact absurd htake (by simp)

/-- Where a group ends, no group begins. -/
theorem group?_eq_none {text : List Char} (h : EndsGroup text) : group? text = none := by
  rw [group?, h.digit]
  rfl

/-- Where no group begins, no IPv4 address does. -/
theorem read?_eq_none_of_endsGroup {text : List Char} (h : EndsGroup text) :
    Ipv4.read? text = none := by
  refine Ipv4.read?_eq_none ?_
  rw [Decimal.dropWhile_of_takeWhile h.takeWhile]
  exact h.point

/-- The digits of a group. -/
abbrev digitsOf (g : UInt16) : List Char :=
  Nat.toDigits 16 g.toNat

/-- A written group is read back. -/
theorem group?_digitsOf (g : UInt16) {rest : List Char} (hrest : EndsGroup rest) :
    group? (digitsOf g ++ rest) = some (g, rest) := by
  have hg : g.toNat < 16 ^ 4 := g.toNat_lt
  have hdigits : ∀ c ∈ digitsOf g, Hex.isDigit c = true := fun _ => Hex.isDigit_of_mem_toDigits
  have hpos : 1 ≤ (digitsOf g).length := List.length_pos_iff.2 Nat.toDigits_ne_nil
  have hle : (digitsOf g).length ≤ 4 :=
    (Nat.length_toDigits_le_iff (by decide) (by decide)).2 hg
  have hdrop : (digitsOf g ++ rest).dropWhile Hex.isDigit = rest := by
    rw [List.dropWhile_append_of_pos hdigits, Decimal.dropWhile_of_takeWhile hrest.digit]
  rw [group?, List.takeWhile_append_of_pos hdigits, hrest.digit, List.append_nil, hdrop,
    if_pos ⟨hpos, hle⟩, Hex.value_toDigits, UInt16.ofNat_toNat]

/-- Behind the digits of a group stands no point, so the group begins no IPv4 address. -/
theorem read?_digitsOf (g : UInt16) {rest : List Char} (hrest : EndsGroup rest) :
    Ipv4.read? (digitsOf g ++ rest) = none := by
  have hpoint : ∀ c ∈ digitsOf g, c ≠ '.' := by
    rintro c hc rfl
    exact Hex.notMem_toDigits (by decide) g.toNat hc
  refine Ipv4.read?_eq_none ?_
  -- There is no point in the digits, so the octet that they might begin with has none behind it.
  generalize digitsOf g = digits at hpoint
  induction digits with
  | nil =>
    rw [List.nil_append, Decimal.dropWhile_of_takeWhile hrest.takeWhile]
    exact hrest.point
  | cons c digits ih =>
    rw [List.cons_append]
    by_cases hc : c.isDigit = true
    · rw [List.dropWhile_cons_of_pos hc]
      exact ih fun d hd => hpoint d (List.mem_cons_of_mem _ hd)
    · rw [List.dropWhile_cons_of_neg hc]
      simpa using hpoint c List.mem_cons_self

/-! ## Sequences of groups -/

/-- The colon in front of a group that is not the first. -/
def colon (first : Bool) : List Char :=
  if first then [] else [':']

/-- Written groups: a colon in front of each, except in front of the first of an address. -/
def written (first : Bool) : List UInt16 → List Char
  | [] => []
  | g :: gs => colon first ++ (digitsOf g ++ written false gs)

/-- Groups with colons between them are what is written of them from the first one on. -/
theorem toList_joined (gs : List UInt16) : (joined gs).toList = written true gs := by
  have hcolon : ":".toList = [':'] := rfl
  rw [joined, String.toList_intercalate, List.map_map, hcolon]
  induction gs with
  | nil => rfl
  | cons g gs ih =>
    cases gs with
    | nil => simp [written, colon, Hex.ofNat]
    | cons g' gs =>
      rw [List.map_cons, List.map_cons, List.intercalate_cons_cons, ← List.map_cons, ih]
      simp [written, colon, Hex.ofNat]

/-- The text behind a separator is what was written behind it. -/
theorem separator?_colon (first : Bool) (text : List Char) :
    separator? first (colon first ++ text) = some text := by
  cases first with
  | true => rfl
  | false => exact Chars.expect?_cons ':' text

/-- A text behind written groups ends the last of them if it ends a group. -/
theorem endsGroup_written (gs : List UInt16) {rest : List Char} (hrest : EndsGroup rest) :
    EndsGroup (written false gs ++ rest) := by
  cases gs with
  | nil => exact hrest
  | cons g gs => exact endsGroup_cons (by decide) (by decide) _

/-- Written groups are read back, and reading goes on behind them. -/
theorem readGroups_written (gs : List UInt16) (first : Bool) {limit : Nat}
    (hlimit : gs.length ≤ limit) {rest : List Char} (hrest : EndsGroup rest) :
    readGroups limit first (written first gs ++ rest) =
      let more := readGroups (limit - gs.length) (first && gs.isEmpty) rest
      { more with groups := gs ++ more.groups } := by
  induction gs generalizing first limit with
  | nil => cases first <;> rfl
  | cons g gs ih =>
    -- There is room for one more group, so the next one is read as well.
    obtain ⟨limit, rfl⟩ := Nat.exists_eq_add_of_le' (Nat.lt_of_lt_of_le (Nat.succ_pos _) hlimit)
    have hnext := endsGroup_written gs hrest
    have hrec := ih false (Nat.le_of_succ_le_succ hlimit)
    have hseparator := separator?_colon first (digitsOf g ++ (written false gs ++ rest))
    rw [written, List.append_assoc, List.append_assoc, readGroups, hseparator]
    simp only [Option.bind_eq_bind, Option.bind_some, read?_digitsOf g hnext, ite_self,
      group?_digitsOf g hnext, hrec, List.length_cons, Nat.add_sub_add_right, List.isEmpty_cons,
      Bool.and_false, Bool.false_and, List.cons_append]

/-- A text behind which no group follows: what stands in front continues no group, and a colon in
front is followed by another one. -/
structure EndsGroups (text : List Char) : Prop extends EndsGroup text where
  /-- Behind a colon in front stands another one. -/
  colon : ∀ rest, text = ':' :: rest → rest.head? = some ':'

/-- Groups end at every character that is neither a digit nor a point nor a colon. -/
theorem endsGroups_cons {c : Char} (hdigit : Hex.isDigit c = false) (hpoint : c ≠ '.')
    (hcolon : c ≠ ':') (rest : List Char) : EndsGroups (c :: rest) where
  toEndsGroup := endsGroup_cons hdigit hpoint rest
  colon _ h := absurd (List.cons.inj h).1 hcolon

/-- Behind a separator, if there is one, no group begins. -/
theorem EndsGroups.endsGroup {text rest : List Char} (h : EndsGroups text) {first : Bool}
    (hrest : separator? first text = some rest) : EndsGroup rest := by
  cases first with
  | true =>
    obtain rfl := Option.some.inj hrest
    exact h.toEndsGroup
  | false =>
    -- Behind a colon a group ends where no other colon follows.
    cases text with
    | nil => exact absurd hrest (by simp [separator?, Chars.expect?])
    | cons c text =>
      by_cases hc : c = ':'
      · subst hc
        obtain rfl : text = rest := Option.some.inj ((Chars.expect?_cons ':' text).symm.trans hrest)
        obtain ⟨more, rfl⟩ := List.head?_eq_some_iff.1 (h.colon text rfl)
        exact endsGroup_cons (by decide) (by decide) more
      · exact absurd hrest (by simp [separator?, Chars.expect?, hc])

/-- Reading groups stops where none follows. -/
theorem readGroups_ends (limit : Nat) (first : Bool) {text : List Char} (h : EndsGroups text) :
    readGroups limit first text = ⟨[], false, text⟩ := by
  cases limit with
  | zero => rfl
  | succ limit =>
    rw [readGroups]
    cases hseparator : separator? first text with
    | none => simp only [Option.bind_eq_bind, Option.bind_none, ite_self]
    | some rest =>
      have hrest := h.endsGroup hseparator
      simp only [Option.bind_eq_bind, Option.bind_some, read?_eq_none_of_endsGroup hrest,
        group?_eq_none hrest, ite_self]

/-- Written groups are read back if none follows. -/
theorem readGroups_written_ends (gs : List UInt16) (first : Bool) {limit : Nat}
    (hlimit : gs.length ≤ limit) {rest : List Char} (hrest : EndsGroups rest) :
    readGroups limit first (written first gs ++ rest) = ⟨gs, false, rest⟩ := by
  rw [readGroups_written gs first hlimit hrest.toEndsGroup, readGroups_ends _ _ hrest]
  simp only [List.append_nil]

/-! ## The gap of an address -/

/-- The text of a gap, which stands between the groups before it and those behind it. -/
theorem endsGroups_gap (text : List Char) : EndsGroups (':' :: ':' :: text) where
  toEndsGroup := endsGroup_cons (by decide) (by decide) _
  colon rest h := by
    rw [← (List.cons.inj h).2]
    rfl

/-- The eight groups of an address make it. -/
theorem ofGroups?_groups (ip : Ipv6) : ofGroups? ip.groups = some ip := by
  rw [ofGroups?, dif_pos ip.length_groups]

/-- A gap is filled with zeros between the groups before it and those behind it. -/
theorem read?_gap {ip : Ipv6} {front : List UInt16} {text : List Char} {tail : Run}
    (hfront : front.length < 8) (htail : readGroups (7 - front.length) true text = tail)
    (hip : front ++ List.replicate (8 - front.length - tail.groups.length) 0 ++ tail.groups =
      ip.groups) :
    read? (written true front ++ ':' :: ':' :: text) = some (ip, tail.rest) := by
  have hhead := readGroups_written_ends front true (Nat.le_of_lt hfront) (endsGroups_gap text)
  rw [read?, hhead]
  dsimp only
  rw [if_neg (Nat.ne_of_lt hfront), if_neg Bool.false_ne_true]
  simp only [Option.bind_eq_bind, Chars.expect?_cons, Option.bind_some, htail, hip,
    ofGroups?_groups]
  rfl

/-- Zero groups in front are as many zeros. -/
theorem takeWhile_zero (gs : List UInt16) :
    gs.takeWhile (· == 0) = List.replicate (gs.takeWhile (· == 0)).length 0 := by
  refine List.eq_replicate_of_mem fun z hz => ?_
  exact eq_of_beq (List.all_eq_true.1 List.all_takeWhile z hz)

/-- The longest run of zero groups consists of zeros: filled in again, it gives the groups back. -/
theorem fill_zeroRun (gs : List UInt16) :
    gs.take (zeroRun gs).1 ++ (List.replicate (zeroRun gs).2 0 ++
      gs.drop ((zeroRun gs).1 + (zeroRun gs).2)) = gs := by
  induction gs with
  | nil => rfl
  | cons g rest ih =>
    rw [zeroRun]
    split
    -- The zeros in front are the run, and what follows them is behind it.
    · have hsplit := List.takeWhile_append_dropWhile (p := (· == (0 : UInt16))) (l := g :: rest)
      have hdrop : (g :: rest).drop ((g :: rest).takeWhile (· == 0)).length =
          (g :: rest).dropWhile (· == 0) := by
        conv => lhs; arg 2; rw [← hsplit]
        exact List.drop_left
      rw [List.take_zero, List.nil_append, Nat.zero_add, ← takeWhile_zero, hdrop, hsplit]
    · rw [Nat.add_right_comm, List.take_succ_cons, List.drop_succ_cons, List.cons_append, ih]

/-! ## Addresses that map IPv4 addresses -/

/-- The halves of a group put together. -/
theorem halves (g : UInt16) : (g >>> 8).toUInt8.toUInt16 <<< 8 ||| g.toUInt8.toUInt16 = g := by
  have hg : g.toNat < 65536 := g.toNat_lt
  have hlow : g.toNat % 256 < 2 ^ 8 := by omega
  have hor := Nat.shiftLeft_add_eq_or_of_lt hlow (g.toNat >>> 8)
  rw [Nat.shiftRight_eq_div_pow, Nat.shiftLeft_eq] at hor
  apply UInt16.toNat_inj.1
  have hhigh : g.toNat / 256 % 256 * 256 % 65536 = g.toNat / 2 ^ 8 * 2 ^ 8 := by omega
  simp only [UInt16.toUInt16_toUInt8, UInt16.toNat_or, UInt16.toNat_shiftLeft, UInt16.toNat_mod,
    UInt16.toNat_shiftRight, UInt16.reduceToNat, Nat.reduceMod, Nat.shiftRight_eq_div_pow,
    Nat.reducePow, Nat.shiftLeft_eq]
  rw [hhigh, ← hor]
  omega

/-- The groups of an address that maps an IPv4 address. -/
theorem groups_of_mapped? {ip : Ipv6} {v4 : Ipv4} (h : ip.mapped? = some v4) :
    ip.groups = List.replicate 5 0 ++ 0xffff :: groupsOfIpv4 v4 := by
  unfold mapped? at h
  split at h
  · rename_i g g' hgroups
    obtain rfl := Option.some.inj h
    rw [hgroups, groupsOfIpv4]
    dsimp only
    rw [halves, halves]
    rfl
  · exact absurd h (by simp)

/-- An IPv4 address is read in place of two groups. -/
theorem readGroups_ipv4 (limit : Nat) (first : Bool) (v4 : Ipv4) {rest : List Char}
    (hrest : EndsGroup rest) :
    readGroups (limit + 2) first (colon first ++ (v4.toText.toList ++ rest)) =
      ⟨groupsOfIpv4 v4, true, rest⟩ := by
  rw [readGroups, separator?_colon, if_neg (Nat.succ_ne_zero limit), Option.bind_eq_bind,
    Option.bind_some, Ipv4.read?_toText v4 hrest.takeWhile]

/-! ## Whole addresses -/

/-- An address that maps an IPv4 address is read back. -/
theorem read?_mapped {ip : Ipv6} {v4 : Ipv4} (h : ip.mapped? = some v4) {rest : List Char}
    (hrest : EndsGroup rest) :
    read? (("::ffff:" ++ v4.toText).toList ++ rest) = some (ip, rest) := by
  have hfront : "::ffff:".toList = ':' :: ':' :: (written true [0xffff] ++ colon false) := rfl
  -- The group in front of the embedded address ends at the colon.
  have hcolon : EndsGroup (colon false ++ (v4.toText.toList ++ rest)) :=
    endsGroup_cons (by decide) (by decide) _
  have htail : readGroups 7 true
      (written true [0xffff] ++ (colon false ++ (v4.toText.toList ++ rest))) =
        ⟨0xffff :: groupsOfIpv4 v4, true, rest⟩ := by
    rw [readGroups_written [0xffff] true (by decide) hcolon]
    exact congrArg (fun more : Run => { more with groups := 0xffff :: more.groups })
      (readGroups_ipv4 4 false v4 hrest)
  rw [String.toList_append, hfront, List.append_assoc, List.cons_append, List.cons_append,
    List.append_assoc]
  have hempty : ([] : List UInt16).length < 8 := by decide
  have hread := read?_gap hempty htail (groups_of_mapped? h).symm
  exact hread

/-- An address in hexadecimal is read back. -/
theorem read?_compressed (ip : Ipv6) {rest : List Char} (hrest : EndsGroups rest) :
    read? (ip.compressed.toList ++ rest) = some (ip, rest) := by
  have hlength := ip.length_groups
  have hfill := fill_zeroRun ip.groups
  have hgap : "::".toList = [':', ':'] := rfl
  rw [compressed]
  split
  · rename_i hrun
    -- The address is the groups in front of the gap, the zeros in it, and the groups behind it.
    generalize hfront : ip.groups.take (zeroRun ip.groups).1 = front at hfill ⊢
    generalize hback :
      ip.groups.drop ((zeroRun ip.groups).1 + (zeroRun ip.groups).2) = back at hfill ⊢
    generalize (zeroRun ip.groups).2 = count at hrun hfill
    have hcount : front.length + (count + back.length) = 8 := by
      rw [← hlength, ← hfill]
      simp
    have htail : readGroups (7 - front.length) true (written true back ++ rest) =
        ⟨back, false, rest⟩ := readGroups_written_ends back true (by omega) hrest
    have hzeros : 8 - front.length - back.length = count := by omega
    rw [String.toList_append, String.toList_append, toList_joined, toList_joined, hgap,
      List.append_assoc, List.append_assoc, List.cons_append, List.cons_append, List.nil_append]
    refine read?_gap (by omega) htail ?_
    rw [hzeros, List.append_assoc, hfill]
  -- Without a run of zeros all eight groups are written.
  · have hread := readGroups_written_ends ip.groups true (Nat.le_of_eq hlength) hrest
    rw [toList_joined, read?, hread]
    dsimp only
    rw [if_pos hlength, ofGroups?_groups]
    rfl

/-- **A written IPv6 address is read back** if no group follows. -/
theorem read?_toText (ip : Ipv6) {rest : List Char} (hrest : EndsGroups rest) :
    read? (ip.toText.toList ++ rest) = some (ip, rest) := by
  rw [toText]
  cases hmapped : ip.mapped? with
  | some v4 => exact read?_mapped hmapped hrest.toEndsGroup
  | none => exact read?_compressed ip hrest

/-- Nothing ends the groups of an address. -/
theorem endsGroups_nil : EndsGroups [] where
  digit := rfl
  point := by simp
  colon rest h := absurd h (by simp)

/-- The text of an address is read back. -/
theorem ofText?_toText (ip : Ipv6) : ofText? ip.toText.toList = some ip := by
  have hread := read?_toText ip endsGroups_nil
  rw [List.append_nil] at hread
  rw [ofText?, hread]

/-- An address in hexadecimal is read back too, also one that maps an IPv4 address. -/
theorem ofText?_compressed (ip : Ipv6) : ofText? ip.compressed.toList = some ip := by
  have hread := read?_compressed ip endsGroups_nil
  rw [List.append_nil] at hread
  rw [ofText?, hread]

/-! ## What an address is written with -/

/-- What is written of groups consists of colons and hexadecimal digits. -/
theorem mem_written {gs : List UInt16} {first : Bool} {c : Char} (h : c ∈ written first gs) :
    c = ':' ∨ c ∈ Hex.digits := by
  induction gs generalizing first with
  | nil => exact absurd h (by simp [written])
  | cons g gs ih =>
    rw [written, List.mem_append, List.mem_append] at h
    rcases h with h | h | h
    · cases first with
      | true => exact absurd h (by simp [colon])
      | false => exact .inl (List.mem_singleton.1 h)
    · exact .inr (Hex.mem_digits_of_mem_toDigits (by decide) (by decide) h)
    · exact ih h

/-- So do groups with colons between them. -/
theorem mem_joined {gs : List UInt16} {c : Char} (h : c ∈ (joined gs).toList) :
    c = ':' ∨ c ∈ Hex.digits :=
  mem_written (toList_joined gs ▸ h)

/-- So does a compressed address. -/
theorem mem_compressed {ip : Ipv6} {c : Char} (h : c ∈ ip.compressed.toList) :
    c = ':' ∨ c ∈ Hex.digits := by
  have hgap : ∀ c ∈ "::".toList, c = ':' := forall_mem_of_all (by decide)
  rw [compressed] at h
  split at h
  · rw [String.toList_append, String.toList_append, List.mem_append, List.mem_append] at h
    rcases h with (h | h) | h
    · exact mem_joined h
    · exact .inl (hgap c h)
    · exact mem_joined h
  · exact mem_joined h

/-- The text of an address consists of colons, points and hexadecimal digits. -/
theorem mem_toText {ip : Ipv6} {c : Char} (h : c ∈ ip.toText.toList) :
    c = ':' ∨ c = '.' ∨ c ∈ Hex.digits := by
  have hmapped : ∀ c ∈ "::ffff:".toList, c = ':' ∨ c ∈ Hex.digits := forall_mem_of_all (by decide)
  rw [toText] at h
  split at h
  · rw [String.toList_append, List.mem_append] at h
    rcases h with h | h
    · exact (hmapped c h).imp_right .inr
    · exact .inr (Ipv4.mem_toText h)
  · exact (mem_compressed h).imp_right .inr

end Muster.Net.Ipv6
