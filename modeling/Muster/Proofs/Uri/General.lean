import Mathlib.Data.List.TakeWhile
import Muster.Proofs.Text.Numeral
import Muster.Uri.Basic

/-!
# URIs of a general scheme are read part by part

A URI with a host, a port and a path of one segment is read as what it is written from
(`ofText?_place`), if its characters are plain: none is dropped at the margins, ends a part or has
to be percent-encoded. The colon in front of the port is the first one outside brackets, so the
host may be an IPv6 address.
-/

namespace Muster.Uri

/-- A character that is kept as it is wherever it stands and ends no part of a URI. -/
def isPlain (c : Char) : Bool :=
  !isMargin c && !endsPath c && c != '/' && c != '@' && c.toNat ≤ 0x7e && c ∉ Percent.path

section Plain

variable {c : Char} {text : List Char}

/-- What it takes for a character to be plain. -/
theorem isPlain_iff : isPlain c = true ↔ isMargin c = false ∧ endsPath c = false ∧ c ≠ '/' ∧
    c ≠ '@' ∧ c.toNat ≤ 0x7e ∧ c ∉ Percent.path := by
  simp [isPlain, and_assoc]

/-- A text without margins is tidy. -/
theorem tidy_eq_self (h : ∀ c ∈ text, isMargin c = false) : tidy text = text := by
  have hfront : ∀ text : List Char, (∀ c ∈ text, isMargin c = false) →
      text.dropWhile isMargin = text := by
    intro text htext
    refine Decimal.dropWhile_of_takeWhile ?_
    cases text with
    | nil => rfl
    | cons c rest => exact List.takeWhile_cons_of_neg (by simp [htext c])
  have hback : text.reverse.dropWhile isMargin = text.reverse :=
    hfront _ fun c hc => h c (List.mem_reverse.1 hc)
  rw [tidy, hfront text h, hback, List.reverse_reverse, List.filter_eq_self]
  -- Tabs and line ends count as margins.
  intro c hc
  have hkept : ∀ d, isMargin d = true → c ≠ d := by
    rintro d hd rfl
    exact absurd (hd.symm.trans (h c hc)) (by decide)
  simp [hkept '\t' rfl, hkept '\n' rfl, hkept '\r' rfl]

/-- Plain characters are not percent-encoded. -/
theorem encode_plain {reserved : Percent.Reserved} (hreserved : reserved ⊆ Percent.path)
    (h : ∀ c ∈ text, isPlain c = true) : Percent.encode reserved text = text := by
  induction text with
  | nil => rfl
  | cons c rest ih =>
    obtain ⟨hmargin, -, -, -, hascii, hpath⟩ := isPlain_iff.1 (h c List.mem_cons_self)
    -- A plain character is none of those that are encoded.
    have hchar : Percent.encodeChar reserved c = [c] := by
      refine if_neg ?_
      simp only [isMargin, decide_eq_false_iff_not] at hmargin
      rintro (hlow | hhigh | hmem)
      · omega
      · omega
      · exact hpath (hreserved hmem)
    have hrest := ih fun d hd => h d (List.mem_cons_of_mem _ hd)
    rw [Percent.encode, List.flatMap_cons, hchar, List.singleton_append]
    exact congrArg (c :: ·) hrest

/-- No plain character ends the authority of a general scheme. -/
theorem not_endsAuthority (h : isPlain c = true) :
    SchemeKind.general.endsAuthority c = false := by
  obtain ⟨-, hends, hslash, -⟩ := isPlain_iff.1 h
  simp [endsPath] at hends
  simp [SchemeKind.endsAuthority, SchemeKind.isSlash, SchemeKind.isSpecial, hslash, hends]

end Plain

/-! ## Hosts -/

/-- The text in front of a colon outside brackets names the host. -/
theorem hostLength_append {name rest : List Char} {inBrackets : Bool}
    (h : ∀ c ∈ name, c ≠ '[' ∧ c ≠ ']' ∧ (c = ':' → inBrackets = true)) :
    hostLength inBrackets (name ++ rest) = name.length + hostLength inBrackets rest := by
  induction name with
  | nil => rw [List.nil_append, List.length_nil, Nat.zero_add]
  | cons c name ih =>
    obtain ⟨hopen, hclose, hcolon⟩ := h c List.mem_cons_self
    have hrest := ih fun d hd => h d (List.mem_cons_of_mem _ hd)
    -- The colon of a name counts only within brackets, where it does not end the host.
    have hstep : hostLength inBrackets (c :: (name ++ rest)) =
        hostLength inBrackets (name ++ rest) + 1 := by
      by_cases hc : c = ':'
      · subst hc
        rw [hostLength, if_pos (hcolon rfl)]
      · rw [hostLength]
        · exact hc
        · exact hopen
        · exact hclose
    rw [List.cons_append, List.length_cons, hstep, hrest, Nat.add_right_comm]

/-- A text without delimiters names a host of a general scheme. -/
theorem general?_plain {name : List Char} (hne : name ≠ []) (hplain : ∀ c ∈ name, isPlain c = true)
    (hallowed : ∀ c ∈ name, c ∉ Host.forbidden) : Host.general? name = .ok (.domain name) := by
  unfold Host.general?
  split
  · exact absurd (hallowed '[' List.mem_cons_self) (by decide)
  · exact absurd rfl hne
  · rw [encode_plain (by simp [Percent.controls]) hplain, if_neg (by simpa using hallowed)]

/-- A written IPv6 address in brackets names a host. -/
theorem general?_brackets {text : List Char} {ip : Net.Ipv6} (h : Net.Ipv6.ofText? text = some ip) :
    Host.general? ('[' :: (text ++ [']'])) = .ok (.ipv6 ip) := by
  rw [Host.general?, Host.ofBrackets?, if_pos (by simp), List.dropLast_concat, h]

/-! ## Ports and paths -/

/-- A written port is read in front of a path. -/
theorem readPort_ofNat (port : UInt16) (path : List Char) :
    readPort .general ((Decimal.ofNat port.toNat).toList ++ '/' :: path) =
      .ok (some port, '/' :: path) := by
  have hport : port.toNat < 65536 := port.toNat_lt
  have hread : Decimal.magnitude 65535 .tooLarge 0 (Decimal.ofNat port.toNat).toList =
      .ok port.toNat := Decimal.magnitude_ofNat .tooLarge (Nat.le_of_lt_succ hport)
  have hslash : ('/' :: path).takeWhile Char.isDigit = [] :=
    List.takeWhile_cons_of_neg (by decide)
  rw [readPort, Decimal.takeWhile_ofNat _ hslash, Decimal.dropWhile_ofNat _ hslash, hread]
  dsimp only
  -- A general scheme has no port that goes without saying.
  have hwritten : ¬ ((Decimal.ofNat port.toNat).toList.isEmpty = true ∨
      SchemeKind.general = .special (UInt16.ofNat port.toNat)) := by
    rw [List.isEmpty_iff, not_or]
    exact ⟨Decimal.ofNat_ne_nil _, by simp⟩
  rw [if_pos (by decide), readPort.port, if_neg hwritten, UInt16.ofNat_toNat]

/-- A segment that begins with no point does not move. -/
theorem dropPoint?_cons {c : Char} (hpoint : c ≠ '.') (hpercent : c ≠ '%') (rest : List Char) :
    Path.dropPoint? (c :: rest) = none := by
  unfold Path.dropPoint?
  split
  · rename_i hcons
    exact absurd (List.cons.inj hcons).1 hpoint
  · rename_i hcons
    exact absurd (List.cons.inj hcons).1 hpercent
  · rename_i hcons
    exact absurd (List.cons.inj hcons).1 hpercent
  · rfl

/-- A path of one plain segment that does not move is read as it is. -/
theorem ofText_segment {segment : List Char} (hplain : ∀ c ∈ segment, isPlain c = true)
    (hmoves : Path.dropPoint? segment = none) :
    Path.ofText SchemeKind.general.isSlash segment = '/' :: segment := by
  have hsplit : segment.splitOnP SchemeKind.general.isSlash = [segment] := by
    refine List.splitOnP_eq_singleton fun c hc => ?_
    obtain ⟨-, -, hslash, -⟩ := isPlain_iff.1 (hplain c hc)
    simp [SchemeKind.isSlash, SchemeKind.isSpecial, hslash]
  have hdots : Path.isDoubleDot segment = false ∧ Path.isSingleDot segment = false := by
    rw [Path.isDoubleDot, Path.isSingleDot, hmoves]
    exact ⟨rfl, rfl⟩
  rw [Path.ofText, Path.segments, hsplit, List.map_singleton, encode_plain (List.Subset.refl _)
    hplain, Path.resolve, hdots.1, hdots.2]
  simp [Path.toText]

/-- Behind the authority, a path of one plain segment is read to the end. -/
theorem afterAuthority_segment {scheme segment : List Char} {authority : Authority}
    (hplain : ∀ c ∈ segment, isPlain c = true) (hmoves : Path.dropPoint? segment = none) :
    afterAuthority .general scheme authority ('/' :: segment) =
      ⟨scheme, some authority, '/' :: segment, none, none⟩ := by
  -- Neither the slash nor the segment ends the path.
  have hkept : ∀ c ∈ '/' :: segment, (!endsPath c) = true := by
    intro c hc
    rcases List.mem_cons.1 hc with rfl | hc
    · rfl
    · rw [(isPlain_iff.1 (hplain c hc)).2.1]
      rfl
  have htake : ('/' :: segment).takeWhile (!endsPath ·) = '/' :: segment :=
    List.takeWhile_eq_self_iff.2 hkept
  have hdrop : ('/' :: segment).dropWhile (!endsPath ·) = [] :=
    List.dropWhile_eq_nil_iff.2 hkept
  have hslash : SchemeKind.general.isSlash '/' = true := rfl
  rw [afterAuthority, htake, hdrop]
  dsimp only
  rw [if_pos hslash, ofText_segment hplain hmoves]
  rfl

/-! ## The whole URI -/

/-- Host and port as they are written in front of the path. -/
def place (name : List Char) (port : UInt16) : List Char :=
  name ++ ':' :: (Decimal.ofNat port.toNat).toList

variable {scheme name segment : List Char} {host : Host} {port : UInt16}

/-- A plain host makes a plain place. -/
theorem isPlain_place (hname : ∀ c ∈ name, isPlain c = true) :
    ∀ c ∈ place name port, isPlain c = true := by
  have hdigits : ∀ c ∈ Hex.digits, isPlain c = true := forall_mem_of_all (by decide)
  intro c hc
  rcases List.mem_append.1 hc with hc | hc
  · exact hname c hc
  · rcases List.mem_cons.1 hc with rfl | hc
    · decide
    · exact hdigits c (Decimal.mem_digits_of_mem_ofNat hc)

/-- The authority ends at the first slash. -/
theorem split_plain {front : List Char} (h : ∀ c ∈ front, isPlain c = true) (rest : List Char) :
    (front ++ '/' :: rest).takeWhile (!SchemeKind.general.endsAuthority ·) = front ∧
      (front ++ '/' :: rest).dropWhile (!SchemeKind.general.endsAuthority ·) = '/' :: rest := by
  have hkept : ∀ c ∈ front, (!SchemeKind.general.endsAuthority c) = true := by
    intro c hc
    rw [not_endsAuthority (h c hc)]
    rfl
  rw [List.takeWhile_append_of_pos hkept, List.dropWhile_append_of_pos hkept,
    List.takeWhile_cons_of_neg (by decide), List.dropWhile_cons_of_neg (by decide),
    List.append_nil]
  exact ⟨rfl, rfl⟩

/-- A place falls into the name of the host, the colon and the port. -/
theorem place_eq (name : List Char) (port : UInt16) :
    (place name port).take name.length = name ∧
      (place name port).drop name.length = ':' :: (Decimal.ofNat port.toNat).toList ∧
      (place name port).drop (name.length + 1) = (Decimal.ofNat port.toNat).toList := by
  have hdrop : (place name port).drop name.length = ':' :: (Decimal.ofNat port.toNat).toList :=
    List.drop_left
  refine ⟨List.take_left, hdrop, ?_⟩
  rw [← List.drop_drop, hdrop, List.drop_one, List.tail_cons]

/-- Behind `//`, a host, a port and a segment are read as what they are written from. -/
theorem afterSlashes_place (hname : ∀ c ∈ name, isPlain c = true)
    (hlength : ∀ rest, hostLength false (name ++ ':' :: rest) = name.length)
    (hhost : Host.general? name = .ok host) (hne : host ≠ .empty)
    (hplain : ∀ c ∈ segment, isPlain c = true) (hmoves : Path.dropPoint? segment = none) :
    afterSlashes .general scheme (place name port ++ '/' :: segment) =
      .ok ⟨scheme, some ⟨none, host, some port⟩, '/' :: segment, none, none⟩ := by
  have hplace : ∀ c ∈ place name port, isPlain c = true := isPlain_place hname
  obtain ⟨hfront, hrest⟩ := split_plain hplace segment
  obtain ⟨htake, hdrop, hport⟩ := place_eq name port
  -- There is no user in front of the host.
  have hat : '@' ∉ place name port := fun hmem => absurd (hplace '@' hmem) (by decide)
  have hnobody : userinfo [] = none := rfl
  have hcolon : (!(':' :: (Decimal.ofNat port.toNat).toList).isEmpty) = true := rfl
  have hfull : (place name port).isEmpty = false := by simp [place]
  have hspecial : ¬ SchemeKind.general.isSpecial = true := by decide
  rw [afterSlashes, hfront, hrest, Chars.splitLast?_eq_none hat]
  dsimp only [Option.getD_none]
  rw [place, hlength, ← place, htake, hdrop, hport, hhost, readPort_ofNat, hnobody,
    if_neg (by simp [hfull]), if_neg hspecial]
  dsimp only [bind, Except.bind]
  rw [if_neg fun h => hne h.1, if_pos hcolon, afterAuthority_segment hplain hmoves]
  rfl

/-- **A URI of a general scheme with a host, a port and one segment is read as its parts.** -/
theorem ofText?_place {text : String}
    (htext : text.toList = scheme ++ ':' :: '/' :: '/' :: (place name port ++ '/' :: segment))
    (hscheme : ∀ rest, scheme? (scheme ++ ':' :: rest) = some (scheme, rest))
    (hkind : SchemeKind.ofScheme scheme = .general) (hmargin : ∀ c ∈ scheme, isMargin c = false)
    (hname : ∀ c ∈ name, isPlain c = true)
    (hlength : ∀ rest, hostLength false (name ++ ':' :: rest) = name.length)
    (hhost : Host.general? name = .ok host) (hne : host ≠ .empty)
    (hplain : ∀ c ∈ segment, isPlain c = true) (hmoves : Path.dropPoint? segment = none) :
    ofText? text = .ok ⟨scheme, some ⟨none, host, some port⟩, '/' :: segment, none, none⟩ := by
  have hslash : isMargin '/' = false := rfl
  have hkept : ∀ {c}, isPlain c = true → isMargin c = false := fun hc => (isPlain_iff.1 hc).1
  -- There is nothing to trim at the margins.
  have htidy : ∀ c ∈ text.toList, isMargin c = false := by
    intro c hc
    rw [htext] at hc
    simp only [List.mem_append, List.mem_cons] at hc
    rcases hc with hc | rfl | rfl | rfl | hc | rfl | hc
    · exact hmargin c hc
    · rfl
    · exact hslash
    · exact hslash
    · exact hkept (isPlain_place hname c hc)
    · exact hslash
    · exact hkept (hplain c hc)
  rw [ofText?, tidy_eq_self htidy, htext, hscheme]
  dsimp only
  rw [hkind]
  exact afterSlashes_place hname hlength hhost hne hplain hmoves

end Muster.Uri
