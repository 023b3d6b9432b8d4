import ElementQuery.Proofs.Outcome
import ElementQuery.Text.Utf8
import Mathlib.Tactic.SplitIfs

/-!
# Bytes that are text

Bytes are decoded exactly if they are the encodings of characters, one after the other, and then to
these characters: the bounds of the bytes behind a first byte leave out surrogates, numbers beyond
the last code point, and characters that could be written with fewer bytes.

## Main definitions

* `encode` : the bytes of a character.
* `InBounds` : the bytes between bounds.

## Main statements

* `encode_charOf`, `exists_bounds_of_encode` : the bytes within bounds are those of a character.
* `decode_eq_ok_iff` : which bytes are decoded, and to what.
-/

namespace ElementQuery.Text.Utf8

/-- The bytes of a character. -/
def encode (c : Char) : List Nat := (String.utf8EncodeChar c).map UInt8.toNat

/-- Whether a byte lies between bounds. -/
def InBounds (bounds : Nat × Nat) (b : Nat) : Prop := bounds.1 ≤ b ∧ b ≤ bounds.2

/-- The encoding of a character by its code. -/
theorem encode_ofNat {code : Nat} (h : code.isValidChar) : encode (Char.ofNat code) =
    if code ≤ 0x7F then [code]
    else if code ≤ 0x7FF then [code / 64 + 192, code % 64 + 128]
    else if code ≤ 0xFFFF then [code / 4096 + 224, code / 64 % 64 + 128, code % 64 + 128]
    else [code / 262144 + 240, code / 4096 % 64 + 128, code / 64 % 64 + 128, code % 64 + 128] := by
  have hcode : (Char.ofNat code).val.toNat = code := by
    rw [Char.ofNat, dif_pos h]
    rfl
  have hlast : code < 0x110000 := by
    rcases h with h | h <;> omega
  simp only [encode, String.utf8EncodeChar, hcode]
  split_ifs <;> simp [UInt8.toNat_ofNat'] <;> omega

/-- Two bytes within bounds. -/
theorem encode_charOf_pair {first b : Nat} (hleast : 0xC2 ≤ first) (hgreatest : first ≤ 0xDF)
    (hb : 0x80 ≤ b ∧ b ≤ 0xBF) : encode (charOf first [b]) = [first, b] := by
  change encode (Char.ofNat (first % 0x20 * 0x40 + b % 0x40)) = _
  have hfirst : (first % 0x20 * 0x40 + b % 0x40) / 64 + 192 = first := by omega
  have hlast : (first % 0x20 * 0x40 + b % 0x40) % 64 + 128 = b := by omega
  rw [encode_ofNat (.inl (by omega)), if_neg (by omega), if_pos (by omega), hfirst, hlast]

/-- Three bytes within bounds. The bounds of the second one leave out what has fewer bytes, and
surrogates. -/
theorem encode_charOf_triple {first b b' : Nat} (hleast : 0xE0 ≤ first) (hgreatest : first ≤ 0xEF)
    (hb : 0x80 ≤ b ∧ b ≤ 0xBF) (hb' : 0x80 ≤ b' ∧ b' ≤ 0xBF) (hshort : first = 0xE0 → 0xA0 ≤ b)
    (hsurrogate : first = 0xED → b ≤ 0x9F) : encode (charOf first [b, b']) = [first, b, b'] := by
  change encode (Char.ofNat ((first % 0x10 * 0x40 + b % 0x40) * 0x40 + b' % 0x40)) = _
  generalize hcode : (first % 0x10 * 0x40 + b % 0x40) * 0x40 + b' % 0x40 = code
  have hvalid : code.isValidChar := by
    rw [Nat.isValidChar]
    omega
  have hfirst : code / 4096 + 224 = first := by omega
  have hmiddle : code / 64 % 64 + 128 = b := by omega
  have hlast : code % 64 + 128 = b' := by omega
  rw [encode_ofNat hvalid, if_neg (by omega), if_neg (by omega), if_pos (by omega), hfirst, hmiddle,
    hlast]

/-- Four bytes within bounds. The bounds of the second one leave out what has fewer bytes, and
numbers beyond the last code point. -/
theorem encode_charOf_quadruple {first b b' b'' : Nat} (hleast : 0xF0 ≤ first)
    (hgreatest : first ≤ 0xF4) (hb : 0x80 ≤ b ∧ b ≤ 0xBF) (hb' : 0x80 ≤ b' ∧ b' ≤ 0xBF)
    (hb'' : 0x80 ≤ b'' ∧ b'' ≤ 0xBF) (hshort : first = 0xF0 → 0x90 ≤ b)
    (hbeyond : first = 0xF4 → b ≤ 0x8F) :
    encode (charOf first [b, b', b'']) = [first, b, b', b''] := by
  change encode (Char.ofNat
    (((first % 0x08 * 0x40 + b % 0x40) * 0x40 + b' % 0x40) * 0x40 + b'' % 0x40)) = _
  generalize hcode :
    ((first % 0x08 * 0x40 + b % 0x40) * 0x40 + b' % 0x40) * 0x40 + b'' % 0x40 = code
  have hfirst : code / 262144 + 240 = first := by omega
  have hsecond : code / 4096 % 64 + 128 = b := by omega
  have hthird : code / 64 % 64 + 128 = b' := by omega
  have hlast : code % 64 + 128 = b'' := by omega
  rw [encode_ofNat (.inr (by omega)), if_neg (by omega), if_neg (by omega), if_neg (by omega),
    hfirst, hsecond, hthird, hlast]

/-- The bytes within the bounds of a first byte are those of a character. -/
theorem encode_charOf {first : Nat} {bounds : List (Nat × Nat)} {tail : List Nat}
    (hfirst : tailBounds? first = some bounds) (htail : List.Forall₂ InBounds bounds tail) :
    encode (charOf first tail) = first :: tail := by
  rw [tailBounds?] at hfirst
  split_ifs at hfirst <;> cases hfirst <;>
    simp only [List.forall₂_cons_left_iff, List.forall₂_nil_left_iff, InBounds, anyTail] at htail
  · subst htail
    change encode (Char.ofNat first) = _
    rw [encode_ofNat (.inl (by omega)), if_pos (by omega)]
  · obtain ⟨b, _, hb, rfl, rfl⟩ := htail
    exact encode_charOf_pair (by omega) (by omega) hb
  · obtain ⟨b, _, hb, ⟨b', _, hb', rfl, rfl⟩, rfl⟩ := htail
    exact encode_charOf_triple (by omega) (by omega) (by omega) hb' (by omega) (by omega)
  · obtain ⟨b, _, hb, ⟨b', _, hb', rfl, rfl⟩, rfl⟩ := htail
    exact encode_charOf_triple (by omega) (by omega) (by omega) hb' (by omega) (by omega)
  · obtain ⟨b, _, hb, ⟨b', _, hb', rfl, rfl⟩, rfl⟩ := htail
    exact encode_charOf_triple (by omega) (by omega) hb hb' (by omega) (by omega)
  · obtain ⟨b, _, hb, ⟨b', _, hb', ⟨b'', _, hb'', rfl, rfl⟩, rfl⟩, rfl⟩ := htail
    exact encode_charOf_quadruple (by omega) (by omega) (by omega) hb' hb'' (by omega) (by omega)
  · obtain ⟨b, _, hb, ⟨b', _, hb', ⟨b'', _, hb'', rfl, rfl⟩, rfl⟩, rfl⟩ := htail
    exact encode_charOf_quadruple (by omega) (by omega) hb hb' hb'' (by omega) (by omega)
  · obtain ⟨b, _, hb, ⟨b', _, hb', ⟨b'', _, hb'', rfl, rfl⟩, rfl⟩, rfl⟩ := htail
    exact encode_charOf_quadruple (by omega) (by omega) (by omega) hb' hb'' (by omega) (by omega)

theorem exists_ofNat (c : Char) : ∃ code : Nat, code.isValidChar ∧ Char.ofNat code = c :=
  ⟨c.toNat, c.valid, Char.ofNat_toNat c⟩

/-- The bytes of a character are those of no other one. -/
theorem encode_injective {c d : Char} (h : encode c = encode d) : c = d := by
  obtain ⟨m, hm, rfl⟩ := exists_ofNat c
  obtain ⟨n, hn, rfl⟩ := exists_ofNat d
  have hmLast : m < 0x110000 := by rcases hm with hm | hm <;> omega
  have hnLast : n < 0x110000 := by rcases hn with hn | hn <;> omega
  rw [encode_ofNat hm, encode_ofNat hn] at h
  have hcode : m = n := by
    split_ifs at h <;> simp only [List.cons.injEq, reduceCtorEq, and_false, and_true] at h <;> omega
  rw [hcode]

/-- The bytes of a character lie within the bounds of the first one. -/
theorem exists_bounds_of_encode (c : Char) : ∃ first bounds tail, encode c = first :: tail ∧
    tailBounds? first = some bounds ∧ List.Forall₂ InBounds bounds tail := by
  obtain ⟨code, hvalid, rfl⟩ := exists_ofNat c
  have hcode := hvalid
  rw [Nat.isValidChar] at hcode
  have hany : ∀ n, InBounds anyTail (n % 64 + 128) := by
    intro n
    simp only [InBounds, anyTail]
    omega
  rw [encode_ofNat hvalid]
  split_ifs with hone htwo hthree
  · exact ⟨_, [], [], rfl, by rw [tailBounds?, if_pos hone], .nil⟩
  · refine ⟨_, [anyTail], _, rfl, ?_, .cons (hany _) .nil⟩
    rw [tailBounds?, if_neg (by omega), if_neg (by omega), if_pos (by omega)]
  · -- The bounds of the second byte depend on the first one.
    obtain ⟨bounds, hbounds, hsecond⟩ : ∃ bounds,
        tailBounds? (code / 4096 + 224) = some [bounds, anyTail] ∧
          InBounds bounds (code / 64 % 64 + 128) := by
      rw [tailBounds?, if_neg (by omega), if_neg (by omega), if_neg (by omega)]
      split_ifs <;> first | exact ⟨_, rfl, by simp only [InBounds, anyTail]; omega⟩ | omega
    exact ⟨_, _, _, rfl, hbounds, .cons hsecond (.cons (hany _) .nil)⟩
  · obtain ⟨bounds, hbounds, hsecond⟩ : ∃ bounds,
        tailBounds? (code / 262144 + 240) = some [bounds, anyTail, anyTail] ∧
          InBounds bounds (code / 4096 % 64 + 128) := by
      rw [tailBounds?, if_neg (by omega), if_neg (by omega), if_neg (by omega), if_neg (by omega),
        if_neg (by omega), if_neg (by omega)]
      split_ifs <;> first | exact ⟨_, rfl, by simp only [InBounds, anyTail]; omega⟩ | omega
    exact ⟨_, _, _, rfl, hbounds, .cons hsecond (.cons (hany _) (.cons (hany _) .nil))⟩

/-- A byte of a character that has begun is within its bounds, and the others follow it. -/
theorem decodeFrom_begun_eq_ok_iff {position first b : Nat} {begun bytes : List Nat}
    {bounds : Nat × Nat} {lacking : List (Nat × Nat)} {cs : List Char} :
    decodeFrom position (first :: begun) (bounds :: lacking) (b :: bytes) = .ok cs ↔
      InBounds bounds b ∧ match lacking with
        | [] => ∃ cs', cs = charOf first (begun ++ [b]) :: cs' ∧
            decodeFrom (position + 1) [] [] bytes = .ok cs'
        | lacking =>
            decodeFrom (position + 1) (first :: (begun ++ [b])) lacking bytes = .ok cs := by
  obtain ⟨least, greatest⟩ := bounds
  have hbounds : InBounds (least, greatest) b ↔ ¬(b < least ∨ greatest < b) := by
    rw [not_or, Nat.not_lt, Nat.not_lt]
    rfl
  rw [decodeFrom, hbounds]
  split
  · next hout => exact iff_of_false nofun fun h => h.1 hout
  · next hin =>
    rw [and_iff_right hin]
    cases lacking with
    | nil =>
      rw [bind_eq_ok_iff]
      exact exists_congr fun cs' => ⟨fun ⟨hrest, hcs⟩ => ⟨(Except.ok.inj hcs).symm, hrest⟩,
        fun ⟨hcs, hrest⟩ => ⟨hrest, hcs ▸ rfl⟩⟩
    | cons => rfl

/-- The bytes that a character that has begun still lacks are those within the bounds, and the text
goes on behind them. -/
theorem decodeFrom_lacking_eq_ok_iff {position first : Nat} {begun bytes : List Nat}
    {bounds : Nat × Nat} {lacking : List (Nat × Nat)} {cs : List Char} :
    decodeFrom position (first :: begun) (bounds :: lacking) bytes = .ok cs ↔
      ∃ tail rest cs', List.Forall₂ InBounds (bounds :: lacking) tail ∧ bytes = tail ++ rest ∧
        cs = charOf first (begun ++ tail) :: cs' ∧
        decodeFrom (position + tail.length) [] [] rest = .ok cs' := by
  induction bytes generalizing position begun bounds lacking with
  | nil =>
    rw [decodeFrom]
    refine iff_of_false nofun ?_
    rintro ⟨tail, rest, cs', htail, hbytes, -⟩
    cases htail
    cases hbytes
  | cons b bytes ih =>
    rw [decodeFrom_begun_eq_ok_iff]
    constructor
    · rintro ⟨hb, hmore⟩
      cases lacking with
      | nil =>
        obtain ⟨cs', hcs, hrest⟩ := hmore
        exact ⟨[b], bytes, cs', .cons hb .nil, rfl, hcs, hrest⟩
      | cons next lacking =>
        obtain ⟨tail, rest, cs', htail, rfl, hcs, hrest⟩ := ih.1 hmore
        refine ⟨b :: tail, rest, cs', .cons hb htail, rfl, ?_, ?_⟩
        · rwa [List.append_assoc] at hcs
        · rwa [List.length_cons, Nat.add_comm tail.length, ← Nat.add_assoc]
    · rintro ⟨_, rest, cs', ⟨⟩ | ⟨hb, htail⟩, hbytes, hcs, hrest⟩
      obtain ⟨rfl, rfl⟩ := List.cons.inj hbytes
      refine ⟨hb, ?_⟩
      cases lacking with
      | nil =>
        cases htail
        exact ⟨cs', hcs, hrest⟩
      | cons next lacking =>
        refine ih.2 ⟨_, rest, cs', htail, rfl, ?_, ?_⟩
        · rwa [List.append_assoc]
        · rwa [List.length_cons, Nat.add_comm _ 1, ← Nat.add_assoc] at hrest

/-- A text starts with the character of a first byte and the bytes within its bounds. -/
theorem decodeFrom_cons_eq_ok_iff {position first : Nat} {bytes : List Nat} {cs : List Char} :
    decodeFrom position [] [] (first :: bytes) = .ok cs ↔
      ∃ bounds tail rest cs', tailBounds? first = some bounds ∧
        List.Forall₂ InBounds bounds tail ∧ bytes = tail ++ rest ∧
        cs = charOf first tail :: cs' ∧
        decodeFrom (position + 1 + tail.length) [] [] rest = .ok cs' := by
  rw [decodeFrom]
  cases hfirst : tailBounds? first with
  | none =>
    refine iff_of_false nofun ?_
    rintro ⟨_, _, _, _, ⟨⟩, -⟩
  | some bounds =>
    cases bounds with
    | nil =>
      rw [bind_eq_ok_iff]
      constructor
      · rintro ⟨cs', hrest, ⟨⟩⟩
        exact ⟨[], [], bytes, cs', rfl, .nil, rfl, rfl, hrest⟩
      · rintro ⟨_, _, rest, cs', ⟨⟩, ⟨⟩, rfl, rfl, hrest⟩
        exact ⟨cs', hrest, rfl⟩
    | cons bounds lacking =>
      change decodeFrom (position + 1) [first] (bounds :: lacking) bytes = .ok cs ↔ _
      rw [decodeFrom_lacking_eq_ok_iff]
      constructor
      · rintro ⟨tail, rest, cs', htail, hbytes, hcs, hrest⟩
        exact ⟨_, tail, rest, cs', rfl, htail, hbytes, hcs, hrest⟩
      · rintro ⟨_, tail, rest, cs', ⟨⟩, htail, hbytes, hcs, hrest⟩
        exact ⟨tail, rest, cs', htail, hbytes, hcs, hrest⟩

/-- Bytes are decoded exactly as the characters that they encode. -/
theorem decodeFrom_eq_ok_iff {position : Nat} {bytes : List Nat} {cs : List Char} :
    decodeFrom position [] [] bytes = .ok cs ↔ bytes = cs.flatMap encode := by
  constructor
  · -- By induction on how many bytes are left, as a character takes one or more of them.
    intro h
    induction hlength : bytes.length using Nat.strongRecOn generalizing position bytes cs with
    | _ n ih =>
      subst hlength
      cases bytes with
      | nil =>
        cases h
        rfl
      | cons first bytes =>
        obtain ⟨bounds, tail, rest, cs', hfirst, htail, rfl, rfl, hrest⟩ :=
          decodeFrom_cons_eq_ok_iff.1 h
        have hshorter : rest.length < (first :: (tail ++ rest)).length := by
          rw [List.length_cons, List.length_append]
          omega
        rw [List.flatMap_cons, encode_charOf hfirst htail, ← ih _ hshorter hrest rfl,
          List.cons_append]
  · rintro rfl
    induction cs generalizing position with
    | nil => rfl
    | cons c cs ih =>
      obtain ⟨first, bounds, tail, hc, hfirst, htail⟩ := exists_bounds_of_encode c
      rw [List.flatMap_cons, hc, List.cons_append, decodeFrom_cons_eq_ok_iff]
      refine ⟨bounds, tail, _, cs, hfirst, htail, rfl, ?_, ih⟩
      rw [encode_injective ((encode_charOf hfirst htail).trans hc.symm)]

/-- Bytes are decoded exactly if they are the encodings of characters, and then to these. -/
theorem decode_eq_ok_iff {bytes : List Nat} {cs : List Char} :
    decode bytes = .ok cs ↔ bytes = cs.flatMap encode :=
  decodeFrom_eq_ok_iff

end ElementQuery.Text.Utf8
