import ElementQuery.Json.Reader
import ElementQuery.Proofs.Selector.Asks

/-!
# JSON texts tell their values

A value without floating point numbers is told by the text that it is printed as: no other value
has this text. Where a value ends in a text is told by the comma or the line feed behind it.

## Main definitions

* `Ends` : the texts that can stand behind a value.
* `HasNoFloat` : the values without floating point numbers.

## Main statements

* `escape_append_inj`, `quote_append_inj` : a character and a string in front of a text.
* `block_append_inj` : items between brackets.
* `HasNoFloat.eq_of_indented` : a value without floating point numbers is told by its text.
-/

namespace ElementQuery.Json

open ElementQuery.Number ElementQuery.Text

theorem length_hexDigits {n : Nat} (h : n < 0x10000) : (hexDigits 4 n).length = 4 := by
  have hlength : (Nat.toDigits 16 n).length ≤ 4 :=
    (Nat.length_toDigits_le_iff (by decide) (by decide)).2 (by omega)
  simp only [hexDigits, List.length_append, List.length_replicate]
  omega

/-- Four hexadecimal digits tell their number. -/
theorem hexDigits_append_inj {m n : Nat} {a b : List Char} (hm : m < 0x10000) (hn : n < 0x10000)
    (h : hexDigits 4 m ++ a = hexDigits 4 n ++ b) : m = n ∧ a = b := by
  obtain ⟨hdigits, hrest⟩ := List.append_inj h (by rw [length_hexDigits hm, length_hexDigits hn])
  have hread (k : Nat) : Regex.ofDigits 16 (hexDigits 4 k) = k := by
    rw [hexDigits, ofDigits_zeros, ofDigits_toDigits (by decide) (by decide)]
  exact ⟨by rw [← hread m, hdigits, hread n], hrest⟩

theorem codeEscape_append {code : Nat} (h : code < 0x10000) (rest : List Char) :
    codeEscape code ++ rest = '\\' :: 'u' :: (hexDigits 4 code ++ rest) := by
  have hescape : codeEscape code = '\\' :: 'u' :: hexDigits 4 code := if_pos h
  rw [hescape, List.cons_append, List.cons_append]

/-- Beyond the basic plane, a code point is written as a pair of halves. -/
theorem exists_codeEscape_append {code : Nat} (h : ¬ code < 0x10000) (hlast : code < 0x110000) :
    ∃ high low, 0xD800 ≤ high ∧ high < 0xDC00 ∧ low < 0xE000 ∧
      code + 0xDC00 = 0x10000 + (high - 0xD800) * 0x400 + low ∧
      ∀ rest, codeEscape code ++ rest =
        '\\' :: 'u' :: (hexDigits 4 high ++ '\\' :: 'u' :: (hexDigits 4 low ++ rest)) := by
  refine ⟨0xD800 + (code - 0x10000) / 0x400, 0xDC00 + (code - 0x10000) % 0x400, by omega, by omega,
    by omega, by omega, fun rest => ?_⟩
  have hescape : codeEscape code = '\\' :: 'u' :: hexDigits 4 (0xD800 + (code - 0x10000) / 0x400) ++
      '\\' :: 'u' :: hexDigits 4 (0xDC00 + (code - 0x10000) % 0x400) := if_neg h
  rw [hescape, List.append_assoc, List.cons_append, List.cons_append, List.cons_append,
    List.cons_append]

/-- An escape by code point tells its character, as no character is half of a pair. -/
theorem codeEscape_append_inj {c d : Char} {a b : List Char}
    (h : codeEscape c.toNat ++ a = codeEscape d.toNat ++ b) : c = d ∧ a = b := by
  have hvalid (c : Char) : c.toNat < 0xD800 ∨ 0xDFFF < c.toNat ∧ c.toNat < 0x110000 := c.valid
  have hc := hvalid c
  have hd := hvalid d
  have hcancel {m n : Nat} {as bs : List Char} (hm : m < 0x10000) (hn : n < 0x10000)
      (h : '\\' :: 'u' :: (hexDigits 4 m ++ as) = '\\' :: 'u' :: (hexDigits 4 n ++ bs)) :
      m = n ∧ as = bs :=
    hexDigits_append_inj hm hn (List.cons.inj (List.cons.inj h).2).2
  by_cases hplane : c.toNat < 0x10000
  · rw [codeEscape_append hplane] at h
    by_cases hplane' : d.toNat < 0x10000
    · rw [codeEscape_append hplane'] at h
      obtain ⟨hcode, hrest⟩ := hcancel hplane hplane' h
      exact ⟨Char.toNat_inj.1 hcode, hrest⟩
    · obtain ⟨high, low, _, _, _, _, hescape⟩ := exists_codeEscape_append hplane' (by omega)
      rw [hescape] at h
      have hhigh := (hcancel hplane (by omega) h).1
      omega
  · obtain ⟨high, low, _, _, _, _, hescape⟩ := exists_codeEscape_append hplane (by omega)
    rw [hescape] at h
    by_cases hplane' : d.toNat < 0x10000
    · rw [codeEscape_append hplane'] at h
      have hhigh := (hcancel (by omega) hplane' h).1
      omega
    · obtain ⟨high', low', _, _, _, _, hescape'⟩ := exists_codeEscape_append hplane' (by omega)
      rw [hescape'] at h
      obtain ⟨hhigh, htail⟩ := hcancel (by omega) (by omega) h
      obtain ⟨hlow, hrest⟩ := hcancel (by omega) (by omega) htail
      exact ⟨Char.toNat_inj.1 (by omega), hrest⟩

/-- How a character can be written: as it is, by a letter or by its code point. -/
theorem escape_cases (c : Char) : (escape c = [c] ∧ c ≠ '\\' ∧ c ≠ '"') ∨
    (∃ letter, escape c = ['\\', letter] ∧ plainEscape? letter = some c) ∨
      escape c = codeEscape c.toNat := by
  rw [escape]
  split
  · next hself =>
    refine .inr (.inl ⟨c, rfl, ?_⟩)
    rcases hself with rfl | rfl <;> rfl
  · next hother =>
    rw [not_or] at hother
    iterate 5
      split
      · next hletter => exact .inr (.inl ⟨_, rfl, hletter ▸ rfl⟩)
    split
    · exact .inl ⟨rfl, hother.2, hother.1⟩
    · exact .inr (.inr rfl)

theorem exists_codeEscape_eq (c : Char) : ∃ rest, codeEscape c.toNat = '\\' :: 'u' :: rest := by
  have hvalid : c.toNat < 0xD800 ∨ 0xDFFF < c.toNat ∧ c.toNat < 0x110000 := c.valid
  rw [← List.append_nil (codeEscape c.toNat)]
  by_cases hplane : c.toNat < 0x10000
  · exact ⟨_, codeEscape_append hplane []⟩
  · obtain ⟨high, low, -, -, -, -, hescape⟩ := exists_codeEscape_append hplane (by omega)
    exact ⟨_, hescape []⟩

/-- A character that is written in front of a text is known. -/
theorem escape_append_inj {c d : Char} {a b : List Char} (h : escape c ++ a = escape d ++ b) :
    c = d ∧ a = b := by
  obtain ⟨code, hcode⟩ := exists_codeEscape_eq c
  obtain ⟨code', hcode'⟩ := exists_codeEscape_eq d
  rcases escape_cases c with ⟨hc, hbackslash, -⟩ | ⟨letter, hc, hletter⟩ | hc <;>
    rcases escape_cases d with ⟨hd, hbackslash', -⟩ | ⟨letter', hd, hletter'⟩ | hd <;>
      rw [hc, hd] at h
  · exact List.cons.inj h
  · exact absurd (List.cons.inj h).1 hbackslash
  · rw [hcode'] at h
    exact absurd (List.cons.inj h).1 hbackslash
  · exact absurd (List.cons.inj h).1.symm hbackslash'
  · obtain ⟨rfl, hrest⟩ := List.cons.inj (List.cons.inj h).2
    exact ⟨Option.some.inj (hletter.symm.trans hletter'), hrest⟩
  · rw [hcode'] at h
    obtain ⟨rfl, -⟩ := List.cons.inj (List.cons.inj h).2
    cases hletter
  · rw [hcode] at h
    exact absurd (List.cons.inj h).1.symm hbackslash'
  · rw [hcode] at h
    obtain ⟨rfl, -⟩ := List.cons.inj (List.cons.inj h).2
    cases hletter'
  · exact codeEscape_append_inj h

/-- No character is written with a quote in front. -/
theorem escape_ne_quote (c : Char) : ∃ first rest, escape c = first :: rest ∧ first ≠ '"' := by
  obtain ⟨code, hcode⟩ := exists_codeEscape_eq c
  rcases escape_cases c with ⟨hc, -, hquote⟩ | ⟨letter, hc, -⟩ | hc
  · exact ⟨c, [], hc, hquote⟩
  · exact ⟨'\\', [letter], hc, by decide⟩
  · exact ⟨'\\', _, hc.trans hcode, by decide⟩

/-- A string that is written in front of a text is known. -/
theorem quote_append_inj {s t : String} {a b : List Char}
    (h : (quote s).toList ++ a = (quote t).toList ++ b) : s = t ∧ a = b := by
  have hchars : ∀ cs ds : List Char, cs.flatMap escape ++ '"' :: a = ds.flatMap escape ++ '"' :: b →
      cs = ds ∧ a = b := by
    intro cs
    induction cs with
    | nil =>
      intro ds h
      cases ds with
      | nil => exact ⟨rfl, (List.cons.inj h).2⟩
      | cons d ds =>
        obtain ⟨first, rest, hd, hquote⟩ := escape_ne_quote d
        rw [List.flatMap_cons, hd] at h
        exact absurd (List.cons.inj h).1.symm hquote
    | cons c cs ih =>
      intro ds h
      cases ds with
      | nil =>
        obtain ⟨first, rest, hc, hquote⟩ := escape_ne_quote c
        rw [List.flatMap_cons, hc] at h
        exact absurd (List.cons.inj h).1 hquote
      | cons d ds =>
        rw [List.flatMap_cons, List.flatMap_cons, List.append_assoc, List.append_assoc] at h
        obtain ⟨rfl, hrest⟩ := escape_append_inj h
        obtain ⟨rfl, hbehind⟩ := ih ds hrest
        exact ⟨rfl, hbehind⟩
  simp only [quote, String.toList_ofList, List.cons_append, List.append_assoc, List.nil_append,
    List.cons.injEq, true_and] at h
  obtain ⟨hst, hrest⟩ := hchars _ _ h
  exact ⟨String.toList_injective hst, hrest⟩

/-- The characters that whole numbers are written with. -/
def isNumeral (c : Char) : Bool := c == '-' || isAsciiDigit c

/-- The texts that can stand behind a value: what comes next in them ends a value. -/
def Ends (after : List Char) : Prop := ∀ c, after.head? = some c → c = ',' ∨ c = '\n'

/-- No number goes on behind its end. -/
theorem Ends.isNumeral_eq_false {after : List Char} (h : Ends after) :
    ∀ c, after.head? = some c → isNumeral c = false := by
  intro c hc
  rcases h c hc with rfl | rfl <;> rfl

/-- Two texts of one class in front of what is not of it are the same. -/
theorem append_inj_of_class {p : Char → Bool} {as bs a b : List Char}
    (has : ∀ c ∈ as, p c = true) (hbs : ∀ c ∈ bs, p c = true)
    (ha : ∀ c, a.head? = some c → p c = false) (hb : ∀ c, b.head? = some c → p c = false)
    (h : as ++ a = bs ++ b) : as = bs ∧ a = b := by
  have hruns : as = bs := by
    rw [← Notation.takeWhile_append_eq has ha, h, Notation.takeWhile_append_eq hbs hb]
  rw [hruns] at h
  exact ⟨hruns, List.append_cancel_left h⟩

theorem isNumeral_of_mem_toString {n : Int} {c : Char} (h : c ∈ (toString n).toList) :
    isNumeral c = true := by
  rcases mem_toString h with rfl | hdigit
  · rfl
  · rw [isNumeral, hdigit, Bool.or_true]

theorem isNumeral_of_mem_toDigits {n : Nat} {c : Char} (h : c ∈ Nat.toDigits 10 n) :
    isNumeral c = true := by
  rw [isNumeral, isAsciiDigit_of_mem_toDigits h, Bool.or_true]

theorem isNumeral_of_mem_zeros {n : Nat} {c : Char} (h : c ∈ List.replicate n '0') :
    isNumeral c = true := by
  rw [List.eq_of_mem_replicate h]
  rfl

theorem isNumeral_of_mem_shortestDigits {significand : Nat} {exponent : Int} {c : Char}
    (h : c ∈ (shortestDigits significand exponent).1) : isNumeral c = true := by
  have hdigits := (List.dropWhile_sublist _).mem (List.mem_reverse.1 h)
  exact isNumeral_of_mem_toDigits (List.mem_reverse.1 hdigits)

/-- The texts that go on, behind what could be a whole number, with one of some marks. -/
def GoesOn (marks cs : List Char) : Prop :=
  ∃ front mark back, cs = front ++ mark :: back ∧ (∀ c ∈ front, isNumeral c = true) ∧ mark ∈ marks

/-- Behind its first digits a number that is written by places has a point or an exponent. -/
theorem goesOn_positional {digits : List Char} (hdigits : ∀ c ∈ digits, isNumeral c = true)
    (point : Int) : GoesOn ['.', 'e'] (positional digits point) := by
  rw [positional]
  split
  · exact ⟨['0'], '.', _, rfl, fun c hc => isNumeral_of_mem_zeros (n := 1) hc, by decide⟩
  · refine ⟨_, '.', _, rfl, fun c hc => ?_, by decide⟩
    rcases List.mem_append.1 hc with hc | hc
    · exact hdigits c (List.mem_of_mem_take hc)
    · exact isNumeral_of_mem_zeros hc

/-- Behind its first digits a number that is written by its exponent has a point or an exponent. -/
theorem goesOn_scientific {digits : List Char} (hdigits : ∀ c ∈ digits, isNumeral c = true)
    (exponent : Int) : GoesOn ['.', 'e'] (scientific digits exponent) := by
  match digits with
  | [] => exact ⟨[], 'e', _, rfl, List.forall_mem_nil _, by decide⟩
  | [d] => exact ⟨[d], 'e', _, rfl, hdigits, by decide⟩
  | d :: d' :: rest =>
    exact ⟨[d], '.', _, rfl, fun c hc => hdigits c (List.mem_of_mem_take (i := 1) hc), by decide⟩

/-- A magnitude is written with a point or an exponent behind its first digits. -/
theorem goesOn_magnitudeChars (significand : Nat) (exponent : Int) :
    GoesOn ['.', 'e'] (magnitudeChars significand exponent) := by
  rw [magnitudeChars]
  split
  · exact ⟨['0'], '.', ['0'], rfl, fun c hc => isNumeral_of_mem_zeros (n := 1) hc, by decide⟩
  · dsimp only
    split
    · exact goesOn_positional (fun _ => isNumeral_of_mem_shortestDigits) _
    · exact goesOn_scientific (fun _ => isNumeral_of_mem_shortestDigits) _

theorem GoesOn.mono {marks marks' cs : List Char} (h : GoesOn marks cs)
    (hmarks : ∀ mark ∈ marks, mark ∈ marks') : GoesOn marks' cs := by
  obtain ⟨front, mark, back, hcs, hfront, hmark⟩ := h
  exact ⟨front, mark, back, hcs, hfront, hmarks mark hmark⟩

/-- The text of a floating point number is not that of a whole number. -/
theorem goesOn_text_finite (negative : Bool) (significand : Nat) (exponent : Int) :
    GoesOn ['.', 'e'] (Binary64.finite negative significand exponent).text.toList := by
  obtain ⟨front, mark, back, hchars, hfront, hmark⟩ := goesOn_magnitudeChars significand exponent
  simp only [Binary64.text, String.toList_ofList, hchars]
  split
  · exact ⟨'-' :: front, mark, back, rfl, List.forall_mem_cons.2 ⟨rfl, hfront⟩, hmark⟩
  · exact ⟨front, mark, back, rfl, hfront, hmark⟩

/-- A floating point number is never written like a whole one. -/
theorem goesOn_text (x : Binary64) : GoesOn ['.', 'e', 'n', 'i'] x.text.toList := by
  match x with
  | .nan => exact ⟨[], 'n', ['a', 'n'], rfl, List.forall_mem_nil _, by decide⟩
  | .infinite false => exact ⟨[], 'i', ['n', 'f'], rfl, List.forall_mem_nil _, by decide⟩
  | .infinite true =>
    exact ⟨['-'], 'i', ['n', 'f'], rfl, fun c hc => List.eq_of_mem_singleton hc ▸ rfl, by decide⟩
  | .finite negative significand exponent =>
    exact (goesOn_text_finite negative significand exponent).mono fun _ =>
      List.mem_append_left ['n', 'i']

/-- Whole numbers that are written the same, up to where they end, are the same. -/
theorem toString_append_inj_of_ends {m n : Int} {a b : List Char} (ha : Ends a) (hb : Ends b)
    (h : (toString m).toList ++ a = (toString n).toList ++ b) : m = n ∧ a = b := by
  obtain ⟨htexts, hrest⟩ := append_inj_of_class (fun _ => isNumeral_of_mem_toString)
    (fun _ => isNumeral_of_mem_toString) ha.isNumeral_eq_false hb.isNumeral_eq_false h
  exact ⟨Int.repr_injective (String.toList_injective htexts), hrest⟩

/-- A whole number in front of what ends it is no floating point number. -/
theorem toString_append_ne_text {n : Int} {x : Binary64} {a b : List Char} (ha : Ends a) :
    (toString n).toList ++ a ≠ x.text.toList ++ b := by
  intro h
  obtain ⟨front, mark, back, htext, hfront, hmark⟩ := goesOn_text x
  rw [htext, List.append_assoc, List.cons_append] at h
  have hmarks : isNumeral mark = false ∧ mark ≠ ',' ∧ mark ≠ '\n' := by
    simp only [List.mem_cons, List.not_mem_nil, or_false] at hmark
    rcases hmark with rfl | rfl | rfl | rfl <;> decide
  obtain ⟨hnumeral, hcomma, hbreak⟩ := hmarks
  obtain ⟨-, rfl⟩ := append_inj_of_class (fun _ => isNumeral_of_mem_toString) hfront
    ha.isNumeral_eq_false (by rintro _ ⟨⟩; exact hnumeral) h
  rcases ha mark rfl with hmark | hmark
  · exact hcomma hmark
  · exact hbreak hmark

theorem toList_newline (depth : Nat) :
    (newline depth).toList = '\n' :: List.replicate (2 * depth) ' ' :=
  String.toList_ofList

/-- The text of an item behind another one. -/
def furtherItem (depth : Nat) (item : String) : List Char :=
  ',' :: ((newline (depth + 1)).toList ++ item.toList)

theorem toList_block_nil (opening closing : String) (depth : Nat) :
    (block opening closing depth []).toList = opening.toList ++ closing.toList := by
  simp [block]

theorem toList_join_intersperse (item : String) (items : List String) :
    (String.join ((item :: items).intersperse ",")).toList =
      item.toList ++ items.flatMap fun next => ',' :: next.toList := by
  induction items generalizing item with
  | nil => simp
  | cons next items ih =>
    rw [List.intersperse_cons_cons, String.join_cons, String.join_cons, String.toList_append,
      String.toList_append, ih]
    rfl

/-- A block with items is its brackets around them, each one on its line. -/
theorem toList_block_cons (opening closing : String) (depth : Nat) (item : String)
    (items : List String) : (block opening closing depth (item :: items)).toList =
      opening.toList ++ ((newline (depth + 1)).toList ++ (item.toList ++
        (items.flatMap (furtherItem depth) ++ ((newline depth).toList ++ closing.toList)))) := by
  have hblock : block opening closing depth (item :: items) =
      opening ++ String.join (((item :: items).map (newline (depth + 1) ++ ·)).intersperse ",")
        ++ newline depth ++ closing := rfl
  have hitems : (items.map (newline (depth + 1) ++ ·)).flatMap (fun next => ',' :: next.toList) =
      items.flatMap (furtherItem depth) := by
    rw [List.flatMap_map]
    refine List.flatMap_congr fun item _ => ?_
    rw [String.toList_append, furtherItem]
  rw [hblock, List.map_cons]
  simp only [String.toList_append, toList_join_intersperse, hitems, List.append_assoc]

/-- An item is told by its text, whatever can stand behind it. -/
def Tells {α : Type} (text : α → String) (item : α) : Prop :=
  ∀ other a b, Ends a → Ends b → (text item).toList ++ a = (text other).toList ++ b →
    item = other ∧ a = b

section Block

variable {α : Type} {text : α → String} {depth : Nat}

/-- What stands behind an item of a block ends it. -/
theorem ends_furtherItems (items : List String) (rest : List Char) :
    Ends (items.flatMap (furtherItem depth) ++ ((newline depth).toList ++ rest)) := by
  rintro c hc
  cases items with
  | nil =>
    rw [toList_newline] at hc
    cases hc
    exact .inr rfl
  | cons item items =>
    cases hc
    exact .inl rfl

/-- Items behind commas, up to the closing bracket, are told by how they are written. -/
theorem furtherItems_append_inj {items others : List α} (hitems : ∀ item ∈ items, Tells text item)
    {a b : List Char}
    (h : (items.map text).flatMap (furtherItem depth) ++ ((newline depth).toList ++ a) =
      (others.map text).flatMap (furtherItem depth) ++ ((newline depth).toList ++ b)) :
    items = others ∧ a = b := by
  induction items generalizing others with
  | nil =>
    cases others with
    | nil => exact ⟨rfl, List.append_cancel_left h⟩
    | cons other others =>
      rw [toList_newline] at h
      exact absurd (List.cons.inj h).1 (by decide)
  | cons item items ih =>
    cases others with
    | nil =>
      rw [toList_newline] at h
      exact absurd (List.cons.inj h).1 (by decide)
    | cons other others =>
      obtain ⟨hitem, hitems⟩ := List.forall_mem_cons.1 hitems
      simp only [List.map_cons, List.flatMap_cons, furtherItem, List.cons_append,
        List.append_assoc, List.cons.injEq, true_and] at h
      obtain ⟨rfl, hrest⟩ := hitem other _ _ (ends_furtherItems _ _) (ends_furtherItems _ _)
        (List.append_cancel_left h)
      obtain ⟨rfl, hab⟩ := ih hitems hrest
      exact ⟨rfl, hab⟩

/-- Items between brackets are told by their text. -/
theorem block_append_inj {opening closing : String} {mark : Char} {items others : List α}
    (hclosing : closing.toList = [mark]) (hmark : mark ≠ '\n')
    (hitems : ∀ item ∈ items, Tells text item) {a b : List Char}
    (h : (block opening closing depth (items.map text)).toList ++ a =
      (block opening closing depth (others.map text)).toList ++ b) : items = others ∧ a = b := by
  cases items with
  | nil =>
    cases others with
    | nil => exact ⟨rfl, List.append_cancel_left h⟩
    | cons other others =>
      simp only [List.map_nil, List.map_cons, toList_block_nil, toList_block_cons,
        List.append_assoc, hclosing, toList_newline] at h
      exact absurd (List.cons.inj (List.append_cancel_left h)).1 hmark
  | cons item items =>
    cases others with
    | nil =>
      simp only [List.map_nil, List.map_cons, toList_block_nil, toList_block_cons,
        List.append_assoc, hclosing, toList_newline] at h
      exact absurd (List.cons.inj (List.append_cancel_left h)).1.symm hmark
    | cons other others =>
      obtain ⟨hitem, hitems⟩ := List.forall_mem_cons.1 hitems
      simp only [List.map_cons, toList_block_cons, List.append_assoc,
        List.append_cancel_left_eq] at h
      obtain ⟨rfl, hrest⟩ := hitem other _ _ (ends_furtherItems _ _) (ends_furtherItems _ _) h
      obtain ⟨rfl, hab⟩ := furtherItems_append_inj hitems hrest
      exact ⟨rfl, List.append_cancel_left hab⟩

end Block

/-- The sorts of values that the first character of a text tells. -/
inductive Shape where
  | null
  | truth
  | number
  | string
  | array
  | object
  deriving DecidableEq

/-- The sort of a value. -/
def shape : Json → Shape
  | null => .null
  | bool _ => .truth
  | int _ | float _ => .number
  | string _ => .string
  | array _ => .array
  | object _ => .object

/-- The sort of value that starts with a character. -/
def shapeOf (first : Char) : Shape :=
  if first = 'n' then .null
  else if first = 't' ∨ first = 'f' then .truth
  else if first = '"' then .string
  else if first = '[' then .array
  else if first = '\x7b' then .object
  else .number

theorem shapeOf_of_isNumeral {c : Char} (h : isNumeral c = true) : shapeOf c = .number := by
  have hne : ∀ x, isNumeral x = false → c ≠ x := by
    rintro x hx rfl
    rw [hx] at h
    cases h
  simp only [shapeOf, hne 'n' rfl, hne 't' rfl, hne 'f' rfl, hne '"' rfl, hne '[' rfl,
    hne '\x7b' rfl, or_self, if_false]

theorem shapeOf_of_goesOn {cs : List Char} (h : GoesOn ['.', 'e'] cs) :
    ∃ first rest, cs = first :: rest ∧ shapeOf first = .number := by
  obtain ⟨front, mark, back, rfl, hfront, hmark⟩ := h
  cases front with
  | nil =>
    refine ⟨mark, back, rfl, ?_⟩
    rcases List.mem_pair.1 hmark with rfl | rfl <;> rfl
  | cons c front => exact ⟨c, _, rfl, shapeOf_of_isNumeral (hfront c List.mem_cons_self)⟩

theorem toString_ne_nil (n : Int) : (toString n).toList ≠ [] := by
  cases n with
  | ofNat m =>
    change (Nat.repr m).toList ≠ []
    simp
  | negSucc m =>
    change ("-" ++ Nat.repr (m + 1)).toList ≠ []
    simp

/-- The first character of a text tells the sort of its value, the not-a-number apart. -/
theorem exists_indented_eq {j : Json} (h : j ≠ .float .nan) (depth : Nat) :
    ∃ first rest, (j.indented depth).toList = first :: rest ∧ shapeOf first = j.shape := by
  have hblock (opening closing : String) (items : List String) :
      ∃ rest, (block opening closing depth items).toList = opening.toList ++ rest := by
    cases items with
    | nil => exact ⟨_, toList_block_nil ..⟩
    | cons item items => exact ⟨_, toList_block_cons ..⟩
  cases j with
  | null => exact ⟨'n', ['u', 'l', 'l'], by rw [indented]; rfl, rfl⟩
  | bool b => cases b with
    | false => exact ⟨'f', ['a', 'l', 's', 'e'], by rw [indented]; rfl, rfl⟩
    | true => exact ⟨'t', ['r', 'u', 'e'], by rw [indented]; rfl, rfl⟩
  | int n =>
    obtain ⟨first, rest, hchars⟩ := List.exists_cons_of_ne_nil (toString_ne_nil n)
    have hnumeral : isNumeral first = true :=
      isNumeral_of_mem_toString (n := n) (by rw [hchars]; exact List.mem_cons_self)
    exact ⟨first, rest, by rw [indented, hchars], shapeOf_of_isNumeral hnumeral⟩
  | float x =>
    rw [indented]
    cases x with
    | nan => exact absurd rfl h
    | infinite negative => cases negative with
      | false => exact ⟨'i', _, rfl, rfl⟩
      | true => exact ⟨'-', _, rfl, rfl⟩
    | finite negative significand exponent => exact shapeOf_of_goesOn (goesOn_text_finite ..)
  | string s => exact ⟨'"', _, by rw [indented, quote, String.toList_ofList]; rfl, rfl⟩
  | array items =>
    obtain ⟨rest, hchars⟩ := hblock "[" "]" (indentedItems (depth + 1) items)
    exact ⟨'[', rest, by rw [indented, hchars]; rfl, rfl⟩
  | object members =>
    obtain ⟨rest, hchars⟩ := hblock "\x7b" "\x7d" (indentedMembers (depth + 1) members)
    exact ⟨'\x7b', rest, by rw [indented, hchars]; rfl, rfl⟩

/-- The values without floating point numbers. -/
inductive HasNoFloat : Json → Prop where
  | null : HasNoFloat null
  | bool (b : Bool) : HasNoFloat (bool b)
  | int (n : Int) : HasNoFloat (int n)
  | string (s : String) : HasNoFloat (string s)
  | array {items : List Json} (h : ∀ item ∈ items, HasNoFloat item) : HasNoFloat (array items)
  | object {members : List (String × Json)} (h : ∀ m ∈ members, HasNoFloat m.2) :
    HasNoFloat (object members)

/-- The text of a member of an object. -/
def memberText (depth : Nat) (m : String × Json) : String := quote m.1 ++ ": " ++ m.2.indented depth

theorem indentedItems_eq_map (depth : Nat) (items : List Json) :
    indentedItems depth items = items.map (indented depth) := by
  induction items with
  | nil => rw [indentedItems, List.map_nil]
  | cons item items ih => rw [indentedItems, ih, List.map_cons]

theorem indentedMembers_eq_map (depth : Nat) (members : List (String × Json)) :
    indentedMembers depth members = members.map (memberText depth) := by
  induction members with
  | nil => rw [indentedMembers, List.map_nil]
  | cons m members ih => rw [indentedMembers, ih, List.map_cons, memberText]

/-- A member is told by how it is written if its value is. -/
theorem Tells.member {depth : Nat} {m : String × Json} (h : Tells (indented depth) m.2) :
    Tells (memberText depth) m := by
  intro other a b ha hb htext
  simp only [memberText, String.toList_append, List.append_assoc] at htext
  obtain ⟨hname, hrest⟩ := quote_append_inj htext
  obtain ⟨hvalue, hab⟩ := h other.2 a b ha hb (List.append_cancel_left hrest)
  exact ⟨Prod.ext hname hvalue, hab⟩

/-- Values that stand in front of texts that end them are of one sort. -/
theorem shape_eq_of_append_eq {j k : Json} {depth : Nat} {a b : List Char} (hj : j ≠ .float .nan)
    (hk : k ≠ .float .nan)
    (h : (j.indented depth).toList ++ a = (k.indented depth).toList ++ b) : j.shape = k.shape := by
  obtain ⟨first, rest, hchars, hshape⟩ := exists_indented_eq hj depth
  obtain ⟨first', rest', hchars', hshape'⟩ := exists_indented_eq hk depth
  rw [hchars, hchars'] at h
  rw [← hshape, ← hshape', (List.cons.inj h).1]

/-- Nothing but the not-a-number is printed with its text in front. -/
theorem append_ne_nan {j : Json} (h : j ≠ .float .nan) (depth : Nat) (a b : List Char) :
    (j.indented depth).toList ++ a ≠ ((float .nan).indented depth).toList ++ b := by
  intro htext
  obtain ⟨first, rest, hchars, hshape⟩ := exists_indented_eq h depth
  have hnan : ((float .nan).indented depth).toList = ['n', 'a', 'n'] := by
    rw [indented]
    rfl
  rw [hnan] at htext
  have hfirst : first = 'n' := by
    rw [hchars] at htext
    exact (List.cons.inj htext).1
  rw [hfirst] at hshape
  cases j with
  | null =>
    rw [indented] at htext
    exact absurd (List.cons.inj (List.cons.inj htext).2).1 (by decide)
  | _ => cases hshape

theorem HasNoFloat.ne_nan {j : Json} (h : j.HasNoFloat) : j ≠ .float .nan := by
  rintro rfl
  cases h

/-- Without floating point numbers the shape of a value is told by how it is written. -/
theorem HasNoFloat.shape_eq {j k : Json} {depth : Nat} {a b : List Char} (hj : j.HasNoFloat)
    (h : (j.indented depth).toList ++ a = (k.indented depth).toList ++ b) : j.shape = k.shape := by
  refine shape_eq_of_append_eq hj.ne_nan ?_ h
  rintro rfl
  exact append_ne_nan hj.ne_nan depth a b h

/-- A value without floating point numbers is told by its text. -/
theorem HasNoFloat.tells {j : Json} (h : j.HasNoFloat) (depth : Nat) :
    Tells (indented depth) j := by
  induction h generalizing depth with
  | null =>
    intro k a b _ _ htext
    have hshape := HasNoFloat.null.shape_eq htext
    cases k with
    | null => exact ⟨rfl, List.append_cancel_left htext⟩
    | _ => cases hshape
  | bool p =>
    intro k a b _ _ htext
    have hshape := (HasNoFloat.bool p).shape_eq htext
    cases k with
    | bool q =>
      rw [indented, indented] at htext
      cases p <;> cases q
      · exact ⟨rfl, List.append_cancel_left htext⟩
      · exact absurd (List.cons.inj htext).1 (by decide)
      · exact absurd (List.cons.inj htext).1 (by decide)
      · exact ⟨rfl, List.append_cancel_left htext⟩
    | _ => cases hshape
  | int m =>
    intro k a b ha hb htext
    have hshape := (HasNoFloat.int m).shape_eq htext
    cases k with
    | int n =>
      rw [indented, indented] at htext
      obtain ⟨rfl, hab⟩ := toString_append_inj_of_ends ha hb htext
      exact ⟨rfl, hab⟩
    | float x =>
      rw [indented, indented] at htext
      exact absurd htext (toString_append_ne_text ha)
    | _ => cases hshape
  | string s =>
    intro k a b _ _ htext
    have hshape := (HasNoFloat.string s).shape_eq htext
    cases k with
    | string t =>
      rw [indented, indented] at htext
      obtain ⟨rfl, hab⟩ := quote_append_inj htext
      exact ⟨rfl, hab⟩
    | _ => cases hshape
  | @array items hitems ih =>
    intro k a b _ _ htext
    have hshape := (HasNoFloat.array hitems).shape_eq htext
    cases k with
    | array others =>
      rw [indented, indented, indentedItems_eq_map, indentedItems_eq_map] at htext
      obtain ⟨rfl, hab⟩ := block_append_inj (show "]".toList = [']'] from rfl) (by decide)
        (fun item hitem => ih item hitem (depth + 1)) htext
      exact ⟨rfl, hab⟩
    | _ => cases hshape
  | @object members hmembers ih =>
    intro k a b _ _ htext
    have hshape := (HasNoFloat.object hmembers).shape_eq htext
    cases k with
    | object others =>
      rw [indented, indented, indentedMembers_eq_map, indentedMembers_eq_map] at htext
      obtain ⟨rfl, hab⟩ := block_append_inj (show "\x7d".toList = ['\x7d'] from rfl) (by decide)
        (fun m hm => (ih m hm (depth + 1)).member) htext
      exact ⟨rfl, hab⟩
    | _ => cases hshape

/-- No two values, one of them without floating point numbers, are printed as the same text. -/
theorem HasNoFloat.eq_of_indented {j k : Json} (h : j.HasNoFloat)
    (htext : j.indented 0 = k.indented 0) : j = k := by
  have hends : Ends [] := by
    rintro c ⟨⟩
  exact (h.tells 0 k [] [] hends hends (by rw [htext])).1

end ElementQuery.Json
