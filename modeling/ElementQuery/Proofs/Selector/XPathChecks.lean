import ElementQuery.Proofs.Query.Construction
import ElementQuery.Proofs.Selector.XPathReadings

/-!
# XPaths tell their queries

The part of an XPath behind the element name is a sequence of checks. The characters behind the
bracket of a check say of which sort it is, and each check is told by the text from there on, so
that the part tells what the entries of the query ask for.

## Main definitions

* `askChars`, `render` : how it is written what entries ask for.

## Main statements

* `render_injective` : a text tells what was asked for.
* `checks_injective` : the part behind the element name tells what the entries ask for.
-/

namespace ElementQuery.XPath

open ElementQuery.Notation ElementQuery.Text

/-- How it is written what an entry asks for. -/
def askChars : Ask → List Char
  | .position n => '[' :: ((toString (n + 1)).toList ++ [']'])
  | .field name text =>
    if name = Kind.text.name then "[text()=".toList ++ (literalChars .double text.toList ++ [']'])
    else '[' :: '@' :: (name.toList ++ '=' :: (literalChars .single text.toList ++ [']']))

/-- How it is written what entries ask for. -/
def render (asks : List Ask) : List Char := asks.flatMap askChars

theorem render_position (n : Int) (asks : List Ask) :
    render (.position n :: asks) = '[' :: ((toString (n + 1)).toList ++ ']' :: render asks) := by
  change '[' :: ((toString (n + 1)).toList ++ [']']) ++ render asks = _
  rw [List.cons_append, List.append_assoc, List.singleton_append]

theorem render_text {name : String} (hname : name = Kind.text.name) (text : String)
    (asks : List Ask) : render (.field name text :: asks) =
      '[' :: ("text()=".toList ++ (literalChars .double text.toList ++ ']' :: render asks)) := by
  have hlead : "[text()=".toList = '[' :: "text()=".toList := by decide
  rw [render, List.flatMap_cons, askChars, if_pos hname, hlead, List.append_assoc,
    List.append_assoc, List.singleton_append, List.cons_append, render]

theorem render_attribute {name : String} (hname : name ≠ Kind.text.name) (text : String)
    (asks : List Ask) : render (.field name text :: asks) =
      '[' :: '@' :: (name.toList ++ '=' ::
        (literalChars .single text.toList ++ ']' :: render asks)) := by
  rw [render, List.flatMap_cons, askChars, if_neg hname, List.cons_append, List.cons_append,
    List.append_assoc, List.cons_append, List.append_assoc, List.singleton_append, render]

/-- Behind a literal it is outside of strings again. -/
theorem isOutside_literalChars {prefer : Quote} {cs rest : List Char} (h : IsOutside rest) :
    IsOutside (literalChars prefer cs ++ ']' :: rest) := by
  obtain ⟨lead, s, text, hchars, hlead, hstring⟩ := startsString_literalChars prefer cs h
  rw [hchars]
  refine hstring.isOutside.append ?_ ?_ <;> rcases hlead with rfl | rfl <;> decide

theorem isOutside_render {asks : List Ask} (h : ∀ ask ∈ asks, ask.IsReadable) :
    IsOutside (render asks) := by
  induction asks with
  | nil => exact .nil
  | cons ask asks ih =>
    obtain ⟨hask, hasks⟩ := List.forall_mem_cons.1 h
    have hrest := ih hasks
    match ask with
    | .position n =>
      have hdigits : ∀ c, c ≠ '-' → isAsciiDigit c = false → c ≠ '[' →
          c ∉ '[' :: (toString (n + 1)).toList := by
        intro c hsign hdigit hc
        rw [List.mem_cons, not_or]
        exact ⟨hc, not_mem_toString hsign hdigit⟩
      have hend : IsOutside (']' :: render asks) :=
        hrest.append (p := [']']) (by decide) (by decide)
      rw [render_position, ← List.cons_append]
      exact hend.append (hdigits _ (by decide) (by decide) (by decide))
        (hdigits _ (by decide) (by decide) (by decide))
    | .field name text =>
      by_cases hname : name = Kind.text.name
      · rw [render_text hname, ← List.cons_append]
        exact (isOutside_literalChars hrest).append (by decide) (by decide)
      · have hcheck : IsOutside (name.toList ++ '=' ::
            (literalChars .single text.toList ++ ']' :: render asks)) :=
          (isOutside_literalChars hrest).name hask
        rw [render_attribute hname]
        exact hcheck.append (p := ['[', '@']) (by decide) (by decide)

/-- An expression does not start in the middle of a name, whichever apostrophes the name holds. -/
theorem literalChars_ne_name {prefer prefer' : Quote} {k v w rest rest' : List Char}
    (hk : ∀ c ∈ k, isKeywordChar c = true) (hrest : IsOutside rest) (hrest' : IsOutside rest') :
    literalChars prefer v ++ ']' :: rest ≠
      k ++ '=' :: (literalChars prefer' w ++ ']' :: rest') := by
  intro h
  obtain ⟨lead, s, text, hchars, hlead, quote, behind, hs, hfollows, hbehind, rfl⟩ :=
    startsString_literalChars prefer v hrest
  have hequals : '=' ∉ lead := by
    rcases hlead with rfl | rfl <;> decide
  have hname : ∀ m, (∀ c ∈ m, isKeywordChar c = true) →
      m ++ '=' :: (literalChars prefer' w ++ ']' :: rest') ≠ s ++ quote.char :: behind := by
    intro m hm
    exact ((isOutside_literalChars hrest').name hm).ne_string hs hfollows hbehind
  rw [hchars] at h
  -- The quote that starts the string stands in the name.
  rcases List.append_eq_append_iff.1 h with ⟨inner, rfl, hinner⟩ | ⟨inner, rfl, hinner⟩
  · cases inner with
    | nil => exact Quote.char_ne (by decide) (by decide) (List.cons.inj hinner).1
    | cons c m =>
      refine hname m ?_ (List.cons.inj hinner).2.symm
      intro d hd
      exact hk d (List.mem_append_right _ (List.mem_cons_of_mem c hd))
  · cases inner with
    | nil => exact Quote.char_ne (by decide) (by decide) (List.cons.inj hinner).1.symm
    | cons c m =>
      obtain ⟨rfl, _⟩ := List.cons.inj hinner
      exact hequals (List.mem_append_right _ List.mem_cons_self)

/-- An attribute is told by how it is written, and so is what stands behind it. -/
theorem attribute_append_inj {m m' v w rest rest' : List Char}
    (hm : ∀ c ∈ m, isKeywordChar c = true) (hm' : ∀ c ∈ m', isKeywordChar c = true)
    (hrest : IsOutside rest) (hrest' : IsOutside rest')
    (h : m ++ '=' :: (literalChars .single v ++ ']' :: rest) =
      m' ++ '=' :: (literalChars .single w ++ ']' :: rest')) :
    m = m' ∧ v = w ∧ rest = rest' := by
  have hname : m = m' := by
    rcases List.append_eq_append_iff.1 h with ⟨k, rfl, hk⟩ | ⟨k, rfl, hk⟩
    · cases k with
      | nil => rw [List.append_nil]
      | cons c k =>
        have hkey : ∀ d ∈ k, isKeywordChar d = true := fun d hd =>
          hm' d (List.mem_append_right _ (List.mem_cons_of_mem c hd))
        exact absurd (List.cons.inj hk).2 (literalChars_ne_name hkey hrest hrest')
    · cases k with
      | nil => rw [List.append_nil]
      | cons c k =>
        have hkey : ∀ d ∈ k, isKeywordChar d = true := fun d hd =>
          hm d (List.mem_append_right _ (List.mem_cons_of_mem c hd))
        exact absurd (List.cons.inj hk).2 (literalChars_ne_name hkey hrest' hrest)
  subst hname
  obtain ⟨rfl, rfl⟩ := literalChars_append_inj (List.cons.inj (List.append_cancel_left h)).2
  exact ⟨rfl, rfl, rfl⟩

theorem position_ne_cons {n : Int} {x : Char} {rest rest' : List Char} (hbracket : x ≠ ']')
    (hsign : x ≠ '-') (hdigit : isAsciiDigit x = false) :
    (toString n).toList ++ ']' :: rest ≠ x :: rest' := by
  intro h
  have hx := not_mem_toString (n := n) hsign hdigit
  cases hchars : (toString n).toList with
  | nil =>
    rw [hchars] at h
    exact hbracket (List.cons.inj h).1.symm
  | cons c cs =>
    rw [hchars] at h hx
    exact hx ((List.cons.inj h).1 ▸ List.mem_cons_self)

theorem textLead_append (rest : List Char) :
    "text()=".toList ++ rest = 't' :: ("ext()=".toList ++ rest) := by
  have hlead : "text()=".toList = 't' :: "ext()=".toList := by decide
  rw [hlead, List.cons_append]

theorem askChars_ne_nil (ask : Ask) : askChars ask ≠ [] := by
  match ask with
  | .position n => exact List.cons_ne_nil _ _
  | .field name text =>
    rw [askChars]
    split
    · simp
    · exact List.cons_ne_nil _ _

/-- Positions and fields are not written alike. -/
theorem render_position_ne_field (n : Int) (name text : String) (asks asks' : List Ask) :
    render (.position n :: asks) ≠ render (.field name text :: asks') := by
  intro h
  rw [render_position] at h
  by_cases hname : name = Kind.text.name
  · rw [render_text hname, textLead_append] at h
    exact position_ne_cons (by decide) (by decide) (by decide) (List.cons.inj h).2
  · rw [render_attribute hname] at h
    exact position_ne_cons (by decide) (by decide) (by decide) (List.cons.inj h).2

/-- What is asked for first is told by a text, and what lies behind it. -/
theorem render_cons_inj {ask ask' : Ask} {asks asks' : List Ask} (hask : ask.IsReadable)
    (hask' : ask'.IsReadable) (hasks : ∀ a ∈ asks, a.IsReadable)
    (hasks' : ∀ a ∈ asks', a.IsReadable) (h : render (ask :: asks) = render (ask' :: asks')) :
    ask = ask' ∧ render asks = render asks' := by
  match ask, ask' with
  | .position n, .position n' =>
    rw [render_position, render_position] at h
    obtain ⟨hnumber, hrest⟩ := toString_append_inj (by decide) (by decide) (List.cons.inj h).2
    rw [(Int.add_left_inj 1).1 hnumber]
    exact ⟨rfl, hrest⟩
  | .position n, .field name' text' => exact absurd h (render_position_ne_field _ _ _ _ _)
  | .field name text, .position n' => exact absurd h.symm (render_position_ne_field _ _ _ _ _)
  | .field name text, .field name' text' =>
    -- The text of the element and an attribute differ behind the bracket.
    by_cases hname : name = Kind.text.name <;> by_cases hname' : name' = Kind.text.name
    · rw [render_text hname, render_text hname'] at h
      obtain ⟨htext, hrest⟩ :=
        literalChars_append_inj (List.append_cancel_left (List.cons.inj h).2)
      rw [hname, hname', String.toList_injective htext]
      exact ⟨rfl, hrest⟩
    · rw [render_text hname, render_attribute hname', textLead_append] at h
      exact absurd (List.cons.inj (List.cons.inj h).2).1 (by decide)
    · rw [render_attribute hname, render_text hname', textLead_append] at h
      exact absurd (List.cons.inj (List.cons.inj h).2).1 (by decide)
    · rw [render_attribute hname, render_attribute hname'] at h
      obtain ⟨hsame, htext, hrest⟩ := attribute_append_inj hask hask' (isOutside_render hasks)
        (isOutside_render hasks') (List.cons.inj (List.cons.inj h).2).2
      rw [String.toList_injective hsame, String.toList_injective htext]
      exact ⟨rfl, hrest⟩

/-- A text tells what was asked for. -/
theorem render_injective {asks asks' : List Ask} (hasks : ∀ ask ∈ asks, ask.IsReadable)
    (hasks' : ∀ ask ∈ asks', ask.IsReadable) (h : render asks = render asks') : asks = asks' :=
  flatMap_injective askChars_ne_nil (fun _ _ _ _ => render_cons_inj) hasks hasks' h

/-- A check is written as what it asks for. -/
theorem chars_of_check {p : Predicate} {s : String} (hkind : p.kind = Kind.ofKey p.name)
    (h : check p = .ok s) : s.toList = askChars p.ask := by
  rw [check] at h
  split at h
  · next htext =>
    cases h
    have hname : p.name = Kind.text.name :=
      Kind.eq_name_of_ofKey (by decide) (hkind.symm.trans htext)
    rw [Predicate.ask_of_ne_index (by simp [htext]), askChars, if_pos hname]
    simp [literal]
  · next hindex =>
    obtain ⟨ordinal, hordinal, rfl⟩ := map_eq_ok_iff.1 h
    obtain ⟨n, hcriterion, rfl⟩ := Criterion.ordinal_eq_ok hordinal
    rw [Predicate.ask_of_index hindex hcriterion]
    simp [askChars]
  · next htext hindex =>
    cases h
    have hname : p.name ≠ Kind.text.name := by
      intro hname
      rw [hname, Kind.ofKey_name] at hkind
      exact htext hkind
    rw [Predicate.ask_of_ne_index hindex, askChars, if_neg hname]
    simp [literal]

/-- The checks of a query are written as what they ask for. -/
theorem render_of_checks {q : Query} {s : String}
    (hkinds : ∀ p ∈ q.checks, p.kind = Kind.ofKey p.name) (h : checks q = .ok s) :
    s.toList = render (q.checks.map Predicate.ask) := by
  obtain ⟨_, _, h⟩ := bind_eq_ok_iff.1 h
  obtain ⟨texts, htexts, h⟩ := bind_eq_ok_iff.1 h
  cases h
  rw [toList_join_checks (fun p hp _ hs => chars_of_check (hkinds p hp) hs) htexts, render,
    List.flatMap_map]

/-- If two queries whose names decide their kinds and could be keywords have the same XPath behind
the element name, they ask for the same: as many entries but the element name, in the same order,
with the same names and texts or positions. -/
theorem checks_injective {a b : Query} {s : String}
    (ha : ∀ p ∈ a.checks, p.kind = Kind.ofKey p.name ∧ IsKeywordText p.name)
    (hb : ∀ p ∈ b.checks, p.kind = Kind.ofKey p.name ∧ IsKeywordText p.name)
    (hsa : checks a = .ok s) (hsb : checks b = .ok s) :
    a.checks.map Predicate.ask = b.checks.map Predicate.ask := by
  have hra := render_of_checks (fun p hp => (ha p hp).1) hsa
  have hrb := render_of_checks (fun p hp => (hb p hp).1) hsb
  have hreadable : ∀ {q : Query},
      (∀ p ∈ q.checks, p.kind = Kind.ofKey p.name ∧ IsKeywordText p.name) →
      ∀ ask ∈ q.checks.map Predicate.ask, ask.IsReadable := by
    intro q h
    rw [List.forall_mem_map]
    exact fun p hp => Predicate.isReadable_ask (h p hp).2
  exact render_injective (hreadable ha) (hreadable hb) (hra.symm.trans hrb)

/-- A name with an apostrophe, a text with both quotes, and a tag that is given last. -/
theorem checks_injective_both_quotes :
    let first : Query := ⟨[⟨"tag", .tag, .literal "a"⟩, ⟨"b='c", .named, .literal "x'\""⟩]⟩
    let second : Query := ⟨[⟨"b='c", .named, .literal "x'\""⟩, ⟨"tag", .tag, .literal "a"⟩]⟩
    checks first = .ok "[@b='c=concat('x', \"'\", '\"')]" ∧
      checks second = .ok "[@b='c=concat('x', \"'\", '\"')]" ∧
      first.checks.map Predicate.ask = second.checks.map Predicate.ask := by
  refine ⟨rfl, rfl, ?_⟩
  exact checks_injective (s := "[@b='c=concat('x', \"'\", '\"')]") (by decide) (by decide) rfl rfl

end ElementQuery.XPath
