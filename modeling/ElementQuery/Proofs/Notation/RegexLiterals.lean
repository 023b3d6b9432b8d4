import ElementQuery.Proofs.Notation.Queries
import ElementQuery.Proofs.Notation.Vectors
import ElementQuery.Proofs.Query.Names
import Mathlib.Algebra.Ring.Parity
import Mathlib.Data.List.DropRight

/-!
# Regular expressions in the notation

A regular expression is written between quotes with a backslash in front of each quote in it, and
nothing else is escaped. Reading takes one backslash off in front of each quote, wherever it stands.
This gives the source back because within a token a quote always stands behind an odd run of
backslashes. So the sources that can be written are those in which no quote, no line feed and not
the end stands behind an odd run, and these sources and the tokens correspond one to one.

## Main definitions

* `escapeQuotes`, `regexLiteral` : how a regular expression is written.
* `IsLiteralSource` : the sources that can be written.
* `MeansEntries` : the keys with their values that the entries in a text mean.
* `regexLexemes`, `Parsed.sources` : the regular expressions of a text and of what it stands for.

## Main statements

* `unescapeQuotes_escapeQuotes`, `IsQuotedBody.escapeQuotes_unescapeQuotes` : writing and reading
  are inverse to each other.
* `isQuotedBody_escapeQuotes_iff` : which sources can be written.
* `MeansEntries.parse_eq` : entries in braces are read as the query of what they mean.
* `parse_regexLiteral` : tokens and regular expressions in queries correspond one to one.
-/

namespace ElementQuery

/-- The sources of the regular expressions that a query compares by. -/
def Query.sources (q : Query) : List String := q.patterns.map (·.criterion.text)

/-- Whatever the engine, a regular expression keeps the source that it is read from. -/
theorem Regex.source_of_compile [Engine] {flags : Flags} {source : String} {r : Regex}
    (h : compile flags source = .ok r) : r.source = source := by
  obtain ⟨⟨node, inside⟩, -, h⟩ := bind_eq_ok_iff.1 h
  cases h
  rfl

/-- Only regular expressions are compared by as such. -/
theorem Criterion.isPattern_eq_false_of_ofValue {kind : Kind} {v : Value} {c : Criterion}
    (hv : v.IsPlain) (hregex : ∀ r, v ≠ .regex r) (h : Criterion.ofValue kind v = .ok c) :
    c.isPattern = false := by
  unfold Criterion.ofValue at h
  split at h
  · exact hv.elim
  · exact absurd rfl (hregex _)
  · split at h
    · obtain ⟨position, -, -, rfl⟩ := Criterion.ofIndex_eq_ok_iff.1 h
      rfl
    · split at h
      · cases h
      · obtain ⟨_, -, rfl⟩ := map_eq_ok_iff.1 h
        rfl

namespace Notation

open ElementQuery.Text

/-- A text with a backslash in front of each quote. -/
def escapeQuotes : List Char → List Char
  | [] => []
  | c :: rest => if c = '"' then '\\' :: '"' :: escapeQuotes rest else c :: escapeQuotes rest

/-- The token for a regular expression with a source. -/
def regexLiteral (source : String) : List Char :=
  '#' :: '"' :: (escapeQuotes source.toList ++ ['"'])

/-- Whether an odd run of backslashes stands at the end of a text. -/
def EndsOdd (cs : List Char) : Prop := Odd (cs.rtakeWhile (· == '\\')).length

/-- The sources that can be written: no quote and no line feed stands behind an odd run of
backslashes, and neither does the end. -/
structure IsLiteralSource (source : List Char) : Prop where
  inside : ∀ front c back, source = front ++ c :: back → c = '"' ∨ c = '\n' → ¬EndsOdd front
  last : ¬EndsOdd source

/-- The lexemes of the regular expressions among tokens. -/
def regexLexemes (tokens : List Token) : List (List Char) :=
  (tokens.filter (·.terminal == .regex)).map (·.lexeme)

/-- The sources of all regular expressions of what a text stands for. -/
def Parsed.sources : Parsed → List String
  | query q => q.sources
  | ancestry a => a.levels.flatMap Query.sources

/-- The keys with their values that the entries in a text mean. -/
def MeansEntries [Regex.Engine] (pairs : List (Value × Value)) (cs : List Char) : Prop :=
  ∃ tokens, Tokenizes cs tokens ∧ IsEntries (terminals tokens) ∧
    (entriesOf tokens).mapM Entry.meaning = .ok pairs

/-- A text with braces around another one, and separators around these. -/
def InBraces (body : List Char) (text : String) : Prop :=
  ∃ lead trail, IsGap lead ∧ IsGap trail ∧ text.toList = lead ++ '{' :: (body ++ '}' :: trail)

/-- A run at the end of a text that goes back to its start is all of it. -/
theorem rtakeWhile_cons (p : Char → Bool) (c : Char) (cs : List Char) :
    (c :: cs).rtakeWhile p = if (c :: cs).all p then c :: cs else cs.rtakeWhile p := by
  rw [List.rtakeWhile, List.reverse_cons, List.takeWhile_append]
  by_cases hcs : cs.all p
  · have hall : cs.reverse.takeWhile p = cs.reverse :=
      List.takeWhile_eq_self_iff.2 (by simpa using hcs)
    rw [if_pos (congrArg List.length hall), List.rtakeWhile, hall]
    by_cases hc : p c <;> simp [hc, hcs]
  · rw [if_neg, if_neg (by simp [hcs]), List.rtakeWhile]
    intro hlength
    have hall := (List.takeWhile_prefix p).eq_of_length hlength
    rw [List.takeWhile_eq_self_iff] at hall
    exact hcs (by simpa using hall)

theorem not_endsOdd_nil : ¬EndsOdd [] := Nat.not_odd_zero

theorem endsOdd_backslash : EndsOdd ['\\'] := odd_one

theorem endsOdd_cons {c : Char} (hc : c ≠ '\\') {cs : List Char} :
    EndsOdd (c :: cs) ↔ EndsOdd cs := by
  rw [EndsOdd, rtakeWhile_cons, if_neg (by simp [hc]), EndsOdd]

/-- A backslash together with the character behind it does not matter for what stands behind. -/
theorem endsOdd_escaped {c : Char} {cs : List Char} :
    EndsOdd ('\\' :: c :: cs) ↔ EndsOdd cs := by
  rw [EndsOdd, rtakeWhile_cons, rtakeWhile_cons, List.all_cons]
  by_cases hall : (c :: cs).all (· == '\\')
  · have hcs : cs.rtakeWhile (· == '\\') = cs :=
      List.rtakeWhile_eq_self_iff.2 fun d hd =>
        List.all_eq_true.1 hall d (List.mem_cons_of_mem c hd)
    rw [hall, if_pos (by decide), EndsOdd, hcs, List.length_cons, List.length_cons]
    simp only [Nat.odd_iff]
    omega
  · rw [if_neg (by simpa using hall), if_neg hall, EndsOdd]

theorem isLiteralSource_nil : IsLiteralSource [] := ⟨by simp, not_endsOdd_nil⟩

theorem not_isLiteralSource_backslash : ¬IsLiteralSource ['\\'] := fun h => h.last endsOdd_backslash

theorem isLiteralSource_cons {c : Char} (hc : c ≠ '\\') {cs : List Char} :
    IsLiteralSource (c :: cs) ↔ IsLiteralSource cs := by
  constructor
  · intro h
    refine ⟨fun front d back hcs hd => ?_, fun hlast => h.last ((endsOdd_cons hc).2 hlast)⟩
    exact fun hodd => h.inside (c :: front) d back (by rw [hcs]; rfl) hd ((endsOdd_cons hc).2 hodd)
  · intro h
    refine ⟨fun front d back hcs hd => ?_, fun hlast => h.last ((endsOdd_cons hc).1 hlast)⟩
    cases front with
    | nil => exact not_endsOdd_nil
    | cons c' front =>
      obtain ⟨rfl, htail⟩ := List.cons.inj hcs
      exact fun hodd => h.inside front d back htail hd ((endsOdd_cons hc).1 hodd)

/-- A backslash can stand in front of anything but a quote and a line feed. -/
theorem isLiteralSource_escaped {c : Char} {cs : List Char} :
    IsLiteralSource ('\\' :: c :: cs) ↔ c ≠ '"' ∧ c ≠ '\n' ∧ IsLiteralSource cs := by
  constructor
  · intro h
    have hc := h.inside ['\\'] c cs rfl
    refine ⟨fun hquote => hc (.inl hquote) endsOdd_backslash,
      fun hbreak => hc (.inr hbreak) endsOdd_backslash, fun front d back hcs hd => ?_,
      fun hlast => h.last (endsOdd_escaped.2 hlast)⟩
    exact fun hodd =>
      h.inside ('\\' :: c :: front) d back (by rw [hcs]; rfl) hd (endsOdd_escaped.2 hodd)
  · rintro ⟨hquote, hbreak, h⟩
    refine ⟨fun front d back hcs hd => ?_, fun hlast => h.last (endsOdd_escaped.1 hlast)⟩
    match front with
    | [] => exact not_endsOdd_nil
    | [_] =>
      obtain ⟨rfl, rfl⟩ : c = d ∧ cs = back := by simpa using (List.cons.inj hcs).2
      exact absurd hd (not_or.2 ⟨hquote, hbreak⟩)
    | _ :: _ :: front =>
      obtain ⟨rfl, htail⟩ := List.cons.inj hcs
      obtain ⟨rfl, hrest⟩ := List.cons.inj htail
      exact fun hodd => h.inside front d back hrest hd (endsOdd_escaped.1 hodd)

theorem escapeQuotes_quote (cs : List Char) :
    escapeQuotes ('"' :: cs) = '\\' :: '"' :: escapeQuotes cs := rfl

theorem escapeQuotes_cons {c : Char} (hc : c ≠ '"') (cs : List Char) :
    escapeQuotes (c :: cs) = c :: escapeQuotes cs := if_neg hc

theorem isQuotedBody_cons {c : Char} (hquote : c ≠ '"') (hslash : c ≠ '\\') {cs : List Char} :
    IsQuotedBody (c :: cs) ↔ IsQuotedBody cs := by
  refine ⟨fun h => ?_, .plain hquote hslash⟩
  cases h with
  | plain _ _ h => exact h
  | escaped => exact absurd rfl hslash

theorem isQuotedBody_escaped {c : Char} {cs : List Char} :
    IsQuotedBody ('\\' :: c :: cs) ↔ c ≠ '\n' ∧ IsQuotedBody cs := by
  refine ⟨fun h => ?_, fun h => .escaped h.1 h.2⟩
  cases h with
  | plain _ hslash => exact absurd rfl hslash
  | escaped hbreak h => exact ⟨hbreak, h⟩

theorem not_isQuotedBody_quote (cs : List Char) : ¬IsQuotedBody ('"' :: cs) := by
  rintro (_ | ⟨hquote, -, -⟩)
  exact hquote rfl

/-- Induction over a text in which a backslash takes the next character with it. -/
theorem escaped_induction {P : List Char → Prop} (nil : P []) (lone : P ['\\'])
    (escaped : ∀ c cs, P cs → P ('\\' :: c :: cs)) (plain : ∀ c cs, c ≠ '\\' → P cs → P (c :: cs)) :
    ∀ cs, P cs
  | [] => nil
  | [c] => if h : c = '\\' then h ▸ lone else plain c [] h nil
  | c :: d :: cs =>
    if h : c = '\\' then h ▸ escaped d cs (escaped_induction nil lone escaped plain cs)
    else plain c (d :: cs) h (escaped_induction nil lone escaped plain (d :: cs))

/-- A source can be written exactly if what is written stands between quotes as one token. -/
theorem isQuotedBody_escapeQuotes_iff {source : List Char} :
    IsQuotedBody (escapeQuotes source) ↔ IsLiteralSource source := by
  induction source using escaped_induction with
  | nil => exact iff_of_true .nil isLiteralSource_nil
  | lone =>
    refine iff_of_false ?_ not_isLiteralSource_backslash
    rintro (_ | ⟨-, hslash, -⟩)
    exact hslash rfl
  | escaped c cs ih =>
    rw [isLiteralSource_escaped, escapeQuotes_cons (by decide)]
    by_cases hc : c = '"'
    · subst hc
      rw [escapeQuotes_quote, isQuotedBody_escaped]
      exact iff_of_false (fun h => not_isQuotedBody_quote _ h.2) fun h => h.1 rfl
    · rw [escapeQuotes_cons hc, isQuotedBody_escaped, ih]
      exact (and_iff_right hc).symm
  | plain c cs hslash ih =>
    by_cases hc : c = '"'
    · subst hc
      rw [escapeQuotes_quote, isQuotedBody_escaped, isLiteralSource_cons hslash, ih]
      exact and_iff_right (by decide)
    · rw [escapeQuotes_cons hc, isQuotedBody_cons hc hslash, isLiteralSource_cons hslash, ih]

theorem unescapeQuotes_quote (cs : List Char) :
    unescapeQuotes ('\\' :: '"' :: cs) = '"' :: unescapeQuotes cs := by
  rw [unescapeQuotes]

/-- Only a backslash in front of a quote is taken off. -/
theorem unescapeQuotes_cons {c : Char} {cs : List Char} (h : c = '\\' → cs.head? ≠ some '"') :
    unescapeQuotes (c :: cs) = c :: unescapeQuotes cs := by
  rw [unescapeQuotes]
  rintro rest rfl rfl
  exact h rfl rfl

theorem head?_escapeQuotes_ne (cs : List Char) : (escapeQuotes cs).head? ≠ some '"' := by
  cases cs with
  | nil => simp [escapeQuotes]
  | cons c cs =>
    by_cases hc : c = '"'
    · subst hc
      simp [escapeQuotes_quote]
    · simp [escapeQuotes_cons hc, hc]

/-- What is written for a text is read as the text, whatever is in it. -/
theorem unescapeQuotes_escapeQuotes (cs : List Char) : unescapeQuotes (escapeQuotes cs) = cs := by
  induction cs with
  | nil => rfl
  | cons c cs ih =>
    by_cases hc : c = '"'
    · rw [hc, escapeQuotes_quote, unescapeQuotes_quote, ih]
    · rw [escapeQuotes_cons hc, unescapeQuotes_cons fun _ => head?_escapeQuotes_ne cs, ih]

theorem IsQuotedBody.head?_ne {body : List Char} (h : IsQuotedBody body) :
    body.head? ≠ some '"' := by
  cases h with
  | nil => simp
  | plain hquote => simpa using hquote
  | escaped => simp

/-- What is read from a token is written as the token again. -/
theorem IsQuotedBody.escapeQuotes_unescapeQuotes {body : List Char} (h : IsQuotedBody body) :
    escapeQuotes (unescapeQuotes body) = body := by
  induction h with
  | nil => rfl
  | plain hquote hslash _ ih =>
    rw [unescapeQuotes_cons fun hc => absurd hc hslash, escapeQuotes_cons hquote, ih]
  | @escaped c body hbreak hbody ih =>
    by_cases hc : c = '"'
    · rw [hc, unescapeQuotes_quote, escapeQuotes_quote, ih]
    · -- Behind two backslashes there is no quote, as the body goes on like one by itself.
      rw [unescapeQuotes_cons fun _ => by simpa using hc,
        unescapeQuotes_cons fun _ => hbody.head?_ne, escapeQuotes_cons (by decide),
        escapeQuotes_cons hc, ih]

theorem inner_regexLexeme (body : List Char) : inner 2 ('#' :: '"' :: (body ++ ['"'])) = body := by
  simp [inner]

/-- Exactly the sources that can be written have a token. -/
theorem matches_regexLiteral_iff {source : String} :
    Terminal.Matches .regex (regexLiteral source) ↔ IsLiteralSource source.toList := by
  rw [← isQuotedBody_escapeQuotes_iff]
  refine ⟨fun h => ?_, .regex⟩
  generalize hlexeme : regexLiteral source = lexeme at h
  cases h with
  | regex hbody =>
    have hbodies := (List.cons.inj (List.cons.inj hlexeme).2).2
    exact List.append_cancel_right hbodies ▸ hbody

/-- The entries of two parts are those of the first and then those of the second. -/
theorem IsEntries.entriesOf_append {a : List Token} (h : IsEntries (terminals a)) (b : List Token) :
    entriesOf (a ++ b) = entriesOf a ++ entriesOf b := by
  generalize hts : terminals a = ts at h
  induction h generalizing a with
  | nil =>
    obtain rfl := List.map_eq_nil_iff.1 hts
    rfl
  | cons _ _ ih =>
    obtain ⟨key, behind, rfl, -, hbehind⟩ := List.map_eq_cons_iff.1 hts
    obtain ⟨value, rest, rfl, -, hrest⟩ := List.map_eq_cons_iff.1 hbehind
    rw [List.cons_append, List.cons_append, entriesOf, entriesOf, ih hrest, List.cons_append]

namespace MeansEntries

variable [Regex.Engine] {pairs pairs' : List (Value × Value)} {a b body : List Char} {text : String}

/-- Entries start with a colon, so they lengthen no token in front of them. -/
theorem isBoundary (h : MeansEntries pairs a) : IsBoundary a := by
  obtain ⟨tokens, ⟨behind, left, hleft, hlexes⟩, hentries, -⟩ := h
  generalize hts : terminals tokens = ts at hentries
  cases hlexes with
  | nil => exact hleft.isBoundary
  | @cons _ _ gap lexeme _ _ t _ hgap htoken =>
    cases hentries with
    | nil => cases hts
    | cons =>
      obtain rfl : t = .keyword := (List.cons.inj hts).1
      have hcolon := htoken.1
      cases hcolon
      exact IsBoundary.append hgap (isBoundary_cons.2 (by decide))

theorem of_isGap (h : IsGap a) : MeansEntries [] a :=
  ⟨[], tokenizes_of_isGap h, .nil, rfl⟩

/-- Tokens of two texts that are entries together are those of both texts side by side. -/
theorem of_tokenizes {as bs : List Token} (ha : Tokenizes a as) (hb : Tokenizes b bs)
    (hends : ∀ c, b.head? = some c → EndsAt as c) (h : IsEntries (terminals (as ++ bs)))
    (hmeans : (entriesOf (as ++ bs)).mapM Entry.meaning = .ok pairs) :
    MeansEntries pairs (a ++ b) := by
  obtain ⟨tokens, htokens, hsame⟩ := ha.append hb hends
  rw [← unplaced_append] at hsame
  exact ⟨tokens, htokens, terminals_congr hsame ▸ h, (mapM_meaning_congr hsame).trans hmeans⟩

/-- Two texts of entries mean the entries of both. -/
theorem append (ha : MeansEntries pairs a) (hb : MeansEntries pairs' b) :
    MeansEntries (pairs ++ pairs') (a ++ b) := by
  have hboundary := hb.isBoundary
  obtain ⟨as, has, hentries, hmeans⟩ := ha
  obtain ⟨bs, hbs, hentries', hmeans'⟩ := hb
  refine of_tokenizes has hbs (hboundary.endsAt as) ?_ ?_
  · rw [terminals, List.map_append]
    exact hentries.append hentries'
  · rw [hentries.entriesOf_append, List.mapM_append, hmeans, hmeans']
    rfl

/-- A keyword with a regular expression is an entry. -/
theorem regexLiteral {name source : String} {gap : List Char} {r : Regex} (hne : name ≠ "")
    (hname : IsKeywordText name) (hgap : IsGap gap) (hsource : IsLiteralSource source.toList)
    (h : Regex.compile .none source = .ok r) :
    MeansEntries [(.text name, .regex r)]
      (':' :: name.toList ++ (gap ++ Notation.regexLiteral source)) := by
  have hkey : Terminal.Matches .keyword (':' :: name.toList) := .keyword (toList_ne_nil hne) hname
  have hvalue : Terminal.Matches .regex (Notation.regexLiteral source) :=
    matches_regexLiteral_iff.2 hsource
  have hkeyTokens := hkey.tokenizes isGap_nil isGap_nil
  have hvalueTokens := hvalue.tokenizes hgap isGap_nil
  rw [List.append_nil] at hkeyTokens hvalueTokens
  have hboundary : IsBoundary (gap ++ Notation.regexLiteral source) :=
    IsBoundary.append hgap (isBoundary_cons.2 (by decide))
  refine of_tokenizes hkeyTokens hvalueTokens (hboundary.endsAt _) (.cons .regex .nil) ?_
  have hregex : regexOf (Notation.regexLiteral source) = .ok (.regex r) := by
    rw [regexOf, Notation.regexLiteral, inner_regexLexeme, unescapeQuotes_escapeQuotes,
      String.ofList_toList, h]
    rfl
  simp [entriesOf, Entry.meaning, Token.meaning, hregex, pure, Except.pure, bind, Except.bind]

/-- Entries in braces are read as the query of what they mean. -/
theorem parse_eq (h : MeansEntries pairs body) (htext : InBraces body text) :
    parse text = .query <$> (Query.ofPairs pairs).mapError .ofFault := by
  obtain ⟨lead, trail, hlead, htrail, htext⟩ := htext
  obtain ⟨tokens, htokens, hentries, hmeans⟩ := h
  have hopen : Tokenizes (lead ++ (['{'] ++ [])) _ :=
    Terminal.Matches.openMap.tokenizes hlead isGap_nil
  have hclose : Tokenizes ([] ++ (['}'] ++ trail)) _ :=
    Terminal.Matches.closeMap.tokenizes isGap_nil htrail
  have hbrace : IsBoundary ('}' :: trail) := isBoundary_cons.2 (by decide)
  obtain ⟨closed, hclosed, hbehind⟩ := htokens.append hclose (hbrace.endsAt tokens)
  obtain ⟨all, hall, hfront⟩ := hopen.append hclosed (by rintro _ - _ ⟨⟩; rfl)
  rw [hbehind] at hfront
  change unplaced all = _ :: (unplaced tokens ++ [_]) at hfront
  -- So the tokens are the two braces, with those of the entries between them at other places.
  obtain ⟨opening, more, rfl, hopening, hmore⟩ := List.map_eq_cons_iff.1 hfront
  obtain ⟨inside, last, rfl, hinside, hlast⟩ := List.map_eq_append_iff.1 hmore
  obtain ⟨closing, rfl, hclosing⟩ := List.map_eq_singleton_iff.1 hlast
  have hinner : IsEntries (terminals inside) := terminals_congr hinside ▸ hentries
  have hmap : IsMap (terminals (opening :: (inside ++ [closing]))) := by
    rw [terminals, List.map_cons, List.map_append, List.map_singleton, (Prod.mk.inj hopening).1,
      (Prod.mk.inj hclosing).1]
    exact .braces hinner
  have htext' : text.toList = lead ++ (['{'] ++ []) ++ (body ++ ([] ++ (['}'] ++ trail))) := by
    rw [htext]
    simp
  rw [parse_of_isMap (htext' ▸ hall) hmap, evaluateMap, mapEntries, List.tail_cons,
    List.dropLast_concat, mapM_meaning_congr hinside, hmeans]
  rfl

end MeansEntries

theorem regexLexemes_append (a b : List Token) :
    regexLexemes (a ++ b) = regexLexemes a ++ regexLexemes b := by
  rw [regexLexemes, List.filter_append, List.map_append]
  rfl

theorem regexLexemes_cons {token : Token} (h : token.terminal ≠ .regex) (tokens : List Token) :
    regexLexemes (token :: tokens) = regexLexemes tokens := by
  rw [regexLexemes, List.filter_cons_of_neg (by simpa using h)]
  rfl

/-- The keys of entries are no regular expressions. -/
theorem IsEntries.regexLexemes_eq {tokens : List Token} (h : IsEntries (terminals tokens)) :
    regexLexemes tokens = regexLexemes ((entriesOf tokens).map (·.value)) := by
  generalize hts : terminals tokens = ts at h
  induction h generalizing tokens with
  | nil =>
    obtain rfl := List.map_eq_nil_iff.1 hts
    rfl
  | cons _ _ ih =>
    obtain ⟨key, behind, rfl, hkey, hbehind⟩ := List.map_eq_cons_iff.1 hts
    obtain ⟨value, rest, rfl, -, hrest⟩ := List.map_eq_cons_iff.1 hbehind
    rw [regexLexemes_cons (by rw [hkey]; decide), entriesOf, List.map_cons,
      ← List.singleton_append, regexLexemes_append, ih hrest, ← regexLexemes_append,
      List.singleton_append]

/-- The regular expressions of a map are values of its entries. -/
theorem IsMap.regexLexemes_eq {tokens : List Token} (h : IsMap (terminals tokens)) :
    regexLexemes tokens = regexLexemes ((mapEntries tokens).map (·.value)) := by
  generalize hts : terminals tokens = ts at h
  cases h with
  | braces hbody =>
    obtain ⟨first, body, close, rfl, hfirst, hentries, hclose⟩ := exists_of_terminals_eq hts
    rw [← hentries] at hbody
    have hnone : regexLexemes [close] = [] :=
      regexLexemes_cons (by rw [hclose]; decide) []
    rw [regexLexemes_cons (by rw [hfirst]; decide), regexLexemes_append, hnone, List.append_nil,
      mapEntries, List.tail_cons, List.dropLast_concat, hbody.regexLexemes_eq]

/-- The source of what a token means is written as the token. -/
theorem regexLiteral_of_regexOf [Regex.Engine] {lexeme : List Char} {v : Value}
    (hmatches : Terminal.Matches .regex lexeme) (h : regexOf lexeme = .ok v) :
    ∃ r, v = .regex r ∧ regexLiteral r.source = lexeme := by
  obtain ⟨r, hr, rfl⟩ := regexOf_eq_ok_iff.1 h
  refine ⟨r, rfl, ?_⟩
  cases hmatches with
  | regex hbody =>
    rw [regexLiteral, Regex.source_of_compile hr, inner_regexLexeme, String.toList_ofList,
      hbody.escapeQuotes_unescapeQuotes]

/-- Only a regular expression among the tokens means one. -/
theorem Token.ne_regex_of_meaning [Regex.Engine] {token : Token} {v : Value}
    (hterminal : token.terminal ≠ .regex) (h : token.meaning = .ok v) (r : Regex) :
    v ≠ .regex r := by
  rintro rfl
  rw [meaning] at h
  split at h
  · cases h
  · cases h
  · next hregex => exact hterminal hregex
  · simp only [integerOf] at h
    split at h <;> cases h
  · cases h

/-- An entry of a query is compared by a regular expression exactly if its value is written as one,
and then that is the token of its source. -/
theorem regexLexemes_of_meaning [Regex.Engine] {token : Token} {v : Value} {kind : Kind}
    {p : Predicate} (hmatches : token.terminal.Matches token.lexeme) (h : token.meaning = .ok v)
    (hvalue : Criterion.ofValue kind v = .ok p.criterion) :
    regexLexemes [token] = (Query.mk [p]).sources.map regexLiteral := by
  by_cases hterminal : token.terminal = .regex
  · rw [hterminal] at hmatches
    have hregex : regexOf token.lexeme = .ok v := by
      rw [← h, Token.meaning, hterminal]
    obtain ⟨r, rfl, hlexeme⟩ := regexLiteral_of_regexOf hmatches hregex
    have hcriterion : .pattern r = p.criterion := Except.ok.inj hvalue
    simp [regexLexemes, hterminal, Query.sources, Query.patterns, Predicate.isPattern,
      ← hcriterion, Criterion.isPattern, Criterion.text, hlexeme]
  · have hliteral : p.criterion.isPattern = false :=
      Criterion.isPattern_eq_false_of_ofValue (Token.isPlain_of_meaning h)
        (Token.ne_regex_of_meaning hterminal h) hvalue
    simp [regexLexemes, hterminal, Query.sources, Query.patterns, Predicate.isPattern, hliteral]

theorem Query.sources_cons (p : Predicate) (ps : List Predicate) :
    (Query.mk (p :: ps)).sources = (Query.mk [p]).sources ++ (Query.mk ps).sources := by
  rw [Query.sources, Query.patterns, ← List.singleton_append, List.filter_append, List.map_append]
  rfl

/-- The regular expressions of a query are those that its entries are written with. -/
theorem regexLexemes_of_evaluateMap [Regex.Engine] {entries : List Entry} {q : Query}
    (hmatches : ∀ entry ∈ entries, entry.value.terminal.Matches entry.value.lexeme)
    (h : evaluateMap entries = .ok q) :
    regexLexemes (entries.map (·.value)) = q.sources.map regexLiteral := by
  obtain ⟨pairs, hpairs, hquery⟩ := bind_eq_ok_iff.1 h
  have hentries := mapM_eq_ok_iff.1 hpairs
  have hpredicates :=
    Predicate.forall₂_of_ofPairs (Query.ofPairs_eq_ok_iff.1 (mapError_eq_ok_iff.1 hquery))
  obtain ⟨ps⟩ := q
  change List.Forall₂ Predicate.IsOf pairs ps at hpredicates
  clear hpairs hquery h
  induction hpredicates generalizing entries with
  | nil =>
    cases hentries
    rfl
  | @cons pair p pairs ps hp _ ih =>
    obtain _ | @⟨entry, _, entries, _, hentry, hentries⟩ := hentries
    obtain ⟨hvalue, hvalues⟩ := List.forall_mem_cons.1 hmatches
    obtain ⟨_, -, hentry⟩ := bind_eq_ok_iff.1 hentry
    obtain ⟨v, hv, hentry⟩ := bind_eq_ok_iff.1 hentry
    cases hentry
    rw [List.map_cons, ← List.singleton_append, regexLexemes_append, ih hvalues hentries,
      regexLexemes_of_meaning hvalue hv hp.criterion, ← List.map_append, ← Query.sources_cons]

/-- The regular expressions of a map are those that its tokens are. -/
theorem IsMap.regexLexemes_of_evaluateMap [Regex.Engine] {tokens : List Token} {q : Query}
    (hmap : IsMap (terminals tokens))
    (hmatches : ∀ token ∈ tokens, token.terminal.Matches token.lexeme)
    (h : evaluateMap (mapEntries tokens) = .ok q) :
    regexLexemes tokens = q.sources.map regexLiteral := by
  rw [hmap.regexLexemes_eq]
  refine Notation.regexLexemes_of_evaluateMap (fun entry hentry => ?_) h
  exact hmatches _ (hmap.of_mem_mapEntries entry hentry).2

/-- The regular expressions of several maps are those of their queries, as literals. -/
theorem regexLexemes_flatten [Regex.Engine] {blocks : List (List Token)} {qs : List Query}
    (hblocks : ∀ block ∈ blocks, IsMap (terminals block))
    (hmatches : ∀ token ∈ blocks.flatten, token.terminal.Matches token.lexeme)
    (h : List.Forall₂ (fun block q => evaluateMap (mapEntries block) = .ok q) blocks qs) :
    regexLexemes blocks.flatten = (qs.flatMap Query.sources).map regexLiteral := by
  induction h with
  | nil => rfl
  | cons hblock _ ih =>
    obtain ⟨hmap, hmaps⟩ := List.forall_mem_cons.1 hblocks
    rw [List.flatten_cons, List.forall_mem_append] at hmatches
    rw [List.flatten_cons, List.flatMap_cons, regexLexemes_append, List.map_append,
      hmap.regexLexemes_of_evaluateMap hmatches.1 hblock, ih hmaps hmatches.2]

/-- The regular expressions of what a text stands for are those that its tokens are. -/
theorem exists_regexLexemes_of_parse [Regex.Engine] {text : String} {parsed : Parsed}
    (h : parse text = .ok parsed) : ∃ tokens, Tokenizes text.toList tokens ∧
      regexLexemes tokens = parsed.sources.map regexLiteral := by
  obtain ⟨form, hread, h⟩ := bind_eq_ok_iff.1 h
  obtain ⟨tokens, htokens, hrun⟩ := Form.read_eq_ok_iff.1 hread
  refine ⟨tokens, htokens, ?_⟩
  obtain ⟨_, _, -, hlexes⟩ := htokens
  have hmatches := hlexes.matches
  cases form with
  | map entries =>
    have hmap := isMap_iff.2 ⟨entries, hrun⟩
    rw [hmap.run fun _ => Stage.step_start_openMap] at hrun
    cases hrun
    obtain ⟨q, hq, rfl⟩ := map_eq_ok_iff.1 h
    exact hmap.regexLexemes_of_evaluateMap hmatches hq
  | vector maps =>
    obtain ⟨opening, closing, blocks, rfl, hopen, hblocks, hclose⟩ :=
      (isVector_iff.2 ⟨maps, hrun⟩).exists_flatten
    rw [Stage.run_vector hopen hblocks hclose] at hrun
    cases hrun
    obtain ⟨qs, hqs, rfl⟩ := map_eq_ok_iff.1 h
    rw [List.mapM_map] at hqs
    have hnone : regexLexemes [closing] = [] := regexLexemes_cons (by rw [hclose]; decide) []
    rw [regexLexemes_cons (by rw [hopen]; decide), regexLexemes_append, hnone, List.append_nil]
    refine regexLexemes_flatten hblocks (fun token htoken => ?_) (mapM_eq_ok_iff.1 hqs)
    exact hmatches token (List.mem_cons_of_mem _ (List.mem_append_left _ htoken))

/-- Sources of regular expressions that are among tokens can be written. -/
theorem isLiteralSource_of_regexLexemes {cs : List Char} {tokens : List Token}
    (h : Tokenizes cs tokens) {source : String} (hmem : regexLiteral source ∈ regexLexemes tokens) :
    IsLiteralSource source.toList := by
  obtain ⟨_, _, -, hlexes⟩ := h
  obtain ⟨token, htoken, hlexeme⟩ := List.mem_map.1 hmem
  obtain ⟨htoken, hterminal⟩ := List.mem_filter.1 htoken
  have hmatches := hlexes.matches token htoken
  rw [beq_iff_eq.1 hterminal, hlexeme] at hmatches
  exact matches_regexLiteral_iff.1 hmatches

/-- A source that is accepted and can be written is read back from its token: wherever the token is
the value of a keyword in a map, the entry is compared by a regular expression with this source, and
the map is a query exactly if the other entries are one that does not have the keyword. Conversely,
the tokens of the regular expressions in a text that is read are, in their order, those that the
sources in what is read are written as. -/
theorem parse_regexLiteral [Regex.Engine] :
    (∀ source r, Regex.compile .none source = .ok r → IsLiteralSource source.toList →
      r.source = source ∧
      ∀ name before front gap after back text, name ≠ "" → IsKeywordText name → IsGap gap →
        MeansEntries front before → MeansEntries back after →
        InBraces (before ++ (':' :: name.toList ++ (gap ++ regexLiteral source) ++ after)) text →
        ((∃ q, parse text = .ok (.query q)) ↔
          MakeQuery (front ++ back) ∧ some name ∉ (front ++ back).map entryName?) ∧
        ∀ q, parse text = .ok (.query q) →
          q.predicates[front.length]? = some ⟨name, Kind.ofKey name, .pattern r⟩) ∧
    ∀ text parsed, parse text = .ok parsed → ∃ tokens, Tokenizes text.toList tokens ∧
      regexLexemes tokens = parsed.sources.map regexLiteral ∧
      ∀ source ∈ parsed.sources, IsLiteralSource source.toList := by
  refine ⟨fun source r hr hsource => ⟨Regex.source_of_compile hr, ?_⟩, fun text parsed h => ?_⟩
  · intro name before front gap after back text hne hname hgap hfront hback htext
    have hentry := MeansEntries.regexLiteral hne hname hgap hsource hr
    have hparse := (hfront.append (hentry.append hback)).parse_eq htext
    have hquery : ∀ q, parse text = .ok (.query q) ↔
        Query.ofPairs (front ++ (.text name, .regex r) :: back) = .ok q := by
      intro q
      rw [hparse, map_eq_ok_iff]
      simp [mapError_eq_ok_iff]
    have hkey : entryName? (.text name, .regex r) = some name :=
      congrArg some hname.bareName_eq
    have hvalue : Criterion.ofValue (Kind.ofKey name) (.regex r) = .ok (.pattern r) := rfl
    refine ⟨?_, fun q hq => ?_⟩
    · rw [exists_congr hquery, Query.exists_ofPairs_middle_iff ⟨hkey, hne, _, hvalue⟩]
    · obtain ⟨earlier, later, hsplit, hearlier, -⟩ :=
        Query.exists_predicates_middle hkey hvalue ((hquery q).1 hq)
      rw [hsplit, hearlier.length_eq]
      simp
  · obtain ⟨tokens, htokens, hlexemes⟩ := exists_regexLexemes_of_parse h
    refine ⟨tokens, htokens, hlexemes, fun source hmem => ?_⟩
    exact isLiteralSource_of_regexLexemes htokens (hlexemes ▸ List.mem_map_of_mem hmem)

/-- Two backslashes in front of a quote stay two of three, and the other entry is a quote alone. -/
theorem parse_regexLiteral_backslashes :
    let source := "\\\\\""
    let text := "\x7b:a#\"\\\\\\\"\":b #\"\\\"\"\x7d"
    regexLiteral source = "#\"\\\\\\\"\"".toList ∧ ∃ r q, Regex.compile .none source = .ok r ∧
      parse text = .ok (.query q) ∧ q.predicates[0]? = some ⟨"a", .named, .pattern r⟩ ∧
      r.source = source := by
  intro source text
  obtain ⟨r, hr⟩ : ∃ r, Regex.compile .none "\\\\\"" = .ok r := ⟨_, rfl⟩
  obtain ⟨r', hr'⟩ : ∃ r, Regex.compile .none "\"" = .ok r := ⟨_, rfl⟩
  have hquote : IsLiteralSource ['"'] := (isLiteralSource_cons (by decide)).2 isLiteralSource_nil
  have hsource : IsLiteralSource ['\\', '\\', '"'] :=
    isLiteralSource_escaped.2 ⟨by decide, by decide, hquote⟩
  have hother : MeansEntries [(.text "b", .regex r')] (":b #\"\\\"\"".toList) :=
    MeansEntries.regexLiteral (by decide) (by decide) (show IsGap [' '] by decide) (by simpa) hr'
  obtain ⟨hwritten, -⟩ := parse_regexLiteral
  obtain ⟨heq, hmap⟩ := hwritten source r hr (by simpa [source] using hsource)
  obtain ⟨hquery, hentry⟩ := hmap "a" [] [] [] _ _ text (by decide) (by decide) isGap_nil
    (.of_isGap isGap_nil) hother
    ⟨[], [], isGap_nil, isGap_nil, by simp [text, source, regexLiteral, escapeQuotes]⟩
  have hkey : entryName? (.text "b", .regex r') = some "b" := rfl
  have hrules : MakeQuery [(.text "b", .regex r')] :=
    ⟨List.forall_mem_singleton.2 ⟨"b", hkey, by decide, .pattern r', rfl⟩, by simp⟩
  obtain ⟨q, hq⟩ := hquery.2 ⟨hrules, by simp [hkey]⟩
  exact ⟨by simp [source, regexLiteral, escapeQuotes], r, q, hr, hq, hentry q hq, heq⟩

end Notation

end ElementQuery
