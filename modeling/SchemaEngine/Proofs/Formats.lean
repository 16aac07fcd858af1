import SchemaEngine.Check.Text
import SchemaEngine.Proofs.CheckTypes
import SchemaEngine.Proofs.Languages

/-!
# What the formats accept

Each of the three formats frames its patterns by the two ends of a text, so a check by it
accepts the texts of a language.

* Mail addresses and identifiers are exactly those of their grammars
  (`Schema.address_grammars`).  The point stands in the host of a mail address and in front of
  its domain, but not in the domain: so the point in front of the domain is the last one, and
  no other way to take the text apart remains.
* A web address may hold white space at one place (`Schema.url_accepts_iff`), since the class of
  the character behind the first one of the authority leaves out only the line feed.
-/

namespace SchemaEngine
namespace Pattern

/-! ## Mail addresses -/

/-- A mailbox, the only at-sign, a host, and behind the last point a domain of two letters or
more.  Letters and digits are those of ASCII. -/
def MailAddress (cs : List Char) : Prop :=
  cs.count '@' = 1 ∧ ∃ mailbox host domain,
    cs = mailbox ++ '@' :: (host ++ '.' :: domain) ∧
    mailbox ≠ [] ∧ (∀ c ∈ mailbox, c.isAlphanum ∨ c ∈ ['.', '_', '%', '+', '-']) ∧
    host ≠ [] ∧ (∀ c ∈ host, c.isAlphanum ∨ c ∈ ['.', '-']) ∧
    '.' ∉ domain ∧ 2 ≤ domain.length ∧ ∀ c ∈ domain, c.isAlpha

theorem mailboxChar_iff (c : Char) :
    mailboxChar c = true ↔ c.isAlphanum = true ∨ c ∈ ['.', '_', '%', '+', '-'] := by
  simp [mailboxChar]

theorem hostChar_iff (c : Char) :
    hostChar c = true ↔ c.isAlphanum = true ∨ c ∈ ['.', '-'] := by
  simp [hostChar]

theorem not_mem_of_class {p : Char → Bool} {cs : List Char} {c : Char}
    (h : ∀ d ∈ cs, p d = true) (hc : p c = false) : c ∉ cs :=
  fun hmem => Bool.false_ne_true (hc.symm.trans (h c hmem))

theorem email_occursIn_iff (s : String) : email.occursIn s = true ↔ MailAddress s.toList := by
  refine (occursIn_framed_iff [plus (.char mailboxChar), literal '@', plus (.char hostChar),
    literal '.', .repeated 2 none (.char Char.isAlpha)]
    (by simp [plus, literal, Anchorless]) s).trans ?_
  simp only [List.map_cons, List.map_nil, List.prod_cons, List.prod_nil, mul_one,
    Language.mem_mul, mem_language_literal, mem_language_plus_char, mem_language_repeated_char]
  constructor
  · rintro ⟨mailbox, ⟨hmailbox, hbox⟩, _, ⟨_, rfl, _, ⟨host, ⟨hhost, hchars⟩, _,
      ⟨_, rfl, domain, ⟨hdomain, -, hletters⟩, rfl⟩, rfl⟩, rfl⟩, hs⟩
    refine ⟨?_, mailbox, host, domain, hs.symm, hmailbox, fun c hc => ?_, hhost, fun c hc => ?_,
      not_mem_of_class hletters rfl, hdomain, hletters⟩
    · have hbefore : mailbox.count '@' = 0 :=
        List.count_eq_zero.mpr (not_mem_of_class hbox (by decide))
      have hbetween : host.count '@' = 0 :=
        List.count_eq_zero.mpr (not_mem_of_class hchars (by decide))
      have hbehind : domain.count '@' = 0 :=
        List.count_eq_zero.mpr (not_mem_of_class hletters (by decide))
      simp [← hs, hbefore, hbetween, hbehind]
    · exact (mailboxChar_iff c).mp (hbox c hc)
    · exact (hostChar_iff c).mp (hchars c hc)
  · rintro ⟨-, mailbox, host, domain, hs, hmailbox, hbox, hhost, hchars, -, hdomain, hletters⟩
    have hbox : ∀ c ∈ mailbox, mailboxChar c = true :=
      fun c hc => (mailboxChar_iff c).mpr (hbox c hc)
    have hchars : ∀ c ∈ host, hostChar c = true := fun c hc => (hostChar_iff c).mpr (hchars c hc)
    exact ⟨mailbox, ⟨hmailbox, hbox⟩, _, ⟨_, rfl, _, ⟨host, ⟨hhost, hchars⟩, _,
      ⟨_, rfl, domain, ⟨hdomain, by simp, hletters⟩, rfl⟩, rfl⟩, rfl⟩, hs.symm⟩

/-! ## Identifiers -/

/-- Five groups of hexadecimal digits, of 8, 4, 4, 4 and 12, with a hyphen between each two. -/
def GroupedDigits (cs : List Char) : Prop :=
  ∃ groups : List (List Char), groups.map List.length = [8, 4, 4, 4, 12] ∧
    (∀ g ∈ groups, ∀ c ∈ g, Text.isHexDigit c = true) ∧ cs = ['-'].intercalate groups

theorem uuid_occursIn_iff (s : String) : uuid.occursIn s = true ↔ GroupedDigits s.toList := by
  let groups := ([8, 4, 4, 4, 12].map fun n => times n (.char Text.isHexDigit)).intersperse
    (literal '-')
  have hfree : ∀ p ∈ groups, p.Anchorless := by
    simp [groups, times, literal, Anchorless]
  exact (occursIn_framed_iff groups hfree s).trans mem_prod_groups

/-! ## Web addresses -/

/-- What two slashes follow at the beginning of a web address, and the slashes. -/
def schemes : List (List Char) := ["http://".toList, "https://".toList]

/-- A character of an authority that can be its first. -/
theorem authorityChar_iff (c : Char) :
    authorityChar c = true ↔
      Unicode.isWhiteSpace c = false ∧ c ∉ ['/', '$', '.', '?', '#'] := by
  simp [authorityChar]

theorem mem_prod_scheme {x : List Char} {L : Language Char} :
    x ∈ (seqAll ("http".toList.map literal)).language *
        ((opt (literal 's')).language * ((seqAll ("://".toList.map literal)).language * L)) ↔
      ∃ scheme ∈ schemes, ∃ y ∈ L, x = scheme ++ y := by
  simp only [Language.mem_mul, mem_language_literals, mem_language_opt_literal]
  constructor
  · rintro ⟨_, rfl, _, ⟨secure, hsecure, _, ⟨_, rfl, y, hy, rfl⟩, rfl⟩, rfl⟩
    rcases hsecure with rfl | rfl
    · exact ⟨_, List.mem_cons_self .., y, hy, rfl⟩
    · exact ⟨_, List.mem_cons_of_mem _ (List.mem_cons_self ..), y, hy, rfl⟩
  · rintro ⟨scheme, hscheme, y, hy, rfl⟩
    rcases List.mem_pair.mp hscheme with rfl | rfl
    · exact ⟨_, rfl, _, ⟨[], .inl rfl, _, ⟨_, rfl, y, hy, rfl⟩, rfl⟩, rfl⟩
    · exact ⟨_, rfl, _, ⟨['s'], .inr rfl, _, ⟨_, rfl, y, hy, rfl⟩, rfl⟩, rfl⟩

/-- A scheme, a character that can begin an authority, any character `second` but a line feed,
and more characters.  None of them but `second` can be white space. -/
def WebAddress (cs : List Char) (second : Char) : Prop :=
  ∃ scheme ∈ schemes, ∃ first rest,
    cs = scheme ++ first :: second :: rest ∧
    first ∉ ['/', '$', '.', '?', '#'] ∧ second ≠ '\n' ∧
    ∀ c ∈ first :: rest, Unicode.isWhiteSpace c = false

theorem url_occursIn_iff (s : String) :
    url.occursIn s = true ↔ ∃ second, WebAddress s.toList second := by
  refine (occursIn_framed_iff [seqAll ("http".toList.map literal), opt (literal 's'),
    seqAll ("://".toList.map literal), .char authorityChar, .char lineChar,
    star (.char solidChar)] ?_ s).trans ?_
  · simp [seqAll, opt, literal, star, Anchorless]
  · rw [List.map_cons, List.map_cons, List.map_cons, List.prod_cons, List.prod_cons,
      List.prod_cons, mem_prod_scheme]
    simp only [List.map_cons, List.map_nil, List.prod_cons, List.prod_nil, mul_one,
      Language.mem_mul, mem_language_char, mem_language_star_char]
    constructor
    · rintro ⟨scheme, hscheme, _, ⟨_, ⟨first, hfirst, rfl⟩, _,
        ⟨_, ⟨second, hsecond, rfl⟩, rest, hrest, rfl⟩, rfl⟩, hs⟩
      obtain ⟨hsolid, hfirst⟩ := (authorityChar_iff first).mp hfirst
      have hrest : ∀ c ∈ rest, Unicode.isWhiteSpace c = false := by simpa [solidChar] using hrest
      exact ⟨second, scheme, hscheme, first, rest, hs, hfirst, by simpa [lineChar] using hsecond,
        List.forall_mem_cons.mpr ⟨hsolid, hrest⟩⟩
    · rintro ⟨second, scheme, hscheme, first, rest, hs, hfirst, hsecond, hsolid⟩
      obtain ⟨hsolid, hrest⟩ := List.forall_mem_cons.mp hsolid
      exact ⟨scheme, hscheme, _,
        ⟨_, ⟨first, (authorityChar_iff first).mpr ⟨hsolid, hfirst⟩, rfl⟩, _,
          ⟨_, ⟨second, by simpa [lineChar] using hsecond, rfl⟩, rest,
            by simpa [solidChar] using hrest, rfl⟩, rfl⟩, hs⟩

/-- The white space of a web address is its one free character. -/
theorem WebAddress.mem_whiteSpace_iff {cs : List Char} {second : Char} (h : WebAddress cs second)
    {c : Char} (hc : Unicode.isWhiteSpace c = true) : c ∈ cs ↔ c = second := by
  obtain ⟨scheme, hscheme, first, rest, rfl, -, -, hsolid⟩ := h
  have hnone : ∀ {ds : List Char}, (∀ d ∈ ds, Unicode.isWhiteSpace d = false) → c ∉ ds :=
    fun hds hmem => Bool.false_ne_true ((hds c hmem).symm.trans hc)
  have hscheme : scheme.any Unicode.isWhiteSpace = false := by
    rcases List.mem_pair.mp hscheme with rfl | rfl <;> rfl
  have hscheme : c ∉ scheme := fun hmem =>
    Bool.false_ne_true (hscheme.symm.trans (List.any_eq_true.mpr ⟨c, hmem, hc⟩))
  obtain ⟨hfirst, hrest⟩ := List.forall_mem_cons.mp hsolid
  have hfirst : c ≠ first := fun h => Bool.false_ne_true (hfirst.symm.trans (h ▸ hc))
  simp [hscheme, hfirst, hnone hrest]

end Pattern

open Pattern

/-! ## Checks of texts by a format -/

namespace Schema

/-- A text passes a check of texts when the check holds of it. -/
theorem text_accepts_iff (p : String → Bool) (requirement : String) (label : Label) (s : String)
    (o : Options) (d : Draws) :
    (∃ w, (((leaf .string label).attach (Check.text p requirement)).safeParse o (.text s) d).1 =
      .ok w) ↔ p s = true := by
  have hreaches : (leaf .string label).run (.text s) o d = (.ok (.text s), d) := rfl
  rw [safeParse, Check.text, Check.onInput, run_refine hreaches, Condition.text]
  cases p s with
  | true => exact iff_of_true ⟨_, rfl⟩ rfl
  | false =>
    refine iff_of_false ?_ Bool.false_ne_true
    rintro ⟨w, hw⟩
    cases hw

/-- **A web address has no white space but at one place.**  Accepted are the texts made of a
scheme, a character that can begin an authority, any character but a line feed, and characters
none of which is white space.  So an accepted text has white space just when the free character
is white space. -/
theorem url_accepts_iff (label : Label) (s : String) (o : Options) (d : Draws) :
    let accepted := ∃ w, (((leaf .string label).attach Check.url).safeParse o (.text s) d).1 = .ok w
    (accepted ↔ ∃ second, WebAddress s.toList second) ∧
      ((accepted ∧ ∃ c ∈ s.toList, Unicode.isWhiteSpace c = true) ↔
        ∃ second, WebAddress s.toList second ∧ Unicode.isWhiteSpace second = true) := by
  intro accepted
  have haccepted : accepted ↔ ∃ second, WebAddress s.toList second :=
    (text_accepts_iff _ _ label s o d).trans (url_occursIn_iff s)
  refine ⟨haccepted, ?_⟩
  rw [haccepted]
  constructor
  · rintro ⟨⟨second, hs⟩, c, hmem, hc⟩
    obtain rfl := (hs.mem_whiteSpace_iff hc).mp hmem
    exact ⟨c, hs, hc⟩
  · rintro ⟨second, hs, hsecond⟩
    exact ⟨⟨second, hs⟩, second, (hs.mem_whiteSpace_iff hsecond).mpr rfl, hsecond⟩

/-- A blank as the second character of the authority is accepted. -/
theorem blank_passes_url :
    let s := "http://a b"
    let schema := (leaf .string {}).attach Check.url
    schema.safeParse {} (.text s) [] = (.ok (.text s), []) ∧
    ' ' ∈ s.toList ∧ Unicode.isWhiteSpace ' ' = true := by
  exact ⟨(accepts_refine_iff rfl _ _ _).mpr (by decide +kernel), by decide, by decide⟩

/-- **Mail addresses and identifiers are those of their grammars.** -/
theorem address_grammars (label : Label) (s : String) (o : Options) (d : Draws) :
    let accepts := fun check =>
      ∃ w, (((leaf .string label).attach check).safeParse o (.text s) d).1 = .ok w
    (accepts Check.email ↔ MailAddress s.toList) ∧
      (accepts Check.uuid ↔ GroupedDigits s.toList) := by
  intro accepts
  exact ⟨(text_accepts_iff _ _ label s o d).trans (email_occursIn_iff s),
    (text_accepts_iff _ _ label s o d).trans (uuid_occursIn_iff s)⟩

end Schema
end SchemaEngine
