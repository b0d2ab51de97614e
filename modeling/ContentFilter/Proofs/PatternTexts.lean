import ContentFilter.Literal
import Mathlib.Data.List.Infix

/-!
# What a pattern finds

A pattern stands for texts that contain its text, start with it or end with it.  Two backends get it
in writing: as a regular expression, in which `.*` is a gap, and as a term of a query string, in
which an asterisk is one.  In either a backslash quotes a character that would mean something else.
The two gaps differ: that of a regular expression holds no line feed.

* `OccursIn`, `StandsLast`, `BeginsOnFirstLine` — where a text may stand in another, case apart.
* `accepts_iff_beginsOnFirstLine` — **a pattern with a gap before it accepts the texts in which its
  text begins on the first line**, whether there is a gap after it or not.
* `Dialect.Reads` — what a text with gaps reads, however it is written down; `reads_quote` and
  `reads_gap` take it apart.
* `accepts_iff_finds` — **a pattern accepts what its regular expression finds**, held to the start
  of a text.
* `reads_queryTerm_like`, `reads_queryTerm_endsWith` — **the terms of a query string read the texts
  that contain the literal, and those that end with it.**
-/

namespace ContentFilter

namespace Text

/-- A text with each letter in place of all that differ from it in case only. -/
def foldLetters (cs : List Char) : List Char := cs.map foldLetter

variable {text s : List Char}

theorem foldLetters_append : foldLetters (text ++ s) = foldLetters text ++ foldLetters s :=
  List.map_append

theorem foldLetters_prefix_iff : foldLetters text <+: foldLetters s ↔
    ∃ hit after, s = hit ++ after ∧ foldLetters hit = foldLetters text := by
  constructor
  · rintro ⟨bs, h⟩
    obtain ⟨hit, after, rfl, hhit, -⟩ := List.map_eq_append_iff.1 h.symm
    exact ⟨hit, after, rfl, hhit⟩
  · rintro ⟨hit, after, rfl, hhit⟩
    exact ⟨foldLetters after, by rw [foldLetters_append, hhit]⟩

theorem foldLetters_suffix_iff : foldLetters text <:+ foldLetters s ↔
    ∃ before hit, s = before ++ hit ∧ foldLetters hit = foldLetters text := by
  constructor
  · rintro ⟨as, h⟩
    obtain ⟨before, hit, rfl, -, hhit⟩ := List.map_eq_append_iff.1 h.symm
    exact ⟨before, hit, rfl, hhit⟩
  · rintro ⟨before, hit, rfl, hhit⟩
    exact ⟨foldLetters before, by rw [foldLetters_append, hhit]⟩

end Text

namespace Pattern

variable {text s before after : List Char} {p : Pattern}

/-! ## Where a text stands -/

/-- A text occurs in another, case apart. -/
def OccursIn (text s : List Char) : Prop := Text.foldLetters text <:+: Text.foldLetters s

/-- A text stands at the end of another, case apart. -/
def StandsLast (text s : List Char) : Prop := Text.foldLetters text <:+ Text.foldLetters s

/-- A text occurs in another, case apart, and no line feed stands before it. -/
def BeginsOnFirstLine (text s : List Char) : Prop :=
  ∃ before after, s = before ++ after ∧ '\n' ∉ before ∧
    Text.foldLetters text <+: Text.foldLetters after

instance (text s : List Char) : Decidable (OccursIn text s) :=
  inferInstanceAs (Decidable (_ <:+: _))

instance (text s : List Char) : Decidable (StandsLast text s) :=
  inferInstanceAs (Decidable (_ <:+ _))

theorem occursIn_iff : OccursIn text s ↔
    ∃ before after, s = before ++ after ∧ Text.foldLetters text <+: Text.foldLetters after := by
  rw [OccursIn, List.infix_iff_prefix_suffix]
  constructor
  · rintro ⟨_, hprefix, hsuffix⟩
    obtain ⟨as, hsuffix⟩ := hsuffix
    obtain ⟨before, after, rfl, -, rfl⟩ := List.map_eq_append_iff.1 hsuffix.symm
    exact ⟨before, after, rfl, hprefix⟩
  · rintro ⟨before, after, rfl, h⟩
    exact ⟨Text.foldLetters after, h, Text.foldLetters_suffix_iff.2 ⟨before, after, rfl, rfl⟩⟩

theorem StandsLast.occursIn (h : StandsLast text s) : OccursIn text s := h.isInfix

theorem BeginsOnFirstLine.occursIn (h : BeginsOnFirstLine text s) : OccursIn text s := by
  obtain ⟨before, after, hs, -, hafter⟩ := h
  exact occursIn_iff.2 ⟨before, after, hs, hafter⟩

/-- In a text of one line, whatever occurs begins on the first. -/
theorem beginsOnFirstLine_iff (h : '\n' ∉ s) : BeginsOnFirstLine text s ↔ OccursIn text s := by
  refine ⟨BeginsOnFirstLine.occursIn, fun hoccurs => ?_⟩
  obtain ⟨before, after, rfl, hafter⟩ := occursIn_iff.1 hoccurs
  exact ⟨before, after, rfl, fun hmem => h (List.mem_append_left _ hmem), hafter⟩

/-! ## What a pattern accepts -/

theorem opens_iff : opens text s = true ↔ Text.foldLetters text <+: Text.foldLetters s := by
  induction text generalizing s with
  | nil => simp [Text.foldLetters]
  | cons c text ih =>
    cases s with
    | nil => simp [opens, Text.foldLetters]
    | cons d s =>
      rw [opens, Bool.and_eq_true, ih, Text.alike, beq_iff_eq]
      exact List.cons_prefix_cons.symm

theorem afterGap_iff {test : List Char → Bool} : afterGap test s = true ↔
    ∃ before after, s = before ++ after ∧ '\n' ∉ before ∧ test after = true := by
  induction s with
  | nil =>
    rw [afterGap]
    constructor
    · exact fun h => ⟨[], [], rfl, List.not_mem_nil, h⟩
    · rintro ⟨before, after, hs, -, h⟩
      obtain ⟨rfl, rfl⟩ := List.append_eq_nil_iff.1 hs.symm
      exact h
  | cons d s ih =>
    rw [afterGap, Bool.or_eq_true, Bool.and_eq_true, ih, bne_iff_ne]
    constructor
    · rintro (h | ⟨hd, before, after, rfl, hbefore, h⟩)
      · exact ⟨[], d :: s, rfl, List.not_mem_nil, h⟩
      · refine ⟨d :: before, after, rfl, ?_, h⟩
        rw [List.mem_cons, not_or]
        exact ⟨hd.symm, hbefore⟩
    · rintro ⟨before, after, hs, hbefore, h⟩
      cases before with
      | nil => exact .inl (by rw [hs]; exact h)
      | cons e before =>
        obtain ⟨rfl, rfl⟩ := List.cons.inj hs
        rw [List.mem_cons, not_or] at hbefore
        exact .inr ⟨hbefore.1 ∘ Eq.symm, before, after, rfl, hbefore.2, h⟩

theorem afterGap_opens_iff : afterGap (opens text) s = true ↔ BeginsOnFirstLine text s := by
  rw [afterGap_iff]
  simp only [opens_iff]
  rfl

instance (text s : List Char) : Decidable (BeginsOnFirstLine text s) :=
  decidable_of_iff _ afterGap_opens_iff

/-- **A pattern with a gap before it accepts the texts in which its text begins on the first
line.**  A gap after it changes nothing. -/
theorem accepts_iff_beginsOnFirstLine (h : p.gapBefore = true) (s : String) :
    p.accepts s = true ↔ BeginsOnFirstLine p.text s.toList := by
  rw [accepts, if_pos h, afterGap_opens_iff]

end Pattern

/-! ## Texts with gaps -/

/-- A way to write down texts with gaps. -/
structure Dialect where
  /-- The characters with a meaning of their own, which a backslash quotes. -/
  special : List Char
  /-- The first of the characters that a gap is written with. -/
  gapHead : Char
  /-- The further characters that a gap is written with. -/
  gapTail : List Char
  /-- Whether a character may stand in a gap. -/
  fills : Char → Bool
  backslash_mem : '\\' ∈ special
  gapHead_mem : gapHead ∈ special
  gapHead_ne : gapHead ≠ '\\'

namespace Dialect

/-- Regular expressions, whose gaps hold no line feed. -/
def regular : Dialect where
  special := ['\\', '.', '+', '*', '?', '(', ')', '|', '[', ']', '\x7b', '\x7d', '^', '$', '#', '&',
    '-', '~']
  gapHead := '.'
  gapTail := ['*']
  fills c := c != '\n'
  backslash_mem := by decide
  gapHead_mem := by decide
  gapHead_ne := by decide

/-- Terms of a query string. -/
def term : Dialect where
  special := ['+', '-', '=', '&', '|', '>', '<', '!', '(', ')', '\x7b', '\x7d', '[', ']', '^', '"',
    '~', '*', '?', ':', '\\', '/', ' ']
  gapHead := '*'
  gapTail := []
  fills _ := true
  backslash_mem := by decide
  gapHead_mem := by decide
  gapHead_ne := by decide

/-- A gap as it is written. -/
def gap (d : Dialect) : List Char := d.gapHead :: d.gapTail

/-- A character as it stands for itself. -/
def quoteChar (d : Dialect) (c : Char) : List Char :=
  if d.special.contains c then ['\\', c] else [c]

/-- A text as it stands for itself. -/
def quote (d : Dialect) (text : List Char) : List Char := text.flatMap d.quoteChar

/-- What is written reads a text up to a rest: a quoted or plain character reads one that differs
from it in case only, and a gap reads any number of the characters that may stand in it. -/
inductive Reads (d : Dialect) : (written s rest : List Char) → Prop where
  | done {s : List Char} : Reads d [] s s
  | quoted {c e : Char} {w s rest : List Char} (hc : c ∈ d.special)
      (h : Text.alike c e = true) (hrest : Reads d w s rest) :
      Reads d ('\\' :: c :: w) (e :: s) rest
  | plain {c e : Char} {w s rest : List Char} (hc : c ∉ d.special)
      (h : Text.alike c e = true) (hrest : Reads d w s rest) : Reads d (c :: w) (e :: s) rest
  | skip {w s rest : List Char} (hrest : Reads d w s rest) : Reads d (d.gap ++ w) s rest
  | fill {e : Char} {w s rest : List Char} (he : d.fills e = true)
      (hrest : Reads d (d.gap ++ w) s rest) : Reads d (d.gap ++ w) (e :: s) rest

variable {d : Dialect} {c e : Char} {text w s rest : List Char}

theorem reads_nil : d.Reads [] s rest ↔ s = rest := by
  constructor
  · intro h
    generalize hw : ([] : List Char) = written at h
    cases h with
    | done => rfl
    | quoted => cases hw
    | plain => cases hw
    | skip => cases hw
    | fill => cases hw
  · rintro rfl
    exact .done

theorem reads_quoteChar : d.Reads (d.quoteChar c ++ w) s rest ↔
    ∃ e s', s = e :: s' ∧ Text.alike c e = true ∧ d.Reads w s' rest := by
  unfold quoteChar
  by_cases hc : c ∈ d.special
  · rw [if_pos (List.contains_iff_mem.2 hc)]
    constructor
    · intro h
      generalize hw : ['\\', c] ++ w = written at h
      cases h with
      | done => cases hw
      | quoted _ h hrest =>
        cases hw
        exact ⟨_, _, rfl, h, hrest⟩
      | plain hplain =>
        cases hw
        exact absurd d.backslash_mem hplain
      | skip => exact absurd (List.cons.inj hw).1.symm d.gapHead_ne
      | fill => exact absurd (List.cons.inj hw).1.symm d.gapHead_ne
    · rintro ⟨e, s', rfl, h, hrest⟩
      exact .quoted hc h hrest
  · rw [if_neg fun h => hc (List.contains_iff_mem.1 h)]
    constructor
    · intro h
      generalize hw : [c] ++ w = written at h
      cases h with
      | done => cases hw
      | quoted =>
        cases hw
        exact absurd d.backslash_mem hc
      | plain _ h hrest =>
        cases hw
        exact ⟨_, _, rfl, h, hrest⟩
      | skip => exact absurd ((List.cons.inj hw).1 ▸ d.gapHead_mem) hc
      | fill => exact absurd ((List.cons.inj hw).1 ▸ d.gapHead_mem) hc
    · rintro ⟨e, s', rfl, h, hrest⟩
      exact .plain hc h hrest

theorem quote_cons : d.quote (c :: text) = d.quoteChar c ++ d.quote text := List.flatMap_cons

/-- A quoted text reads the texts that differ from it in case only. -/
theorem reads_quote : d.Reads (d.quote text ++ w) s rest ↔
    ∃ hit after, s = hit ++ after ∧ Text.foldLetters hit = Text.foldLetters text ∧
      d.Reads w after rest := by
  induction text generalizing s with
  | nil => simp [quote, Text.foldLetters]
  | cons c text ih =>
    rw [quote_cons, List.append_assoc, reads_quoteChar]
    simp only [ih]
    constructor
    · rintro ⟨e, s', rfl, hce, hit, after, rfl, hhit, hrest⟩
      refine ⟨e :: hit, after, rfl, ?_, hrest⟩
      rw [Text.foldLetters, List.map_cons, ← Text.foldLetters, hhit, ← eq_of_beq hce]
      rfl
    · rintro ⟨hit, after, rfl, hhit, hrest⟩
      cases hit with
      | nil => cases hhit
      | cons e hit =>
        obtain ⟨hce, hhit⟩ := List.cons.inj hhit
        exact ⟨e, hit ++ after, rfl, beq_iff_eq.2 hce.symm, hit, after, rfl, hhit, hrest⟩

/-- A gap reads any number of characters that may stand in it. -/
theorem reads_gap : d.Reads (d.gap ++ w) s rest ↔
    ∃ before after, s = before ++ after ∧ (∀ e ∈ before, d.fills e = true) ∧
      d.Reads w after rest := by
  constructor
  · intro h
    generalize hw : d.gap ++ w = written at h
    induction h with
    | done => cases hw
    | quoted => exact absurd (List.cons.inj hw).1 d.gapHead_ne
    | plain hc => exact absurd ((List.cons.inj hw).1 ▸ d.gapHead_mem) hc
    | @skip w' s rest hrest =>
      obtain rfl := List.append_cancel_left hw
      exact ⟨[], s, rfl, fun e he => absurd he List.not_mem_nil, hrest⟩
    | @fill e w' s rest he _ ih =>
      obtain ⟨before, after, rfl, hbefore, hrest⟩ := ih hw
      exact ⟨e :: before, after, rfl, List.forall_mem_cons.2 ⟨he, hbefore⟩, hrest⟩
  · rintro ⟨before, after, rfl, hbefore, hrest⟩
    induction before with
    | nil => exact .skip hrest
    | cons e before ih =>
      obtain ⟨he, hbefore⟩ := List.forall_mem_cons.1 hbefore
      exact .fill he (ih hbefore)

/-- A quoted text reads the beginnings of texts that differ from it in case only, where what follows
it can be read as nothing. -/
theorem exists_reads_quote (hw : ∀ s, d.Reads w s s) :
    (∃ rest, d.Reads (d.quote text ++ w) s rest) ↔
      Text.foldLetters text <+: Text.foldLetters s := by
  simp only [reads_quote, Text.foldLetters_prefix_iff]
  constructor
  · rintro ⟨_, hit, after, hs, hhit, -⟩
    exact ⟨hit, after, hs, hhit⟩
  · rintro ⟨hit, after, hs, hhit⟩
    exact ⟨after, hit, after, hs, hhit, hw after⟩

end Dialect

namespace Pattern

open Dialect

/-! ## Regular expressions -/

/-- A regular expression finds something at the start of a text; it may say itself that it is held
there. -/
def Finds (source s : List Char) : Prop :=
  ∃ rest, regular.Reads (if source.head? = some '^' then source.tail else source) s rest

theorem source_toList (p : Pattern) :
    p.source.toList = (if p.gapBefore then regular.gap else ['^']) ++
      (regular.quote p.text ++ if p.gapAfter then regular.gap else []) := by
  rw [source, String.toList_ofList, List.append_assoc]
  rfl

/-- **A pattern accepts what its regular expression finds at the start of a text**: quoted, every
character stands for itself, and a gap after the text asks for nothing. -/
theorem accepts_iff_finds (p : Pattern) (s : String) :
    p.accepts s = true ↔ Finds p.source.toList s.toList := by
  have hafter : ∀ s, regular.Reads (if p.gapAfter then regular.gap else []) s s := by
    intro s
    split
    · rw [← List.append_nil regular.gap]
      exact .skip .done
    · exact .done
  rw [Finds, source_toList]
  by_cases hbefore : p.gapBefore = true
  · rw [accepts_iff_beginsOnFirstLine hbefore, if_pos hbefore,
      if_neg (by rw [gap, List.cons_append, List.head?_cons]; decide)]
    simp only [reads_gap]
    constructor
    · rintro ⟨before, after, hs, hfirst, hprefix⟩
      obtain ⟨rest, hrest⟩ := (exists_reads_quote hafter).2 hprefix
      refine ⟨rest, before, after, hs, fun e he => ?_, hrest⟩
      exact bne_iff_ne.2 fun hline => hfirst (hline ▸ he)
    · rintro ⟨rest, before, after, hs, hfills, hrest⟩
      refine ⟨before, after, hs, fun hmem => ?_, (exists_reads_quote hafter).1 ⟨rest, hrest⟩⟩
      exact absurd (hfills '\n' hmem) (by decide)
  · rw [accepts, if_neg hbefore, if_neg hbefore, List.cons_append, List.nil_append,
      List.head?_cons, if_pos rfl, List.tail_cons, opens_iff, exists_reads_quote hafter]

/-! ## Terms of a query string -/

variable {text s : List Char}

/-- In a term, a gap and a quoted text read what ends so, and then what follows is read. -/
theorem reads_gap_quote {w : List Char} : term.Reads (term.gap ++ (term.quote text ++ w)) s [] ↔
    ∃ before hit after, s = before ++ (hit ++ after) ∧
      Text.foldLetters hit = Text.foldLetters text ∧ term.Reads w after [] := by
  simp only [reads_gap, reads_quote]
  constructor
  · rintro ⟨before, _, rfl, -, hit, after, rfl, hhit, hw⟩
    exact ⟨before, hit, after, rfl, hhit, hw⟩
  · rintro ⟨before, hit, after, rfl, hhit, hw⟩
    exact ⟨before, hit ++ after, rfl, fun e _ => rfl, hit, after, rfl, hhit, hw⟩

/-- **The term for texts that end with a literal reads just these.** -/
theorem reads_queryTerm_endsWith :
    term.Reads (Literal.queryTerm .endsWith text) s [] ↔ StandsLast text s := by
  have hterm : Literal.queryTerm .endsWith text = term.gap ++ (term.quote text ++ []) := by
    rw [List.append_nil]
    rfl
  rw [hterm, reads_gap_quote, StandsLast, Text.foldLetters_suffix_iff]
  simp only [reads_nil]
  constructor
  · rintro ⟨before, hit, _, rfl, hhit, rfl⟩
    exact ⟨before, hit, by rw [List.append_nil], hhit⟩
  · rintro ⟨before, hit, rfl, hhit⟩
    exact ⟨before, hit, [], by rw [List.append_nil], hhit, rfl⟩

/-- **The term for texts that contain a literal reads just these.** -/
theorem reads_queryTerm_like :
    term.Reads (Literal.queryTerm .like text) s [] ↔ OccursIn text s := by
  have hterm : Literal.queryTerm .like text = term.gap ++ (term.quote text ++ term.gap) := rfl
  have hgap : ∀ after, term.Reads term.gap after [] := by
    intro after
    rw [← List.append_nil term.gap]
    exact reads_gap.2 ⟨after, [], (List.append_nil after).symm, fun e _ => rfl, .done⟩
  rw [hterm, reads_gap_quote, occursIn_iff]
  simp only [hgap, and_true, Text.foldLetters_prefix_iff]
  constructor
  · rintro ⟨before, hit, after, hs, hhit⟩
    exact ⟨before, _, hs, hit, after, rfl, hhit⟩
  · rintro ⟨before, _, hs, hit, after, rfl, hhit⟩
    exact ⟨before, hit, after, hs, hhit⟩

end Pattern
end ContentFilter
