import ContentFilter.Literal
import Mathlib.Data.List.Basic

/-!
# Query strings and their readers

The search backend is asked for a text by a query string: a path, a colon and a term, in which a
backslash quotes what would mean more than itself.  A reader that knows only this, that a backslash
quotes the next character, gets the literal back.  To a reader that also takes white space between
clauses for their end, the term may be more than one: of all white space only the blank is quoted.

* `seen?` — the characters of a query string as its reader sees them, quoted or not.
* `seen?_queryTerm` — a term is seen as the literal between the asterisks of the operator.
* `searchValue_seen_exact` — **quoting loses nothing**: after the path and the colon the reader sees
  the literal, in which nothing that means more than itself is bare, and different literals give
  different queries.
* `clauses` — what a reader sees between bare white space.
* `clauses_eq_singleton_iff_blanks` — **the query string is one clause exactly if the literal has no
  other white space than blanks**; the first clause is addressed at the path in any case.
* `Gusts.two_clauses` — **a tab cuts the literal in two.**
-/

namespace ContentFilter.Literal

/-! ## What is seen of a query string -/

/-- A character of a query string as its reader sees it. -/
structure QueryChar where
  char : Char
  /-- Whether a backslash stands before it, so that it means just itself. -/
  quoted : Bool
  deriving DecidableEq, Repr

/-- What a reader sees for whom a backslash quotes the next character, nothing if none is next. -/
def seen? : List Char → Option (List QueryChar)
  | [] => some []
  | c :: rest =>
    if c = '\\' then
      match rest with
      | [] => none
      | d :: rest => (seen? rest).map (⟨d, true⟩ :: ·)
    else (seen? rest).map (⟨c, false⟩ :: ·)

/-- An asterisk that stands for a gap. -/
def asterisk : QueryChar := ⟨'*', false⟩

/-- The asterisks that an operator puts before the literal. -/
def asterisksBefore (op : Operator) : List QueryChar :=
  if op = .startsWith then [] else [asterisk]

/-- The asterisks that an operator puts after the literal. -/
def asterisksAfter (op : Operator) : List QueryChar :=
  if op = .endsWith then [] else [asterisk]

/-- A character of a literal as it is seen in a term. -/
def inTerm (c : Char) : QueryChar := ⟨c, reserved.contains c⟩

variable {cs text : List Char} {c : Char} {qs : List QueryChar} {op : Operator}

theorem seen?_quoted (c : Char) (cs : List Char) :
    seen? ('\\' :: c :: cs) = (seen? cs).map (⟨c, true⟩ :: ·) := rfl

theorem seen?_bare (hc : c ≠ '\\') (cs : List Char) :
    seen? (c :: cs) = (seen? cs).map (⟨c, false⟩ :: ·) := by
  rw [seen?.eq_def]
  exact if_neg hc

/-- Without a backslash every character is seen bare. -/
theorem seen?_of_not_mem (h : '\\' ∉ cs) : seen? cs = some (cs.map fun c => ⟨c, false⟩) := by
  induction cs with
  | nil => rfl
  | cons c cs ih =>
    obtain ⟨hc, hcs⟩ := List.ne_and_not_mem_of_not_mem_cons h
    rw [seen?_bare (Ne.symm hc), ih hcs]
    rfl

/-- Nothing is seen that does not stand there. -/
theorem mem_of_seen? (h : seen? cs = some qs) : ∀ q ∈ qs, q.char ∈ cs := by
  fun_induction seen? cs generalizing qs with
  | case1 =>
    obtain rfl := Option.some.inj h
    exact fun q hq => absurd hq List.not_mem_nil
  | case2 => cases h
  | case3 d rest ih =>
    obtain ⟨others, hothers, rfl⟩ := Option.map_eq_some_iff.1 h
    refine List.forall_mem_cons.2 ⟨by simp, fun q hq => ?_⟩
    exact List.mem_cons_of_mem _ (List.mem_cons_of_mem _ (ih hothers q hq))
  | case4 c rest hc ih =>
    obtain ⟨others, hothers, rfl⟩ := Option.map_eq_some_iff.1 h
    refine List.forall_mem_cons.2 ⟨by simp, fun q hq => ?_⟩
    exact List.mem_cons_of_mem _ (ih hothers q hq)

/-- A quoted text is seen character by character, whatever comes next: the backslashes are gone, and
the reader stands where it would begin anew. -/
theorem seen?_escapeQuery (text rest : List Char) :
    seen? (escapeQuery text ++ rest) = (seen? rest).map (text.map inTerm ++ ·) := by
  induction text with
  | nil => simp [escapeQuery]
  | cons c text ih =>
    have hcons : escapeQuery (c :: text) ++ rest =
        (if reserved.contains c then ['\\', c] else [c]) ++ (escapeQuery text ++ rest) := by
      rw [escapeQuery, List.flatMap_cons, List.append_assoc, ← escapeQuery]
    rw [hcons, List.map_cons]
    by_cases hc : reserved.contains c = true
    · have hmark : inTerm c = ⟨c, true⟩ := by rw [inTerm, hc]
      rw [if_pos hc, List.cons_append, List.singleton_append, seen?_quoted, ih, Option.map_map,
        hmark]
      rfl
    · have hback : c ≠ '\\' := fun h => hc (h ▸ by decide)
      have hmark : inTerm c = ⟨c, false⟩ := by rw [inTerm, Bool.eq_false_iff.2 hc]
      rw [if_neg hc, List.singleton_append, seen?_bare hback, ih, Option.map_map, hmark]
      rfl

/-- A term is seen as the literal between the asterisks of the operator. -/
theorem seen?_queryTerm (op : Operator) (text : List Char) :
    seen? (queryTerm op text) =
      some (asterisksBefore op ++ text.map inTerm ++ asterisksAfter op) := by
  have hstar : seen? ['*'] = some [asterisk] := rfl
  have hnil : seen? [] = some [] := rfl
  unfold queryTerm asterisksBefore asterisksAfter
  split
  · rw [seen?_escapeQuery, hstar]
    simp
  · rw [seen?_bare (by decide), ← List.append_nil (escapeQuery text), seen?_escapeQuery, hnil]
    simp [asterisk]
  · rename_i hstarts hends
    rw [List.cons_append, seen?_bare (by decide), seen?_escapeQuery, hstar, if_neg hstarts,
      if_neg hends]
    simp [asterisk]

/-- Up to a colon at its end anything is seen in some way, on its own and in front of more: even
where the colon is quoted, what comes after it is not. -/
theorem exists_seen?_colon (cs : List Char) :
    ∃ head, seen? (cs ++ [':']) = some head ∧ head ≠ [] ∧
      ∀ rest, seen? (cs ++ ':' :: rest) = (seen? rest).map (head ++ ·) := by
  fun_induction seen? cs with
  | case1 => exact ⟨[⟨':', false⟩], rfl, List.cons_ne_nil _ _, seen?_bare (by decide)⟩
  | case2 => exact ⟨[⟨':', true⟩], rfl, List.cons_ne_nil _ _, fun rest => rfl⟩
  | case3 d others ih =>
    obtain ⟨head, hhead, -, hrest⟩ := ih
    refine ⟨⟨d, true⟩ :: head, ?_, List.cons_ne_nil _ _, fun rest => ?_⟩
    · rw [List.cons_append, List.cons_append, seen?_quoted, hhead]
      rfl
    · rw [List.cons_append, List.cons_append, seen?_quoted, hrest, Option.map_map]
      rfl
  | case4 c others hc ih =>
    obtain ⟨head, hhead, -, hrest⟩ := ih
    refine ⟨⟨c, false⟩ :: head, ?_, List.cons_ne_nil _ _, fun rest => ?_⟩
    · rw [List.cons_append, seen?_bare hc, hhead]
      rfl
    · rw [List.cons_append, seen?_bare hc, hrest, Option.map_map]
      rfl

/-! ## The literal in the query string -/

section Searching

variable {field text path : String} {type : ValueType} {l : Literal}

/-- A literal is read as a pattern unless the pattern is too large. -/
theorem exists_read_pattern_iff (hop : op.family = .pattern) :
    (∃ l, read field text op type = .ok l) ↔ (pattern op text).isTooLarge = false := by
  rw [read_of_pattern hop]
  split
  · simp_all
  · simp_all

/-- The query string of a literal is the path, a colon and the term. -/
theorem searchValue_of_read (hop : op.family = .pattern) (h : read field text op type = .ok l)
    (path : String) :
    l.searchValue path = .query (path ++ ":" ++ String.ofList (queryTerm op text.toList)) := by
  rw [read_of_pattern hop] at h
  split at h
  · cases h
  · obtain rfl := Except.ok.inj h
    rfl

/-- **Quoting loses nothing.**  A literal that is read as a pattern, which is every one that is not
too large, is put into a query string as a path, a colon and a term.  To a reader for whom a
backslash quotes the next character the term is complete and consists of the operator's asterisks
and the characters of the literal, of which those that mean more than themselves in a query string
are all quoted.  Literals that lead to the same query string for the same path and operator are the
same. -/
theorem searchValue_seen_exact (hop : op.family = .pattern) (field text path : String)
    (type : ValueType) :
    ((∃ l, read field text op type = .ok l) ↔ (pattern op text).isTooLarge = false) ∧
      ∀ l, read field text op type = .ok l →
        (∃ term body, l.searchValue path = .query (path ++ ":" ++ String.ofList term) ∧
          seen? term = some (asterisksBefore op ++ body ++ asterisksAfter op) ∧
          (∀ q ∈ body, q.char ∈ ['+', '-', '=', '&', '|', '>', '<', '!', '(', ')', '\x7b', '\x7d',
              '[', ']', '^', '"', '~', '*', '?', ':', '\\', '/', ' '] → q.quoted = true) ∧
          body.map QueryChar.char = text.toList) ∧
        ∀ field' text' type' l', read field' text' op type' = .ok l' →
          l'.searchValue path = l.searchValue path → text' = text := by
  refine ⟨exists_read_pattern_iff hop, fun l hl => ⟨?_, fun field' text' type' l' hl' heq => ?_⟩⟩
  · refine ⟨queryTerm op text.toList, text.toList.map inTerm, searchValue_of_read hop hl path,
      seen?_queryTerm op text.toList, fun q hq hmark => ?_, ?_⟩
    · obtain ⟨c, -, rfl⟩ := List.mem_map.1 hq
      exact List.contains_iff_mem.2 hmark
    · rw [List.map_map]
      exact List.map_id _
  · rw [searchValue_of_read hop hl, searchValue_of_read hop hl', SearchValue.query.injEq,
      String.append_right_inj, String.ofList_inj] at heq
    have hseen := seen?_queryTerm op text'.toList
    rw [heq, seen?_queryTerm, Option.some_inj, List.append_cancel_right_eq,
      List.append_cancel_left_eq] at hseen
    have hchars := congrArg (List.map QueryChar.char) hseen
    rw [List.map_map, List.map_map] at hchars
    exact String.toList_inj.1 (by simpa [Function.comp_def, inTerm] using hchars.symm)

end Searching

namespace Drives

/-- A text that ends with a backslash, and has a colon in front of it. -/
def root : String := "C:\\"

theorem seen_exact : Operator.like.family = .pattern ∧
    ∃ l, read "source" root .like .string = .ok l ∧
      ∃ term body, l.searchValue "source" = .query ("source" ++ ":" ++ String.ofList term) ∧
        seen? term = some (asterisk :: body ++ [asterisk]) ∧
        (∀ q ∈ body, q.char ∈ ['+', '-', '=', '&', '|', '>', '<', '!', '(', ')', '\x7b', '\x7d',
            '[', ']', '^', '"', '~', '*', '?', ':', '\\', '/', ' '] → q.quoted = true) ∧
        body.map QueryChar.char = ['C', ':', '\\'] := by
  obtain ⟨hread, hseen⟩ :=
    searchValue_seen_exact (rfl : Operator.like.family = .pattern) "source" root "source" .string
  obtain ⟨l, hl⟩ := hread.2 (by decide)
  obtain ⟨hterm, -⟩ := hseen l hl
  exact ⟨rfl, l, hl, hterm⟩

end Drives

/-! ## Clauses -/

/-- Bare white space, which separates clauses. -/
def QueryChar.separates (q : QueryChar) : Bool := !q.quoted && Text.isBlank q.char

/-- The clauses of a query string: what stands between bare white space. -/
def clauses (qs : List QueryChar) : List (List QueryChar) :=
  (qs.splitOnP QueryChar.separates).filter fun clause => !clause.isEmpty

/-- The only white space among the reserved characters is the blank. -/
theorem eq_blank_of_mem_reserved (hc : c ∈ reserved) (hblank : Text.isBlank c = true) :
    c = ' ' := by
  have hblanks : reserved.filter Text.isBlank = [' '] := by decide
  exact List.mem_singleton.1 (hblanks ▸ List.mem_filter.2 ⟨hc, hblank⟩)

theorem separates_inTerm (c : Char) :
    (inTerm c).separates = (Text.isBlank c && c != ' ') := by
  rw [QueryChar.separates, inTerm]
  by_cases hc : c ∈ reserved
  · rw [List.contains_iff_mem.2 hc, Bool.not_true, Bool.false_and]
    by_cases hblank : Text.isBlank c = true
    · rw [eq_blank_of_mem_reserved hc hblank]
      rfl
    · rw [Bool.eq_false_iff.2 hblank, Bool.false_and]
  · have hne : c ≠ ' ' := fun h => hc (h ▸ by decide)
    have hbare : reserved.contains c = false :=
      Bool.eq_false_iff.2 fun h => hc (List.contains_iff_mem.1 h)
    rw [hbare, bne_iff_ne.2 hne, Bool.and_true, Bool.not_false, Bool.true_and]

theorem filter_separates_eq_nil_iff :
    qs.filter QueryChar.separates = [] ↔ ∀ q ∈ qs, q.separates = false := by
  simp only [List.filter_eq_nil_iff, Bool.not_eq_true]

theorem separates_asterisksBefore (op : Operator) :
    ∀ q ∈ asterisksBefore op, q.separates = false := by
  cases op <;> decide

theorem separates_asterisksAfter (op : Operator) :
    ∀ q ∈ asterisksAfter op, q.separates = false := by
  cases op <;> decide

/-- What separates in a term is the white space of the literal, blanks apart. -/
theorem filter_separates_term (op : Operator) (text : List Char) :
    (asterisksBefore op ++ text.map inTerm ++ asterisksAfter op).filter QueryChar.separates =
      (text.filter fun c => Text.isBlank c && c != ' ').map inTerm := by
  have hpass : (QueryChar.separates ∘ inTerm) = fun c => Text.isBlank c && c != ' ' :=
    funext separates_inTerm
  rw [List.filter_append, List.filter_append,
    filter_separates_eq_nil_iff.2 (separates_asterisksBefore op),
    filter_separates_eq_nil_iff.2 (separates_asterisksAfter op), List.nil_append, List.append_nil,
    List.filter_map, hpass]

/-- A path without white space is seen without anything that separates. -/
theorem not_separates_of_path {path : List Char} (hpath : ∀ c ∈ path, Text.isBlank c = false)
    (h : seen? (path ++ [':']) = some qs) : ∀ q ∈ qs, q.separates = false := by
  intro q hq
  have hchar : Text.isBlank q.char = false := by
    rcases List.mem_append.1 (mem_of_seen? h q hq) with hmem | hmem
    · exact hpath _ hmem
    · rw [List.mem_singleton.1 hmem]
      rfl
  rw [QueryChar.separates, hchar, Bool.and_false]

/-- No separator is left in a piece. -/
theorem not_of_mem_splitOnP {α : Type} {p : α → Bool} {xs piece : List α}
    (h : piece ∈ xs.splitOnP p) : ∀ x ∈ piece, p x = false := by
  induction xs generalizing piece with
  | nil =>
    rw [List.splitOnP_nil, List.mem_singleton] at h
    simp [h]
  | cons x xs ih =>
    rw [List.splitOnP_cons_eq_if_modifyHead] at h
    split at h
    · rcases List.mem_cons.1 h with rfl | h
      · simp
      · exact ih h
    · rename_i hx
      cases hsplit : xs.splitOnP p with
      | nil => exact absurd hsplit (List.splitOnP_ne_nil p xs)
      | cons first others =>
        rw [hsplit, List.modifyHead_cons, List.mem_cons] at h
        rcases h with rfl | h
        · exact List.forall_mem_cons.2 ⟨Bool.eq_false_iff.2 hx,
            ih (hsplit ▸ List.mem_cons_self)⟩
        · exact ih (hsplit ▸ List.mem_cons_of_mem _ h)

/-- What comes before without a separator belongs to the first piece. -/
theorem splitOnP_append {α : Type} {p : α → Bool} {xs : List α} (h : ∀ x ∈ xs, p x = false)
    (ys : List α) : (xs ++ ys).splitOnP p = (ys.splitOnP p).modifyHead (xs ++ ·) := by
  induction xs with
  | nil => cases hsplit : ys.splitOnP p <;> simp [hsplit]
  | cons x xs ih =>
    obtain ⟨hx, hxs⟩ := List.forall_mem_cons.1 h
    rw [List.cons_append, List.splitOnP_cons_eq_if_modifyHead, if_neg (Bool.eq_false_iff.1 hx),
      ih hxs]
    cases ys.splitOnP p <;> rfl

/-- There is one clause, and nothing beside it, exactly if nothing separates. -/
theorem clauses_eq_singleton_iff (hqs : qs ≠ []) :
    clauses qs = [qs] ↔ ∀ q ∈ qs, q.separates = false := by
  constructor
  · intro h
    have hmem : qs ∈ clauses qs := h ▸ List.mem_singleton_self qs
    exact not_of_mem_splitOnP (List.mem_filter.1 hmem).1
  · intro h
    rw [clauses, List.splitOnP_eq_singleton h]
    simp [hqs]

/-- The first clause begins with what comes before the first separator. -/
theorem exists_clauses_append {head : List QueryChar} (hhead : head ≠ [])
    (h : ∀ q ∈ head, q.separates = false) (qs : List QueryChar) :
    ∃ first others, clauses (head ++ qs) = (head ++ first) :: others := by
  rw [clauses, splitOnP_append h]
  cases hsplit : qs.splitOnP QueryChar.separates with
  | nil => exact absurd hsplit (List.splitOnP_ne_nil _ qs)
  | cons first others =>
    refine ⟨first, others.filter fun clause => !clause.isEmpty, ?_⟩
    rw [List.modifyHead_cons, List.filter_cons_of_pos]
    simp [hhead]

/-- **The query string is one clause exactly if the literal has no other white space than blanks.**
Take a literal that is read as a pattern, and a path without white space.  What separates clauses in
the query string is the white space of the literal, blanks apart, in its order.  The first clause
begins with the path and the colon; it is the whole query string exactly if there is no such white
space. -/
theorem clauses_eq_singleton_iff_blanks {field text path : String} {type : ValueType} {l : Literal}
    (hop : op.family = .pattern) (hpath : ∀ c ∈ path.toList, Text.isBlank c = false)
    (h : read field text op type = .ok l) :
    ∃ query head qs, l.searchValue path = .query query ∧
      seen? (path ++ ":").toList = some head ∧ seen? query.toList = some (head ++ qs) ∧
      ((head ++ qs).filter QueryChar.separates).map QueryChar.char =
        text.toList.filter (fun c => Text.isBlank c && c != ' ') ∧
      (∃ first others, clauses (head ++ qs) = (head ++ first) :: others) ∧
      (clauses (head ++ qs) = [head ++ qs] ↔
        ∀ c ∈ text.toList, Text.isBlank c = true → c = ' ') := by
  obtain ⟨head, hhead, hne, hrest⟩ := exists_seen?_colon path.toList
  have hcolon : (path ++ ":").toList = path.toList ++ [':'] := String.toList_append
  have hbare : ∀ q ∈ head, q.separates = false := not_separates_of_path hpath hhead
  let qs := asterisksBefore op ++ text.toList.map inTerm ++ asterisksAfter op
  have hseparators : (head ++ qs).filter QueryChar.separates =
      (text.toList.filter fun c => Text.isBlank c && c != ' ').map inTerm := by
    rw [List.filter_append, filter_separates_eq_nil_iff.2 hbare, List.nil_append,
      filter_separates_term]
  refine ⟨_, head, qs, searchValue_of_read hop h path, hcolon ▸ hhead, ?_, ?_,
    exists_clauses_append hne hbare qs, ?_⟩
  · rw [String.toList_append, hcolon, String.toList_ofList, List.append_assoc,
      List.singleton_append, hrest, seen?_queryTerm]
    rfl
  · rw [hseparators, List.map_map]
    exact List.map_id _
  · rw [clauses_eq_singleton_iff (List.append_ne_nil_of_left_ne_nil hne qs),
      ← filter_separates_eq_nil_iff, hseparators, List.map_eq_nil_iff, List.filter_eq_nil_iff]
    simp

namespace Gusts

/-- A literal that asks for a text anywhere. -/
def literal (text : String) : Literal := ⟨text, .like, .pattern (pattern .like text)⟩

/-- A blank leaves the query string one clause. -/
theorem big_deal : Operator.like.family = .pattern ∧
    (∀ c ∈ "headline".toList, Text.isBlank c = false) ∧
    read "headline" "big deal" .like .string = .ok (literal "big deal") ∧
    ∃ query qs, (literal "big deal").searchValue "headline" = .query query ∧
      seen? query.toList = some qs ∧ clauses qs = [qs] := by
  have hpath : ∀ c ∈ "headline".toList, Text.isBlank c = false := by simp [Text.isBlank]
  have hread : read "headline" "big deal" .like .string = .ok (literal "big deal") := rfl
  obtain ⟨query, head, qs, hquery, -, hseen, -, -, hone⟩ :=
    clauses_eq_singleton_iff_blanks (rfl : Operator.like.family = .pattern) hpath hread
  exact ⟨rfl, hpath, hread, query, head ++ qs, hquery, hseen, hone.2 (by simp [Text.isBlank])⟩

/-- The query string for a literal with a tab, as it is seen: nothing in it is quoted. -/
def query : List QueryChar := "headline:*calm\tstorm*".toList.map fun c => ⟨c, false⟩

/-- **A tab cuts the literal in two, and only the first part is asked for at the path.** -/
theorem two_clauses :
    (∀ c ∈ "headline".toList, Text.isBlank c = false) ∧
      read "headline" "calm\tstorm" .like .string = .ok (literal "calm\tstorm") ∧
      (literal "calm\tstorm").searchValue "headline" = .query "headline:*calm\tstorm*" ∧
      seen? "headline:*calm\tstorm*".toList = some query ∧
      Text.isBlank '\t' = true ∧ ⟨'\t', false⟩ ∈ query ∧
      (clauses query).map (·.map QueryChar.char) =
        ["headline:*calm".toList, "storm*".toList] :=
  ⟨by simp [Text.isBlank], rfl, rfl, seen?_of_not_mem (by decide), by decide, by decide, by decide⟩

end Gusts

end ContentFilter.Literal
