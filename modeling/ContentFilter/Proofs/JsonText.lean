import ContentFilter.Json.Parse
import ContentFilter.Json.Print

/-!
# Reading back what was written

The text of a JSON value is read back as the same value.  This is shown for the values that records
are stored as: they hold no numbers, and the members of their objects stand in order.  The quotes,
backslashes and control characters in a text are written as escapes, and a reader that meets an
escape must not take what follows for a part of it.

* `stringRest?_escapeChar`, `stringRest?_quoted` — a string is read back, character by character.
* `IsTidy` — the values that records are stored as.
* `ReadsBack`, `items?_text`, `members?_text` — a value is read back in front of any other text, and
  lists of items and members are if each item is.
* `parse?_render` — **a tidy value is read back from its text.**
-/

namespace ContentFilter.Json

/-! ## Strings -/

/-- A control character is found by the number that is written for it. -/
theorem hex4?_control : ∀ n < 0x20,
    hex4? '0' '0' (hexDigit (n / 16)) (hexDigit (n % 16)) = some n := by
  decide

theorem stringRest?_plain {c : Char} (hquote : c ≠ '"') (hback : c ≠ '\\')
    (hcontrol : 0x20 ≤ c.toNat) (rest read : List Char) :
    stringRest? (c :: rest) read = stringRest? rest (c :: read) := by
  rw [stringRest?.eq_5 _ _ _ hquote (by simp [hback]) (by simp [hback]) (by simp [hback]),
    if_neg]
  rintro (h | h)
  · omega
  · exact hback h

theorem stringRest?_letter {letter c : Char} (hletter : letter ≠ 'u')
    (h : plainEscape? letter = some c) (rest read : List Char) :
    stringRest? ('\\' :: letter :: rest) read = stringRest? rest (c :: read) := by
  rw [stringRest?.eq_4 _ _ _ (by simp [hletter]) (by simp [hletter]), h]
  rfl

/-- The number of a character stands for the character, whatever comes next: only a surrogate takes
another number with it. -/
theorem stringRest?_number {a b c d : Char} {n : Nat} (h : hex4? a b c d = some n)
    (hn : n < 0xD800) (rest read : List Char) :
    stringRest? ('\\' :: 'u' :: a :: b :: c :: d :: rest) read =
      stringRest? rest (Char.ofNat n :: read) := by
  by_cases hnext : ∃ e f g h rest', rest = '\\' :: 'u' :: e :: f :: g :: h :: rest'
  · obtain ⟨e, f, g, h', rest', rfl⟩ := hnext
    rw [stringRest?.eq_2, h]
    simp only [Option.bind_eq_bind, Option.bind_some]
    rw [if_neg (by omega), if_neg (by omega)]
  · have hlast : ∀ e f g h rest', rest = '\\' :: 'u' :: e :: f :: g :: h :: rest' → False :=
      fun e f g h rest' heq => hnext ⟨e, f, g, h, rest', heq⟩
    rw [stringRest?.eq_3 _ _ _ _ _ _ hlast, h]
    simp only [Option.bind_eq_bind, Option.bind_some]
    rw [if_neg (by omega)]

/-- What is written for a character is read as that character. -/
theorem stringRest?_escapeChar (c : Char) (rest read : List Char) :
    stringRest? (escapeChar c ++ rest) read = stringRest? rest (c :: read) := by
  unfold escapeChar
  split
  · subst c; exact stringRest?_letter (by decide) rfl rest read
  split
  · subst c; exact stringRest?_letter (by decide) rfl rest read
  rename_i hquote hback
  split
  · rename_i hplain
    exact stringRest?_plain hquote hback hplain rest read
  rename_i hcontrol
  split
  · subst c; exact stringRest?_letter (by decide) rfl rest read
  split
  · subst c; exact stringRest?_letter (by decide) rfl rest read
  split
  · subst c; exact stringRest?_letter (by decide) rfl rest read
  split
  · subst c; exact stringRest?_letter (by decide) rfl rest read
  split
  · subst c; exact stringRest?_letter (by decide) rfl rest read
  · have hnumber := hex4?_control c.toNat (by omega)
    have hread := stringRest?_number hnumber (by omega) rest read
    rwa [Char.ofNat_toNat] at hread

/-- A string in quotes is read up to the closing quote. -/
theorem stringRest?_quoted (cs rest read : List Char) :
    stringRest? (cs.flatMap escapeChar ++ '"' :: rest) read =
      some (String.ofList (read.reverse ++ cs), rest) := by
  induction cs generalizing read with
  | nil => simp [stringRest?]
  | cons c cs ih =>
    rw [List.flatMap_cons, List.append_assoc, stringRest?_escapeChar, ih]
    simp

theorem toList_quote (s : String) :
    (quote s).toList = '"' :: (s.toList.flatMap escapeChar ++ ['"']) := by
  simp [quote]

theorem stringRest?_quote (s : String) (rest : List Char) :
    stringRest? (s.toList.flatMap escapeChar ++ '"' :: rest) [] = some (s, rest) := by
  rw [stringRest?_quoted]
  simp

/-! ## Values -/

/-- A value is tidy if it holds no numbers and the members of its objects stand in the order of
their names. -/
inductive IsTidy : Json → Prop where
  | null : IsTidy .null
  | bool (b : Bool) : IsTidy (.bool b)
  | string (s : String) : IsTidy (.string s)
  | array {items : List Json} (h : ∀ v ∈ items, IsTidy v) : IsTidy (.array items)
  | object {members : List (String × Json)}
      (order : members.Pairwise fun m m' => m.1 < m'.1) (h : ∀ m ∈ members, IsTidy m.2) :
      IsTidy (.object members)

/-- A value is read back from its text, in front of any other text, if as many steps are allowed as
the text has characters. -/
def ReadsBack (v : Json) : Prop :=
  ∀ n rest, v.render.toList.length ≤ n → value? n (v.render.toList ++ rest) = some (v, rest)

theorem skip_cons {c : Char} (h : isSpace c = false) (rest : List Char) :
    skip (c :: rest) = c :: rest := by
  simp [skip, h]

/-- The text of a tidy value starts with a character that is neither a blank nor the end of a
list. -/
theorem IsTidy.exists_render_eq_cons {v : Json} (h : IsTidy v) :
    ∃ c cs, v.render.toList = c :: cs ∧ isSpace c = false ∧ c ≠ ']' := by
  cases h with
  | null => exact ⟨'n', ['u', 'l', 'l'], rfl, by decide, by decide⟩
  | bool b =>
    cases b with
    | false => exact ⟨'f', ['a', 'l', 's', 'e'], rfl, by decide, by decide⟩
    | true => exact ⟨'t', ['r', 'u', 'e'], rfl, by decide, by decide⟩
  | string s => exact ⟨'"', _, toList_quote s, by decide, by decide⟩
  | array => exact ⟨'[', _, by simp [render]; rfl, by decide, by decide⟩
  | object => exact ⟨'\x7b', _, by simp [render]; rfl, by decide, by decide⟩

/-! ### Lists -/

/-- The text between the brackets of a list. -/
def itemsText (items : List Json) : List Char := (",".intercalate (renderItems items)).toList

theorem itemsText_singleton (v : Json) : itemsText [v] = v.render.toList := by
  simp [itemsText, renderItems]

theorem itemsText_cons_cons (v w : Json) (items : List Json) :
    itemsText (v :: w :: items) = v.render.toList ++ ',' :: itemsText (w :: items) := by
  simp [itemsText, renderItems, String.intercalate_cons_cons]

theorem toList_render_array (items : List Json) :
    (render (.array items)).toList = '[' :: (itemsText items ++ [']']) := by
  simp [render, itemsText]

/-- Between the brackets of a list with items stands first what is neither a blank nor the end of the
list. -/
theorem exists_itemsText_eq_cons {v : Json} (h : IsTidy v) (items : List Json) :
    ∃ c cs, itemsText (v :: items) = c :: cs ∧ isSpace c = false ∧ c ≠ ']' := by
  obtain ⟨c, cs, hcs, hspace, hend⟩ := h.exists_render_eq_cons
  cases items with
  | nil => exact ⟨c, cs, by rw [itemsText_singleton, hcs], hspace, hend⟩
  | cons w items => exact ⟨c, _, by rw [itemsText_cons_cons, hcs]; rfl, hspace, hend⟩

/-- The items of a list are read back up to its closing bracket. -/
theorem items?_text {items : List Json} (hne : items ≠ []) (h : ∀ v ∈ items, ReadsBack v)
    {n : Nat} (hn : (itemsText items).length < n) (rest : List Char) (read : List Json) :
    items? n (itemsText items ++ ']' :: rest) read =
      some (.array (read.reverse ++ items), rest) := by
  induction items generalizing n read with
  | nil => exact absurd rfl hne
  | cons v items ih =>
    obtain ⟨m, rfl⟩ : ∃ m, n = m + 1 := ⟨n - 1, by omega⟩
    cases items with
    | nil =>
      rw [itemsText_singleton] at hn ⊢
      rw [items?.eq_2, h v List.mem_cons_self m _ (by omega)]
      simp only [skip_cons (by decide : isSpace ']' = false)]
      simp
    | cons w items =>
      rw [itemsText_cons_cons, List.length_append, List.length_cons] at hn
      rw [itemsText_cons_cons, List.append_assoc, List.cons_append, items?.eq_2,
        h v List.mem_cons_self m _ (by omega)]
      simp only [skip_cons (by decide : isSpace ',' = false)]
      rw [ih (List.cons_ne_nil w items) (fun x hx => h x (List.mem_cons_of_mem _ hx)) (by omega)]
      simp

/-! ### Objects -/

/-- The text between the braces of an object. -/
def membersText (members : List (String × Json)) : List Char :=
  (",".intercalate (renderMembers members)).toList

theorem membersText_singleton (name : String) (v : Json) :
    membersText [(name, v)] =
      '"' :: (name.toList.flatMap escapeChar ++ '"' :: ':' :: v.render.toList) := by
  simp [membersText, renderMembers, toList_quote]

theorem membersText_cons_cons (name : String) (v : Json) (m : String × Json)
    (members : List (String × Json)) :
    membersText ((name, v) :: m :: members) =
      '"' :: (name.toList.flatMap escapeChar ++ '"' :: ':' ::
        (v.render.toList ++ ',' :: membersText (m :: members))) := by
  simp [membersText, renderMembers, String.intercalate_cons_cons, toList_quote]

theorem toList_render_object (members : List (String × Json)) :
    (render (.object members)).toList = '\x7b' :: (membersText members ++ ['\x7d']) := by
  simp [render, membersText]

/-- The members of an object are read back up to its closing brace. -/
theorem members?_text {members : List (String × Json)} (hne : members ≠ [])
    (h : ∀ m ∈ members, ReadsBack m.2) {n : Nat} (hn : (membersText members).length < n)
    (rest : List Char) (read : List (String × Json)) :
    members? n (membersText members ++ '\x7d' :: rest) read =
      some (ofMembers (read.reverse ++ members), rest) := by
  induction members generalizing n read with
  | nil => exact absurd rfl hne
  | cons m members ih =>
    obtain ⟨name, v⟩ := m
    obtain ⟨k, rfl⟩ : ∃ k, n = k + 1 := ⟨n - 1, by omega⟩
    have hv : ReadsBack v := h (name, v) List.mem_cons_self
    cases members with
    | nil =>
      rw [membersText_singleton, List.length_cons, List.length_append, List.length_cons,
        List.length_cons] at hn
      rw [membersText_singleton, members?.eq_2]
      simp only [List.cons_append, List.append_assoc, skip_cons (by decide : isSpace '"' = false),
        stringRest?_quote, skip_cons (by decide : isSpace ':' = false), hv k _ (by omega),
        skip_cons (by decide : isSpace '\x7d' = false)]
      simp
    | cons m members =>
      rw [membersText_cons_cons, List.length_cons, List.length_append, List.length_cons,
        List.length_cons, List.length_append, List.length_cons] at hn
      rw [membersText_cons_cons, members?.eq_2]
      simp only [List.cons_append, List.append_assoc, skip_cons (by decide : isSpace '"' = false),
        stringRest?_quote, skip_cons (by decide : isSpace ':' = false), hv k _ (by omega),
        skip_cons (by decide : isSpace ',' = false)]
      rw [ih (List.cons_ne_nil m members) (fun x hx => h x (List.mem_cons_of_mem _ hx)) (by omega)]
      simp

/-- A member whose name comes after all others is put last. -/
theorem putMember_of_last {name : String} {v : Json} {members : List (String × Json)}
    (h : ∀ m ∈ members, m.1 < name) : putMember name v members = members ++ [(name, v)] := by
  induction members with
  | nil => rfl
  | cons m members ih =>
    have hm : m.1 < name := h m List.mem_cons_self
    have hnot : ¬ name < m.1 := fun hlt => String.lt_irrefl _ (String.lt_trans hm hlt)
    have hne : name ≠ m.1 := fun heq => String.lt_irrefl _ (heq ▸ hm)
    rw [putMember, if_neg hnot, if_neg hne, ih fun x hx => h x (List.mem_cons_of_mem _ hx)]
    rfl

/-- Members in order are those of the object that they make. -/
theorem ofMembers_of_ordered {members : List (String × Json)}
    (h : members.Pairwise fun m m' => m.1 < m'.1) : ofMembers members = .object members := by
  have hput : ∀ (members before : List (String × Json)),
      (before ++ members).Pairwise (fun m m' => m.1 < m'.1) →
        members.foldl (fun ms m => putMember m.1 m.2 ms) before = before ++ members := by
    intro members
    induction members with
    | nil => simp
    | cons m members ih =>
      intro before hbefore
      have hlast : ∀ x ∈ before, x.1 < m.1 := fun x hx =>
        (List.pairwise_append.1 hbefore).2.2 x hx m List.mem_cons_self
      rw [List.foldl_cons, putMember_of_last hlast, ih _ (by simpa using hbefore)]
      simp
  rw [ofMembers, hput members [] (by simpa using h)]
  rfl

/-! ### All values -/

/-- Every tidy value is read back, in front of any other text. -/
theorem IsTidy.readsBack {v : Json} (h : IsTidy v) : ReadsBack v := by
  induction h with
  | null =>
    intro n rest hn
    obtain ⟨m, rfl⟩ : ∃ m, n = m + 1 := ⟨n - 1, by simp [render] at hn; omega⟩
    rfl
  | bool b =>
    intro n rest hn
    obtain ⟨m, rfl⟩ : ∃ m, n = m + 1 := ⟨n - 1, by cases b <;> simp [render] at hn <;> omega⟩
    cases b <;> rfl
  | string s =>
    intro n rest hn
    rw [render, toList_quote] at hn ⊢
    obtain ⟨m, rfl⟩ : ∃ m, n = m + 1 := ⟨n - 1, by rw [List.length_cons] at hn; omega⟩
    rw [value?.eq_2]
    simp only [List.cons_append, List.append_assoc, skip_cons (by decide : isSpace '"' = false),
      stringRest?_quote]
    rfl
  | @array items h ih =>
    intro n rest hn
    rw [toList_render_array, List.length_cons, List.length_append, List.length_singleton] at hn
    rw [toList_render_array]
    obtain ⟨m, rfl⟩ : ∃ m, n = m + 1 := ⟨n - 1, by omega⟩
    cases items with
    | nil => rfl
    | cons v items =>
      have hitems := items?_text (List.cons_ne_nil v items) ih (by omega : _ < m) rest []
      obtain ⟨c, cs, hcs, hspace, hend⟩ := exists_itemsText_eq_cons (h v List.mem_cons_self) items
      rw [hcs, List.cons_append] at hitems
      rw [value?.eq_2, hcs]
      simp only [List.cons_append, List.append_assoc, skip_cons (by decide : isSpace '[' = false),
        skip_cons hspace]
      split
      · rename_i heq
        exact absurd (List.cons.inj heq).1 hend
      · exact hitems
  | @object members order h ih =>
    intro n rest hn
    rw [toList_render_object, List.length_cons, List.length_append, List.length_singleton] at hn
    rw [toList_render_object]
    obtain ⟨m, rfl⟩ : ∃ m, n = m + 1 := ⟨n - 1, by omega⟩
    cases members with
    | nil => rfl
    | cons v members =>
      have hmembers := members?_text (List.cons_ne_nil v members) ih (by omega : _ < m) rest []
      obtain ⟨cs, hcs⟩ : ∃ cs, membersText (v :: members) = '"' :: cs := by
        cases members with
        | nil => exact ⟨_, membersText_singleton v.1 v.2⟩
        | cons w members => exact ⟨_, membersText_cons_cons v.1 v.2 w members⟩
      rw [hcs, List.cons_append] at hmembers
      rw [value?.eq_2, hcs]
      simp only [List.cons_append, List.append_assoc,
        skip_cons (by decide : isSpace '\x7b' = false), skip_cons (by decide : isSpace '"' = false)]
      split
      · rename_i heq
        exact absurd (List.cons.inj heq).1 (by decide)
      · rw [List.nil_append, hmembers, List.reverse_nil, List.nil_append,
          ofMembers_of_ordered order]

/-- **A tidy value is read back from its text.** -/
theorem parse?_render {v : Json} (h : IsTidy v) : parse? v.render = some v := by
  have hvalue := h.readsBack (v.render.toList.length + 1) [] (Nat.le_succ _)
  rw [List.append_nil] at hvalue
  simp only [parse?, hvalue]
  rfl

end ContentFilter.Json
