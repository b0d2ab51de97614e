import ContentFilter.Proofs.Comparisons
import ContentFilter.Proofs.SearchMeaning

/-!
# What the backends are asked of computed fields

Whether an item is under embargo and whether it has a feature picture are worked out, so a condition
on these fields asks for one of two truth values, and its clauses are of its own.  The document store
is asked for the truth value directly.  The search backend is given a clause that is written for the
literal alone, and whether the operator negates decides on which side of the group it stands.  So
the operator counts in two places, and only in the second does every operator that negates count.

* `Literal.isTrue_of_read` — a literal asks for what its text says, whatever it was read as.
* `FieldKind.storeForm`, `FieldKind.searchForm` — the clauses by which the backends tell the items.
* `Asks` — a query asks for a truth value if it is true of the items with this value and of no others.
* `storeAsks_iff`, `searchAsks_iff` — for which truth value a condition asks each backend.
* `asksAlike_iff` — **both backends are asked for the same, unless the operator asks for none of a
  list or for not containing a text.**
* `storeAsks_iff_not_searchAsks`, `Withheld.asks_apart` — by these two operators they are asked for
  opposite items.
-/

namespace ContentFilter

open Json FilterContext

/-! ## Literals as truth values -/

theorem Literal.isTrue_of_read {field text : String} {op : Operator} {type : ValueType}
    {l : Literal} (h : Literal.read field text op type = .ok l) :
    l.isTrue = Scalar.isTruthy text := by
  have hlist : op.family = .membership ∨ op.family = .fullText →
      l.isTrue = Scalar.isTruthy text := by
    intro hop
    rw [Literal.read_of_list hop] at h
    obtain ⟨items, -, rfl⟩ := map_eq_ok.1 h
    rfl
  cases hop : op.family with
  | membership => exact hlist (.inl hop)
  | fullText => exact hlist (.inr hop)
  | pattern =>
    rw [Literal.read_of_pattern hop] at h
    split at h
    · cases h
    · obtain rfl := Except.ok.inj h
      rfl
  | comparison =>
    obtain ⟨s, hs, rfl⟩ := (Literal.read_comparison_eq_ok_iff hop).1 h
    cases type with
    | int =>
      obtain ⟨i, -, rfl⟩ := Option.map_eq_some_iff.1 hs
      rfl
    | bool =>
      obtain rfl := Option.some.inj hs
      rfl
    | string =>
      obtain rfl := Option.some.inj hs
      rfl

/-- A condition asks for what its literal says, or for the opposite if it asks for a different
value. -/
theorem Field.wantsTrue_eq (op : Operator) (l : Literal) :
    Field.wantsTrue op l = (l.isTrue != (op == .ne)) := by
  unfold wantsTrue
  cases op <;> cases l.isTrue <;> rfl

/-! ## Clauses -/

namespace FieldKind

/-- The clause by which the document store finds the items of which a computed field has a truth
value. -/
def storeForm (now : Instant) (wanted : Bool) : FieldKind → Json
  | .embargo =>
    let ends (op : String) : Json :=
      .object [(Field.embargoPath, .object [(op, .object [("$date", .string now.text)])])]
    if wanted then ends "$gt"
    else .object [("$or", .array [.object [(Field.embargoPath, .null)], ends "$lte"])]
  | .featureMedia =>
    .object [(Field.featureMediaPath, if wanted then .object [("$ne", .null)] else .null)]
  | _ => .null

/-- The clause by which the search backend finds the items of which a computed field is true. -/
def searchForm : FieldKind → Json
  | .embargo => .object [("range", .object [(Field.embargoPath, .object [("gt", .string "now")])])]
  | .featureMedia => .object [("exists", .object [("field", .string Field.featureMediaPath)])]
  | _ => .null

/-- How the document store decides clauses for an item of which a computed field has the given truth
value. -/
def StoreReads (kind : FieldKind) (now : Instant) (leaf : Json → Bool) (flag : Bool) : Prop :=
  ∀ wanted, (kind.storeForm now wanted).truth leaf = (flag == wanted)

/-- How the search backend decides clauses for an item of which a computed field has the given truth
value, and which is not spiked. -/
def SearchReads (kind : FieldKind) (leaf : Json → Bool) (flag : Bool) : Prop :=
  kind.searchForm.searchTruth leaf = flag ∧ leaf spiked = false

variable {kind : FieldKind}

/-- Two kinds of fields are worked out. -/
theorem eq_of_isComputed (h : kind.isComputed = true) : kind = .embargo ∨ kind = .featureMedia := by
  cases kind with
  | embargo => exact .inl rfl
  | featureMedia => exact .inr rfl
  | path => cases h
  | html => cases h
  | vocabulary scheme => cases h

/-- There are items of which a computed field is true, as the document store decides. -/
theorem exists_storeReads (h : kind.isComputed = true) (now : Instant) :
    ∃ leaf, kind.StoreReads now leaf true := by
  rcases eq_of_isComputed h with rfl | rfl
  · refine ⟨fun q => ((q.member? Field.embargoPath).bind (member? "$gt")).isSome, fun wanted => ?_⟩
    cases wanted <;> rfl
  · refine ⟨fun q => ((q.member? Field.featureMediaPath).bind (member? "$ne")).isSome,
      fun wanted => ?_⟩
    cases wanted <;> rfl

/-- There are items of which a computed field is true, as the search backend decides. -/
theorem exists_searchReads (h : kind.isComputed = true) : ∃ leaf, kind.SearchReads leaf true := by
  refine ⟨fun q => (q.member? "term").isNone, ?_⟩
  rcases eq_of_isComputed h with rfl | rfl
  · exact ⟨rfl, rfl⟩
  · exact ⟨rfl, rfl⟩

end FieldKind

/-! ## Asking for a truth value -/

/-- A query asks for a truth value: it is true of the items with this value and of no others. -/
def Asks (reads : (Json → Bool) → Bool → Prop) (truth : (Json → Bool) → Bool) (wanted : Bool) :
    Prop :=
  ∀ leaf flag, reads leaf flag → truth leaf = (flag == wanted)

/-- A query asks for one truth value only. -/
theorem asks_iff_eq {reads : (Json → Bool) → Bool → Prop} {truth : (Json → Bool) → Bool}
    {wanted b : Bool} (hreads : ∃ leaf, reads leaf true) (h : Asks reads truth b) :
    Asks reads truth wanted ↔ wanted = b := by
  constructor
  · intro hwanted
    obtain ⟨leaf, hleaf⟩ := hreads
    have hsame : (true == wanted) = (true == b) :=
      (hwanted leaf true hleaf).symm.trans (h leaf true hleaf)
    simpa using hsame
  · rintro rfl
    exact h

namespace Condition

variable {c : Condition} {now : Instant} {wanted : Bool}

/-- The query of a group with this condition only: its clause stands with what must hold, or with
what must not. -/
def groupQuery (c : Condition) : Json :=
  FilterContext.bool [("must", .array (if c.isNegation then [] else [c.searchClause])),
    ("must_not", .array (spiked :: if c.isNegation then [c.searchClause] else []))]

/-- The document store is asked for the items of which a computed field has a truth value. -/
def StoreAsks (c : Condition) (now : Instant) : Bool → Prop :=
  Asks (c.field.kind.StoreReads now) fun leaf => (c.storeClause now).truth leaf

/-- The search backend is asked for the items of which a computed field has a truth value. -/
def SearchAsks (c : Condition) : Bool → Prop :=
  Asks c.field.kind.SearchReads fun leaf => c.groupQuery.searchTruth leaf

/-! ### The document store -/

theorem storeClause_of_computed (h : c.field.kind.isComputed = true) :
    c.storeClause now = c.field.kind.storeForm now (Field.wantsTrue c.operator c.literal) := by
  unfold storeClause Field.storeClause?
  rcases FieldKind.eq_of_isComputed h with hkind | hkind
  · rw [hkind]
    cases Field.wantsTrue c.operator c.literal <;> rfl
  · rw [hkind]
    rfl

/-- The document store is asked for what the literal says, or for the opposite if the operator asks
for a different value. -/
theorem storeAsks_iff (h : c.field.kind.isComputed = true) :
    c.StoreAsks now wanted ↔ wanted = Field.wantsTrue c.operator c.literal := by
  refine asks_iff_eq (FieldKind.exists_storeReads h now) fun leaf flag hreads => ?_
  rw [storeClause_of_computed h]
  exact hreads _

/-- What the document store is asked for can be told by the form of the clause. -/
theorem storeAsks_iff_form (h : c.field.kind.isComputed = true) :
    c.StoreAsks now wanted ↔ c.storeClause now = c.field.kind.storeForm now wanted := by
  constructor
  · intro hasks
    rw [storeClause_of_computed h, ← (storeAsks_iff h).1 hasks]
  · intro hform leaf flag hreads
    rw [hform]
    exact hreads wanted

/-! ### The search backend -/

theorem searchClause_of_computed (h : c.field.kind.isComputed = true) :
    c.searchClause = Field.positiveOrInverted c.literal.isTrue c.field.kind.searchForm := by
  unfold searchClause Field.searchClause?
  rcases FieldKind.eq_of_isComputed h with hkind | hkind
  · rw [hkind]
    rfl
  · rw [hkind]
    rfl

/-- An inverted clause is true where the clause is not. -/
theorem searchTruth_positiveOrInverted (leaf : Json → Bool) (positive : Bool) (clause : Json) :
    (Field.positiveOrInverted positive clause).searchTruth leaf =
      (clause.searchTruth leaf == positive) := by
  cases positive with
  | true => simp [Field.positiveOrInverted]
  | false =>
    have hinverted : Field.positiveOrInverted false clause =
        FilterContext.bool [("must_not", .array [clause])] := rfl
    rw [hinverted, FilterContext.bool, searchTruth, if_pos rfl]
    simp [partsTrue, someHold]

/-- A clause that must not hold counts the other way round. -/
theorem searchTruth_groupQuery {leaf : Json → Bool} (h : leaf spiked = false) :
    c.groupQuery.searchTruth leaf = (c.searchClause.searchTruth leaf != c.isNegation) := by
  rw [Bool.eq_iff_iff, groupQuery, searchTruth_bool_group, List.forall_mem_cons,
    searchTruth_spiked]
  cases c.isNegation <;> simp [h]

/-- The search backend is asked for what the literal says, or for the opposite if the operator
negates. -/
theorem searchAsks_iff (h : c.field.kind.isComputed = true) :
    c.SearchAsks wanted ↔ wanted = (c.literal.isTrue != c.operator.isNegating) := by
  refine asks_iff_eq (FieldKind.exists_searchReads h) fun leaf flag hreads => ?_
  rw [searchTruth_groupQuery hreads.2, searchClause_of_computed h,
    searchTruth_positiveOrInverted, hreads.1, isNegation]
  cases flag <;> cases c.literal.isTrue <;> cases c.operator.isNegating <;> rfl

/-- By the two negating operators that the document store does not heed, the backends are asked for
opposite truth values. -/
theorem storeAsks_iff_not_searchAsks (h : c.field.kind.isComputed = true)
    (hop : c.operator = .noneOf ∨ c.operator = .notLike) :
    c.StoreAsks now wanted ↔ ¬ c.SearchAsks wanted := by
  have hunheeded : (c.operator == .ne) = false ∧ c.operator.isNegating = true := by
    rcases hop with hop | hop
    · rw [hop]
      decide
    · rw [hop]
      decide
  rw [storeAsks_iff h, searchAsks_iff h, Field.wantsTrue_eq, hunheeded.1, hunheeded.2]
  cases wanted <;> cases c.literal.isTrue <;> decide

/-- A group with one condition only is asked for by the clause of the condition, as it stands or on
its side. -/
theorem group_single {ctx : FilterContext} {f : Filter} {id : String}
    (expand : Filter → Except FilterError Json) (h : ctx.condition f id = .ok c) :
    ctx.storeGroup f expand ⟨[id], []⟩ = .ok (c.storeClause ctx.now) ∧
      ctx.searchGroup f expand ⟨[id], []⟩ = .ok c.groupQuery := by
  constructor
  · simp only [storeGroup, List.mapM_cons, List.mapM_nil, h]
    rfl
  · have hconditions : [id].mapM (fun id => ctx.condition f id) = .ok [c] := by
      simp only [List.mapM_cons, List.mapM_nil, h]
      rfl
    unfold searchGroup groupQuery
    simp only [hconditions]
    cases hneg : c.isNegation <;> simp [List.partition, List.partition.loop, hneg]

end Condition

/-! ## What the two backends are asked for -/

/-- **The backends are asked for the same, unless the operator asks for none of a list or for not
containing a text.**  A condition on a computed field, read in either mode, asks the document store
for the truth value that its literal says, and for the opposite if its operator asks for a different
value; which of the two it is can be told by the form of the clause.  It asks the search backend, by
the query that a group with this condition gets, for what the literal says, and for the opposite if
its operator negates.  So the store is asked for the items of which the field is true if and only if
the search backend is, for all operators but two, and for these two never. -/
theorem ConditionAtom.asksAlike_iff {a : ConditionAtom} {catalog : Catalog} {strict : Bool}
    {c : Condition} (h : a.compile catalog strict = .ok c)
    (hkind : c.field.kind.isComputed = true) (now : Instant) :
    (∀ wanted, c.StoreAsks now wanted ↔
        wanted = (Scalar.isTruthy a.value != (c.operator == .ne))) ∧
      (∀ wanted, c.StoreAsks now wanted ↔
        c.storeClause now = c.field.kind.storeForm now wanted) ∧
      (∀ wanted, c.SearchAsks wanted ↔
        wanted = (Scalar.isTruthy a.value != c.operator.isNegating)) ∧
      (∀ (ctx : FilterContext) (f : Filter) (id : String) (expand : Filter → Except FilterError Json),
        ctx.condition f id = .ok c →
          ctx.storeGroup f expand ⟨[id], []⟩ = .ok (c.storeClause ctx.now) ∧
            ctx.searchGroup f expand ⟨[id], []⟩ = .ok c.groupQuery) ∧
      ((c.StoreAsks now true ↔ c.SearchAsks true) ↔
        c.operator ≠ .noneOf ∧ c.operator ≠ .notLike) := by
  obtain ⟨field, -, h⟩ := bind_eq_ok.1 h
  obtain ⟨op, -, h⟩ := bind_eq_ok.1 h
  obtain ⟨literal, hliteral, h⟩ := bind_eq_ok.1 h
  obtain rfl := Except.ok.inj h
  have htrue : literal.isTrue = Scalar.isTruthy a.value := Literal.isTrue_of_read hliteral
  have hstore : ∀ wanted, (⟨a.id, field, op, literal⟩ : Condition).StoreAsks now wanted ↔
      wanted = (Scalar.isTruthy a.value != (op == .ne)) := by
    intro wanted
    rw [Condition.storeAsks_iff hkind, Field.wantsTrue_eq, htrue]
  have hsearch : ∀ wanted, (⟨a.id, field, op, literal⟩ : Condition).SearchAsks wanted ↔
      wanted = (Scalar.isTruthy a.value != op.isNegating) := by
    intro wanted
    rw [Condition.searchAsks_iff hkind, htrue]
  refine ⟨hstore, fun wanted => Condition.storeAsks_iff_form hkind, hsearch,
    fun ctx f id expand hc => Condition.group_single expand hc, ?_⟩
  rw [hstore, hsearch]
  -- Being different is the one negating operator that counts for the store.
  cases Scalar.isTruthy a.value <;> cases op <;> simp [Operator.isNegating]

namespace Withheld

/-- A condition on whether an item is under embargo. -/
def atom (token : String) : ConditionAtom := ⟨"1", "1", "embargo", token, "true"⟩

/-- Whether an item is under embargo. -/
def field : Field := ⟨"embargo", .embargo, "embargo", .bool⟩

/-- The condition, read. -/
def condition (op : Operator) (content : Literal.Content) : Condition :=
  ⟨"1", field, op, ⟨"true", op, content⟩⟩

/-- The condition for a different value, read. -/
def different : Condition := condition .ne (.single (.bool true))

/-- The condition for none of a list, read. -/
def noneOf : Condition := condition .noneOf (.list [.bool true])

/-- Noon of the first of May 2024. -/
def may : Instant := ⟨1714564800, 0⟩

/-- A filter that asks for items that are not under embargo. -/
def filter : Filter := ⟨"a", "free", false, false, [⟨["1"], []⟩]⟩

/-- The filter and its condition. -/
def context : FilterContext where
  graph := .ofLists [atom "ne"] [filter]
  catalog := .empty []
  options := .standard
  now := may

/-- A condition for a different value asks both backends for the items that are not under embargo.
-/
theorem ne_asks_alike :
    (atom "ne").compile context.catalog false = .ok different ∧
      different.field.kind.isComputed = true ∧
      different.StoreAsks context.now false ∧ different.SearchAsks false ∧
      context.storeGroup filter (fun _ => .ok .null) ⟨["1"], []⟩ =
        .ok (FieldKind.embargo.storeForm context.now false) := by
  have hcompile : (atom "ne").compile context.catalog false = .ok different := rfl
  have hcondition : context.condition filter "1" = .ok different := by decide
  obtain ⟨hstore, hform, hsearch, hgroup, -⟩ :=
    ConditionAtom.asksAlike_iff hcompile rfl context.now
  have hasks : different.StoreAsks context.now false := (hstore false).2 (by decide)
  refine ⟨hcompile, rfl, hasks, (hsearch false).2 (by decide), ?_⟩
  rw [(hgroup context filter "1" _ hcondition).1, (hform false).1 hasks]
  rfl

/-- An item that is under embargo for the rest of May. -/
def item : Json := .object [("embargo", .string "2024-05-31T12:00:00Z")]

/-- A condition for none of the value asks the document store for the items that are under embargo.
It does not ask the search backend for these, and it does not hold of such an item. -/
theorem asks_apart :
    (∀ strict, (atom "nin").compile (.empty []) strict = .ok noneOf) ∧
      noneOf.field.kind.isComputed = true ∧
      (∀ now, noneOf.StoreAsks now true) ∧ ¬ noneOf.SearchAsks true ∧
      noneOf.field.extract item may = some (.single (.bool true)) ∧
      noneOf.holds item may = false := by
  have hasks : ∀ now, noneOf.StoreAsks now true := fun _ => (Condition.storeAsks_iff rfl).2 rfl
  refine ⟨by decide, rfl, hasks, ?_, rfl, by decide +kernel⟩
  exact (Condition.storeAsks_iff_not_searchAsks rfl (.inl rfl)).1 (hasks may)

end Withheld

end ContentFilter
