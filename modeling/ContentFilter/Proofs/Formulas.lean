import ContentFilter.Proofs.CatalogFields
import ContentFilter.Proofs.Outcome
import ContentFilter.Query.Store

/-!
# Queries as formulas

A query for the document store joins clauses with `$or` and `$and`.  Anything else in it is a clause
that the store decides on its own, so a query is a formula over such clauses.

* `Json.truth` — whether a query is true, given which clauses are.
* `Json.IsWide` — a value in which no `$or` and no `$and` has fewer than two clauses, however deep
  it stands.
* `truth_joined_or`, `truth_joined_and`, `isWide_joined` — joining clauses without writing a join
  around a single one changes no truth, and makes wide queries of wide ones.
* `Condition.isWide_storeClause` — **the clause of a condition is wide**, since no field of a
  catalogue has a join for its path.
-/

namespace ContentFilter

namespace Json

/-! ## Truth -/

mutual

/-- Whether a query is true, given whether a clause that joins no others is. -/
def truth (leaf : Json → Bool) : Json → Bool
  | .object [(name, .array clauses)] =>
    if name = "$or" then someTrue leaf clauses
    else if name = "$and" then allTrue leaf clauses
    else leaf (.object [(name, .array clauses)])
  | clause => leaf clause

/-- Whether some query of a list is true. -/
def someTrue (leaf : Json → Bool) : List Json → Bool
  | [] => false
  | q :: rest => truth leaf q || someTrue leaf rest

/-- Whether every query of a list is true. -/
def allTrue (leaf : Json → Bool) : List Json → Bool
  | [] => true
  | q :: rest => truth leaf q && allTrue leaf rest

end

theorem someTrue_eq_any (leaf : Json → Bool) (qs : List Json) :
    someTrue leaf qs = qs.any (truth leaf) := by
  induction qs with
  | nil => simp [someTrue]
  | cons q rest ih => rw [someTrue, ih, List.any_cons]

theorem allTrue_eq_all (leaf : Json → Bool) (qs : List Json) :
    allTrue leaf qs = qs.all (truth leaf) := by
  induction qs with
  | nil => simp [allTrue]
  | cons q rest ih => rw [allTrue, ih, List.all_cons]

theorem truth_or (leaf : Json → Bool) (qs : List Json) :
    truth leaf (.object [("$or", .array qs)]) = qs.any (truth leaf) := by
  rw [truth, if_pos rfl, someTrue_eq_any]

theorem truth_and (leaf : Json → Bool) (qs : List Json) :
    truth leaf (.object [("$and", .array qs)]) = qs.all (truth leaf) := by
  rw [truth, if_neg (by decide), if_pos rfl, allTrue_eq_all]

/-! ## Width -/

/-- A value stands somewhere in another. -/
inductive Within (v : Json) : Json → Prop where
  | self : Within v v
  | item {items : List Json} {w : Json} (hw : w ∈ items) (h : Within v w) : Within v (.array items)
  | member {members : List (String × Json)} {name : String} {w : Json}
      (hw : (name, w) ∈ members) (h : Within v w) : Within v (.object members)

/-- The name of a member joins clauses. -/
def Joins (name : String) : Prop := name = "$or" ∨ name = "$and"

/-- Every list of clauses that is joined somewhere in a value has at least two clauses. -/
def IsWide (q : Json) : Prop :=
  ∀ members name clauses, Within (.object members) q → (name, .array clauses) ∈ members →
    Joins name → 2 ≤ clauses.length

theorem isWide_array {items : List Json} (h : ∀ v ∈ items, v.IsWide) : (array items).IsWide := by
  intro members name clauses hin hmem hname
  cases hin with
  | item hw hin => exact h _ hw members name clauses hin hmem hname

theorem isWide_object {members : List (String × Json)} (h : ∀ m ∈ members, m.2.IsWide)
    (hjoins : ∀ name clauses, (name, array clauses) ∈ members → Joins name → 2 ≤ clauses.length) :
    (object members).IsWide := by
  intro inner name clauses hin hmem hname
  cases hin with
  | self => exact hjoins name clauses hmem hname
  | member hw hin => exact h _ hw inner name clauses hin hmem hname

/-- An object without joins is as wide as its members. -/
theorem isWide_members {members : List (String × Json)}
    (h : ∀ m ∈ members, ¬ Joins m.1 ∧ m.2.IsWide) : (object members).IsWide := by
  refine isWide_object (fun m hm => (h m hm).2) fun name clauses hm hname => ?_
  exact absurd hname (h _ hm).1

theorem isWide_member {name : String} (hname : ¬ Joins name) {v : Json} (h : v.IsWide) :
    (object [(name, v)]).IsWide := by
  refine isWide_members fun m hm => ?_
  rw [List.mem_singleton.1 hm]
  exact ⟨hname, h⟩

/-- A list of at least two clauses is as wide as its clauses, whatever it is joined by. -/
theorem isWide_join {op : String} {clauses : List Json} (hlen : 2 ≤ clauses.length)
    (h : ∀ q ∈ clauses, q.IsWide) : (object [(op, array clauses)]).IsWide := by
  refine isWide_object (fun m hm => ?_) fun name clauses' hm _ => ?_
  · rw [List.mem_singleton.1 hm]
    exact isWide_array h
  · obtain ⟨-, heq⟩ := Prod.mk.inj (List.mem_singleton.1 hm)
    obtain rfl := Json.array.inj heq
    exact hlen

theorem isWide_null : null.IsWide := by
  intro _ _ _ hin
  cases hin

theorem isWide_string (s : String) : (string s).IsWide := by
  intro _ _ _ hin
  cases hin

end Json

open Json

/-! ## Joined clauses -/

namespace FilterContext

/-- Clauses joined by `$or` are true when some clause is. -/
theorem truth_joined_or (leaf : Json → Bool) (qs : List Json) :
    truth leaf (joined "$or" qs) = qs.any (truth leaf) := by
  unfold joined
  split
  · simp
  · exact truth_or leaf qs

/-- Clauses joined by `$and` are true when every clause is. -/
theorem truth_joined_and (leaf : Json → Bool) (qs : List Json) :
    truth leaf (joined "$and" qs) = qs.all (truth leaf) := by
  unfold joined
  split
  · simp
  · exact truth_and leaf qs

/-- Joining some clauses never makes a join of a single one. -/
theorem isWide_joined {op : String} {qs : List Json} (hne : qs ≠ []) (h : ∀ q ∈ qs, q.IsWide) :
    (joined op qs).IsWide := by
  unfold joined
  split
  · exact h _ (List.mem_singleton_self _)
  · rename_i hmany
    refine isWide_join ?_ h
    match qs, hne, hmany with
    | [], hne, _ => exact absurd rfl hne
    | [q], _, hmany => exact absurd rfl (hmany q)
    | _ :: _ :: rest, _, _ => simp

end FilterContext

/-! ## Clauses of conditions -/

theorem Scalar.isWide_toJson (s : Scalar) : s.toJson.IsWide := by
  cases s <;> exact fun _ _ _ hin => by cases hin

theorem Literal.isWide_storeValue (l : Literal) : l.storeValue.IsWide := by
  unfold storeValue
  split
  · refine isWide_array fun v hv => ?_
    obtain ⟨s, -, rfl⟩ := List.mem_map.1 hv
    exact s.isWide_toJson
  · exact Scalar.isWide_toJson _
  · refine isWide_members fun m hm => ?_
    simp only [List.mem_cons, List.not_mem_nil, or_false] at hm
    rcases hm with rfl | rfl
    · exact ⟨by simp [Joins], isWide_string _⟩
    · exact ⟨by simp [Joins], isWide_string _⟩

theorem Operator.not_joins_storeToken (op : Operator) : ¬ Joins op.storeToken := by
  cases op <;> simp [Operator.storeToken, Joins]

theorem Operator.isWide_storeClause (op : Operator) {path : String} (hpath : ¬ Joins path)
    {v : Json} (hv : v.IsWide) : (op.storeClause path v).IsWide := by
  unfold Operator.storeClause
  refine isWide_member hpath ?_
  split
  iterate 4 exact hv
  exact isWide_member op.not_joins_storeToken hv

/-- The fields that come with the program have no join for their path. -/
theorem Builtin.not_joins_path {b : Builtin} (hb : b ∈ Builtin.all) : ¬ Joins b.path := by
  have h : ∀ b ∈ Builtin.all, b.path ≠ "$or" ∧ b.path ≠ "$and" := by decide
  rintro (hor | hand)
  · exact (h b hb).1 hor
  · exact (h b hb).2 hand

/-- No field of a catalogue has a join for its path. -/
theorem Catalog.not_joins_path {c : Catalog} {name : String} {field : Field}
    (h : c.resolve name = .ok field) : ¬ Joins field.path := by
  unfold resolve at h
  split at h
  · rename_i cap hcap
    obtain rfl := Except.ok.inj h
    cases (capability?_eq_some_iff.1 hcap).1 with
    | builtin hb => exact Builtin.not_joins_path hb
    | vocabulary => simp [Capability.field, ofVocabulary, Field.subjectCodes, Joins]
  · simp at h

theorem Field.isWide_elemMatch (scheme : String) {inner : Json} (h : inner.IsWide) :
    (object [("$elemMatch", object [("qcode", inner), ("scheme", string scheme)])]).IsWide := by
  refine isWide_member (by simp [Joins]) (isWide_members fun m hm => ?_)
  simp only [List.mem_cons, List.not_mem_nil, or_false] at hm
  rcases hm with rfl | rfl
  · exact ⟨by simp [Joins], h⟩
  · exact ⟨by simp [Joins], isWide_string scheme⟩

/-- A field's own clause is wide: the one join among them has two clauses. -/
theorem Field.isWide_storeClause {f : Field} {op : Operator} {l : Literal} {now : Instant}
    {clause : Json} (h : f.storeClause? op l now = some clause) : clause.IsWide := by
  have hembargo : ¬ Joins embargoPath := by simp [embargoPath, Joins]
  have hmedia : ¬ Joins featureMediaPath := by simp [featureMediaPath, Joins]
  have hsubjects : ¬ Joins subjects := by simp [subjects, Joins]
  have hdate : (object [("$date", string now.text)]).IsWide :=
    isWide_member (by simp [Joins]) (isWide_string _)
  unfold storeClause? at h
  split at h
  · simp at h
  · simp at h
  · split at h
    · obtain rfl := Option.some.inj h
      exact isWide_member hembargo (isWide_member (by simp [Joins]) hdate)
    · obtain rfl := Option.some.inj h
      refine isWide_join (by simp) fun v hv => ?_
      simp only [List.mem_cons, List.not_mem_nil, or_false] at hv
      rcases hv with rfl | rfl
      · exact isWide_member hembargo isWide_null
      · exact isWide_member hembargo (isWide_member (by simp [Joins]) hdate)
  · obtain rfl := Option.some.inj h
    refine isWide_member hmedia ?_
    split
    · exact isWide_member (by simp [Joins]) isWide_null
    · exact isWide_null
  · rename_i scheme _
    obtain rfl := Option.some.inj h
    have hinner : (if op.positive.family = .pattern then l.storeValue
        else object [(op.positive.storeToken, l.storeValue)]).IsWide := by
      split
      · exact l.isWide_storeValue
      · exact isWide_member op.positive.not_joins_storeToken l.isWide_storeValue
    refine isWide_member hsubjects ?_
    split
    · exact isWide_member (by simp [Joins]) (isWide_elemMatch scheme hinner)
    · exact isWide_elemMatch scheme hinner

/-- **The clause of a condition is wide.** -/
theorem ConditionAtom.isWide_storeClause {a : ConditionAtom} {c : Catalog} {strict : Bool}
    {condition : Condition} (h : a.compile c strict = .ok condition) (now : Instant) :
    (condition.storeClause now).IsWide := by
  obtain ⟨field, hfield, h⟩ := bind_eq_ok.1 h
  obtain ⟨op, -, h⟩ := bind_eq_ok.1 h
  obtain ⟨literal, -, h⟩ := bind_eq_ok.1 h
  obtain rfl := Except.ok.inj h
  rw [Condition.storeClause]
  cases hown : field.storeClause? op literal now with
  | some clause => exact Field.isWide_storeClause hown
  | none => exact op.isWide_storeClause (Catalog.not_joins_path hfield) literal.isWide_storeValue

end ContentFilter
