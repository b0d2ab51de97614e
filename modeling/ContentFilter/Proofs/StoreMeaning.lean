import ContentFilter.Proofs.Formulas
import ContentFilter.Proofs.PlainVerdict

/-!
# What a query for the document store means

A query that could be written says the same as the verdict, whatever the graph.  References that a
verdict puts up with keep a query from being written, so where there is a query there is a verdict.

* `Represents` — a reading of clauses under which each clause of a condition below a filter says
  what the condition decides.
* `storeQueryWithin_truth` — a query is true exactly when the filter is plainly decided to match.
* `isMatch_eq_truth_storeQuery` — **under such a reading the query is the verdict**, and no join in
  it has a single clause.
-/

namespace ContentFilter

namespace FilterContext

variable {c : FilterContext} {doc : Json} {leaf : Json → Bool}

/-- Of every condition that a filter asks for, the clause is true exactly when the condition holds
of a document. -/
def Represents (c : FilterContext) (leaf : Json → Bool) (doc : Json) (f : Filter) : Prop :=
  ∀ id a condition, c.graph.AsksFor id f → c.graph.atom? id = some a →
    a.compile c.catalog c.options.strictOperators = .ok condition →
    (condition.storeClause c.now).truth leaf = condition.holds doc c.now

theorem Represents.nested {f f' : Filter} (h : c.Represents leaf doc f)
    (hid : f'.id ∈ f.nestedIds) (hf' : c.graph.filter? f'.id = some f') :
    c.Represents leaf doc f' :=
  fun id a condition hasks => h id a condition (.nested hid hf' hasks)

/-! ## The parts of a query -/

/-- A query is the clause of a condition that an id finds. -/
def ClauseOf (c : FilterContext) (id : String) (q : Json) : Prop :=
  ∃ a condition, c.graph.atom? id = some a ∧
    a.compile c.catalog c.options.strictOperators = .ok condition ∧ q = condition.storeClause c.now

/-- A query is that of a filter that an id finds. -/
def QueryOf (c : FilterContext) (expand : Filter → Except FilterError Json) (id : String)
    (q : Json) : Prop :=
  ∃ f, c.graph.filter? id = some f ∧ expand f = .ok q

theorem storeGroup_eq_ok {f : Filter} {expand : Filter → Except FilterError Json}
    {g : FilterGroup} {q : Json} (h : c.storeGroup f expand g = .ok q) :
    ∃ clauses queries, List.Forall₂ c.ClauseOf g.atoms clauses ∧
      List.Forall₂ (c.QueryOf expand) g.filters queries ∧
        q = joined "$and" (clauses ++ queries) := by
  obtain ⟨clauses, hclauses, h⟩ := bind_eq_ok.1 h
  obtain ⟨queries, hqueries, h⟩ := bind_eq_ok.1 h
  obtain rfl := Except.ok.inj h
  refine ⟨clauses, queries, ?_, ?_, rfl⟩
  · refine (mapM_eq_ok.1 hclauses).imp fun id q hq => ?_
    obtain ⟨condition, hcondition, hq⟩ := bind_eq_ok.1 hq
    obtain rfl := Except.ok.inj hq
    obtain ⟨a, ha, hcompile⟩ := condition_eq_ok hcondition
    exact ⟨a, condition, ha, hcompile, rfl⟩
  · refine (mapM_eq_ok.1 hqueries).imp fun id q hq => ?_
    obtain ⟨f', hf', hq⟩ := bind_eq_ok.1 hq
    exact ⟨f', nested_eq_ok hf', hq⟩

/-! ## Truth -/

theorem plainAll_eq_ok {test : String → Except FilterError Bool} {R : String → Json → Prop}
    {ids : List String} {qs : List Json} (h : List.Forall₂ R ids qs)
    (htest : ∀ id ∈ ids, ∀ q, R id q → test id = .ok (q.truth leaf)) :
    plainAll test ids = .ok (qs.all (Json.truth leaf)) := by
  induction h with
  | nil => rfl
  | @cons id q ids qs hq _ ih =>
    have hrest := ih fun id' hid' => htest id' (List.mem_cons_of_mem _ hid')
    rw [plainAll, htest id List.mem_cons_self q hq, ok_bind, List.all_cons]
    cases q.truth leaf with
    | false => rfl
    | true => simpa using hrest

theorem plainGroup_eq_ok {f : Filter} {expand : Filter → Except FilterError Json}
    {nested : Filter → Except FilterError Bool} {g : FilterGroup} {q : Json}
    (h : c.storeGroup f expand g = .ok q)
    (hatom : ∀ id ∈ g.atoms, ∀ q, c.ClauseOf id q → c.plainAtom doc f id = .ok (q.truth leaf))
    (hnested : ∀ id ∈ g.filters, ∀ f', c.graph.filter? id = some f' → ∀ q, expand f' = .ok q →
      nested f' = .ok (q.truth leaf)) :
    c.plainGroup doc f nested g = .ok (q.truth leaf) := by
  obtain ⟨clauses, queries, hclauses, hqueries, rfl⟩ := storeGroup_eq_ok h
  have hbelow : plainAll (c.plainNested nested) g.filters =
      .ok (queries.all (Json.truth leaf)) := by
    refine plainAll_eq_ok hqueries fun id hid q ⟨f', hf', hq⟩ => ?_
    rw [plainNested, hf']
    exact hnested id hid f' hf' q hq
  rw [plainGroup, plainAll_eq_ok hclauses hatom, ok_bind, truth_joined_and, List.all_append]
  cases clauses.all (Json.truth leaf) with
  | false => rfl
  | true => simpa using hbelow

theorem plainGroups_eq_ok {f : Filter} {one : FilterGroup → Except FilterError Json}
    {nested : Filter → Except FilterError Bool} {gs : List FilterGroup} {qs : List Json}
    (h : List.Forall₂ (fun g q => g.isEmpty = false ∧ one g = .ok q) gs qs)
    (hone : ∀ g ∈ gs, ∀ q, one g = .ok q → c.plainGroup doc f nested g = .ok (q.truth leaf))
    (n : Nat) : c.plainGroups doc f nested n gs = .ok (qs.any (Json.truth leaf)) := by
  induction h generalizing n with
  | nil => rfl
  | @cons g q gs qs hq _ ih =>
    have hrest := ih (fun g' hg' => hone g' (List.mem_cons_of_mem _ hg')) (n + 1)
    rw [plainGroups, if_neg (by simp [hq.1]), hone g List.mem_cons_self q hq.2, ok_bind,
      List.any_cons]
    cases q.truth leaf with
    | false => simpa using hrest
    | true => rfl

theorem storeQueryWithin_eq_ok {n : Nat} {path : List String} {f : Filter} {q : Json}
    (h : c.storeQueryWithin n path f = .ok q) : ∃ m qs, n = m + 1 ∧ f.id ∉ path ∧
      groups f (c.storeGroup f (c.storeQueryWithin m (path ++ [f.id]))) = .ok qs ∧
        q = joined "$or" qs := by
  cases n with
  | zero => simp [storeQueryWithin] at h
  | succ m =>
    unfold storeQueryWithin at h
    split at h
    · simp at h
    · rename_i hcircle
      obtain ⟨qs, hqs, h⟩ := bind_eq_ok.1 h
      exact ⟨m, qs, rfl, not_mem_of_circle? hcircle, hqs, (Except.ok.inj h).symm⟩

/-- Where there is a query there is a plain verdict, and the query is true exactly if the filter
matches. -/
theorem storeQueryWithin_truth (n : Nat) {path : List String} {f : Filter} {q : Json}
    (h : c.storeQueryWithin n path f = .ok q) (hleaf : c.Represents leaf doc f) :
    c.plainWithin doc n path f = .ok (q.truth leaf) := by
  induction n generalizing path f q with
  | zero => simp [storeQueryWithin] at h
  | succ n ih =>
    obtain ⟨m, qs, hm, hmem, hqs, rfl⟩ := storeQueryWithin_eq_ok h
    obtain rfl := Nat.succ.inj hm
    rw [plainWithin_succ c doc hmem, truth_joined_or]
    refine plainGroups_eq_ok (groups_eq_ok hqs).2 (fun g hg q hq => ?_) 1
    refine plainGroup_eq_ok hq (fun id hid q hclause => ?_) fun id hid f' hf' q hq => ?_
    · obtain ⟨a, condition, ha, hcompile, rfl⟩ := hclause
      rw [hleaf id a condition (.own (mem_atomIds_of_mem hg hid)) ha hcompile]
      simp only [plainAtom, ha, hcompile]
    · obtain rfl := FilterGraph.id_of_filter? hf'
      exact ih hq (hleaf.nested (mem_nestedIds_of_mem hg hid) hf')

/-! ## Width -/

theorem storeGroup_isWide {f : Filter} {expand : Filter → Except FilterError Json}
    (hexpand : ∀ f q, expand f = .ok q → q.IsWide) {g : FilterGroup} (hg : g.isEmpty = false)
    {q : Json} (h : c.storeGroup f expand g = .ok q) : q.IsWide := by
  obtain ⟨clauses, queries, hclauses, hqueries, rfl⟩ := storeGroup_eq_ok h
  refine isWide_joined ?_ fun q hq => ?_
  · intro hnil
    obtain ⟨rfl, rfl⟩ := List.append_eq_nil_iff.1 hnil
    rw [List.forall₂_nil_right_iff] at hclauses hqueries
    simp [FilterGroup.isEmpty, hclauses, hqueries] at hg
  · rcases List.mem_append.1 hq with hq | hq
    · obtain ⟨id, -, a, condition, -, hcompile, rfl⟩ := exists_of_mem_forall₂ hclauses hq
      exact ConditionAtom.isWide_storeClause hcompile c.now
    · obtain ⟨id, -, f', -, hf'⟩ := exists_of_mem_forall₂ hqueries hq
      exact hexpand f' q hf'

theorem storeQueryWithin_isWide (n : Nat) {path : List String} {f : Filter} {q : Json}
    (h : c.storeQueryWithin n path f = .ok q) : q.IsWide := by
  induction n generalizing path f q with
  | zero => simp [storeQueryWithin] at h
  | succ n ih =>
    obtain ⟨m, qs, hm, -, hqs, rfl⟩ := storeQueryWithin_eq_ok h
    obtain rfl := Nat.succ.inj hm
    obtain ⟨hne, hgroups⟩ := groups_eq_ok hqs
    refine isWide_joined hne fun q hq => ?_
    obtain ⟨g, -, hfull, hg⟩ := exists_of_mem_forall₂ hgroups hq
    exact storeGroup_isWide (fun _ _ hq => ih hq) hfull hg

/-- **A query for the document store means what the verdict decides.**  If the clauses of the
conditions that a filter asks for are read as the conditions hold of a document, the query is true
exactly when the document matches; and no join in it has a single clause. -/
theorem isMatch_eq_truth_storeQuery {f : Filter} {q : Json} (h : c.storeQuery f = .ok q) :
    (∀ doc leaf, c.Represents leaf doc f → c.isMatch (some f) doc = .ok (q.truth leaf)) ∧
      q.IsWide :=
  ⟨fun _ _ hleaf => isMatch_eq_ok (storeQueryWithin_truth c.levels h hleaf),
    storeQueryWithin_isWide c.levels h⟩

namespace Storms

/-- Storms, if they are urgent; and all storms. -/
def filter : Filter := ⟨"b", "storms", false, false, [⟨["2"], ["a"]⟩, ⟨["2"], []⟩]⟩

/-- A filter on urgent items, and one on storms that refers to it. -/
def context : FilterContext where
  graph := .ofLists
    [⟨"1", "urgent", "urgency", "in", "1, 2"⟩, ⟨"2", "storm", "headline", "like", "storm"⟩]
    [⟨"a", "urgent", false, false, [⟨["1"], []⟩]⟩, filter]
  catalog := .empty []
  options := .standard
  now := ⟨0, 0⟩

/-- The clause on headlines. -/
def headline : Json :=
  .object [("headline", .object [("$options", .string "i"), ("$regex", .string ".*storm.*")])]

/-- The query for storms. -/
def query : Json :=
  .object [("$or", .array [
    .object [("$and", .array [headline,
      .object [("urgency", .object [("$in", .array [.int 1, .int 2])])]])],
    headline])]

/-- A storm that is not urgent. -/
def item : Json := .object [("headline", .string "Storm at sea"), ("urgency", .int 4)]

/-- The clauses that are true of this storm: those on its headline. -/
def isTrue (clause : Json) : Bool := (clause.member? "headline").isSome

theorem represents : context.Represents isTrue item filter := by
  intro id a condition _ ha hcompile
  have hatoms : ∀ a ∈ context.graph.atoms.records,
      ((a.compile context.catalog context.options.strictOperators).map fun condition =>
        ((condition.storeClause context.now).truth isTrue, condition.holds item context.now)) =
          .ok (a.field == "headline", a.field == "headline") := by
    decide
  have hboth := hatoms a (Roster.mem_of_get? ha)
  rw [hcompile] at hboth
  obtain ⟨hclause, hholds⟩ := Prod.mk.inj (Except.ok.inj hboth)
  rw [hclause, hholds]

/-- The verdict on the storm is what the query says of it, since its second part is true. -/
theorem isMatch_item :
    context.storeQuery filter = .ok query ∧ context.Represents isTrue item filter ∧
      context.isMatch (some filter) item = .ok (query.truth isTrue) ∧ query.truth isTrue = true ∧
        query.IsWide := by
  have hquery : context.storeQuery filter = .ok query := by rfl
  obtain ⟨htruth, hwide⟩ := isMatch_eq_truth_storeQuery hquery
  exact ⟨hquery, represents, htruth item isTrue represents, by rfl, hwide⟩

end Storms

end FilterContext
end ContentFilter
