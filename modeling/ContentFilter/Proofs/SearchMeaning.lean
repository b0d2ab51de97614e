import ContentFilter.Proofs.StoreMeaning

/-!
# What a query for the search backend means

A query for the search backend is made of `bool` clauses.  Anything else in it is a clause that the
backend decides on its own, and one of these is the clause of spiked items.  A negating condition is
written as its positive clause and put where it must not hold, and every nested filter keeps spiked
items out once more.

* `Json.searchTruth` — whether a query is true, given which clauses are.
* `FilterGraph.Satisfies` — what a filter says of its conditions, as the groups have it.
* `Says`, `Reads` — a reading of clauses under which those of positive conditions say that the
  condition holds, and those of negating conditions that it does not.
* `searchQueryWithin_truth` — the query of a filter, however deep it stands.
* `searchQuery_truth` — **the query for matching items is true of those items that satisfy the
  filter and are not spiked, and the query for the others is true of all others.**
-/

namespace ContentFilter

namespace Json

/-! ## Truth -/

mutual

/-- Whether a query is true, given whether a clause that is no `bool` clause is. -/
def searchTruth (leaf : Json → Bool) : Json → Bool
  | .object [(name, .object parts)] =>
    if name = "bool" then partsTrue leaf parts else leaf (.object [(name, .object parts)])
  | clause => leaf clause

/-- Whether the parts of a `bool` clause say so: what must hold does, what must not does not, and of
what should, if there is such a part, something does. -/
def partsTrue (leaf : Json → Bool) : List (String × Json) → Bool
  | [] => true
  | (name, .array clauses) :: rest =>
    (if name = "must" then allHold leaf clauses
      else if name = "must_not" then !someHold leaf clauses
      else if name = "should" then someHold leaf clauses
      else true) && partsTrue leaf rest
  | _ :: rest => partsTrue leaf rest

/-- Whether some query of a list is true. -/
def someHold (leaf : Json → Bool) : List Json → Bool
  | [] => false
  | q :: rest => searchTruth leaf q || someHold leaf rest

/-- Whether every query of a list is true. -/
def allHold (leaf : Json → Bool) : List Json → Bool
  | [] => true
  | q :: rest => searchTruth leaf q && allHold leaf rest

end

variable (leaf : Json → Bool)

theorem someHold_eq_any (qs : List Json) : someHold leaf qs = qs.any (searchTruth leaf) := by
  induction qs with
  | nil => simp [someHold]
  | cons q rest ih => rw [someHold, ih, List.any_cons]

theorem allHold_eq_all (qs : List Json) : allHold leaf qs = qs.all (searchTruth leaf) := by
  induction qs with
  | nil => simp [allHold]
  | cons q rest ih => rw [allHold, ih, List.all_cons]

end Json

open Json

namespace FilterContext

variable {leaf : Json → Bool}

/-- The clause of spiked items is none that holds others. -/
theorem searchTruth_spiked : searchTruth leaf spiked = leaf spiked := by
  rw [spiked, searchTruth, if_neg (by decide)]

/-- A `bool` clause of what must hold and what must not. -/
theorem searchTruth_bool_group {musts nots : List Json} :
    searchTruth leaf (bool [("must", .array musts), ("must_not", .array nots)]) = true ↔
      (∀ q ∈ musts, searchTruth leaf q = true) ∧ ∀ q ∈ nots, searchTruth leaf q = false := by
  rw [bool, searchTruth, if_pos rfl]
  simp [partsTrue, allHold_eq_all, someHold_eq_any]

/-- A `bool` clause of which some part should hold. -/
theorem searchTruth_bool_matching (qs : List Json) :
    searchTruth leaf (bool [(MatchMode.matching.clause, .array qs)]) =
      qs.any (searchTruth leaf) := by
  rw [bool, searchTruth, if_pos rfl]
  simp [partsTrue, MatchMode.clause, someHold_eq_any]

/-- A `bool` clause of which no part may hold. -/
theorem searchTruth_bool_notMatching (qs : List Json) :
    searchTruth leaf (bool [(MatchMode.notMatching.clause, .array qs)]) =
      !qs.any (searchTruth leaf) := by
  rw [bool, searchTruth, if_pos rfl]
  simp [partsTrue, MatchMode.clause, someHold_eq_any]

end FilterContext

/-! ## What filters say -/

namespace FilterGraph

/-- Some group of a filter holds: the conditions that it refers to do, and so do the filters, as the
graph has them. -/
inductive Satisfies (g : FilterGraph) (value : String → Bool) : Filter → Prop where
  -- a recursive predicate cannot stand under "there is", so the filters are named by a function
  | group {f : Filter} {group : FilterGroup} (below : String → Filter) (hgroup : group ∈ f.groups)
      (hatoms : ∀ id ∈ group.atoms, value id = true)
      (hbelow : ∀ id ∈ group.filters, g.filter? id = some (below id))
      (hfilters : ∀ id ∈ group.filters, Satisfies g value (below id)) : Satisfies g value f

/-- A group holds: its conditions do, and its filters are in the graph and satisfied. -/
def SatisfiesGroup (g : FilterGraph) (value : String → Bool) (group : FilterGroup) : Prop :=
  (∀ id ∈ group.atoms, value id = true) ∧
    ∀ id ∈ group.filters, ∃ f, g.filter? id = some f ∧ g.Satisfies value f

/-- A filter is satisfied if some group of it holds. -/
theorem satisfies_iff {g : FilterGraph} {value : String → Bool} {f : Filter} :
    g.Satisfies value f ↔ ∃ group ∈ f.groups, g.SatisfiesGroup value group := by
  constructor
  · rintro ⟨below, hgroup, hatoms, hbelow, hfilters⟩
    exact ⟨_, hgroup, hatoms, fun id hid => ⟨below id, hbelow id hid, hfilters id hid⟩⟩
  · rintro ⟨group, hgroup, hatoms, hfilters⟩
    choose! below hbelow hfilters using hfilters
    exact .group below hgroup hatoms hbelow hfilters

end FilterGraph

namespace FilterContext

variable {c : FilterContext} {value : String → Bool} {leaf : Json → Bool}

/-- The clause of a condition says whether the condition holds; that of a negating condition says
the opposite, since it is the positive one. -/
def Says (leaf : Json → Bool) (condition : Condition) (holds : Bool) : Prop :=
  condition.searchClause.searchTruth leaf = if condition.isNegation then !holds else holds

/-- The clause of every condition that a filter asks for says what value the condition was given. -/
def Reads (c : FilterContext) (value : String → Bool) (leaf : Json → Bool) (f : Filter) : Prop :=
  ∀ id a condition, c.graph.AsksFor id f → c.graph.atom? id = some a →
    a.compile c.catalog c.options.strictOperators = .ok condition → Says leaf condition (value id)

theorem Reads.nested {f f' : Filter} (h : c.Reads value leaf f)
    (hid : f'.id ∈ f.nestedIds) (hf' : c.graph.filter? f'.id = some f') :
    c.Reads value leaf f' :=
  fun id a condition hasks => h id a condition (.nested hid hf' hasks)

/-! ## The parts of a query -/

/-- A condition is the one that an id finds. -/
def ConditionOf (c : FilterContext) (id : String) (condition : Condition) : Prop :=
  ∃ a, c.graph.atom? id = some a ∧
    a.compile c.catalog c.options.strictOperators = .ok condition

theorem searchGroup_eq_ok {f : Filter} {expand : Filter → Except FilterError Json}
    {g : FilterGroup} {q : Json} (h : c.searchGroup f expand g = .ok q) :
    ∃ conditions queries, List.Forall₂ c.ConditionOf g.atoms conditions ∧
      List.Forall₂ (c.QueryOf expand) g.filters queries ∧
        q = bool [
          ("must", .array ((conditions.filter fun condition => !condition.isNegation).map
            Condition.searchClause ++ queries)),
          ("must_not", .array (spiked ::
            (conditions.filter Condition.isNegation).map Condition.searchClause))] := by
  obtain ⟨conditions, hconditions, h⟩ := bind_eq_ok.1 h
  obtain ⟨queries, hqueries, h⟩ := bind_eq_ok.1 h
  rw [List.partition_eq_filter_filter] at h
  refine ⟨conditions, queries, ?_, ?_, (Except.ok.inj h).symm⟩
  · exact (mapM_eq_ok.1 hconditions).imp fun id condition hcondition => condition_eq_ok hcondition
  · refine (mapM_eq_ok.1 hqueries).imp fun id q hq => ?_
    obtain ⟨f', hf', hq⟩ := bind_eq_ok.1 hq
    exact ⟨f', nested_eq_ok hf', hq⟩

theorem searchQueryWithin_eq_ok {n : Nat} {path : List String} {mode : MatchMode} {f : Filter}
    {q : Json} (h : c.searchQueryWithin n path mode f = .ok q) : ∃ m qs, n = m + 1 ∧
      groups f (c.searchGroup f (c.searchQueryWithin m (path ++ [f.id]) .matching)) = .ok qs ∧
        ∀ mode', c.searchQueryWithin n path mode' f = .ok (bool [(mode'.clause, .array qs)]) := by
  cases n with
  | zero => simp [searchQueryWithin] at h
  | succ m =>
    unfold searchQueryWithin at h
    split at h
    · simp at h
    · rename_i hcircle
      obtain ⟨qs, hqs, -⟩ := bind_eq_ok.1 h
      refine ⟨m, qs, rfl, hqs, fun mode' => ?_⟩
      simp only [searchQueryWithin, hcircle, hqs, ok_bind]
      rfl

/-! ## Truth of a query -/

/-- The clauses of a group's conditions say that the conditions have been given the value true, each
on its side. -/
theorem conditions_true_iff {ids : List String} {conditions : List Condition}
    (h : List.Forall₂ c.ConditionOf ids conditions)
    (hreads : ∀ id ∈ ids, ∀ condition, c.ConditionOf id condition →
      Says leaf condition (value id)) :
    ((∀ condition ∈ conditions, condition.isNegation = false →
        condition.searchClause.searchTruth leaf = true) ∧
      ∀ condition ∈ conditions, condition.isNegation = true →
        condition.searchClause.searchTruth leaf = false) ↔ ∀ id ∈ ids, value id = true := by
  constructor
  · rintro ⟨hpositive, hnegative⟩ id hid
    obtain ⟨condition, hmem, hcondition⟩ := exists_of_mem_forall₂ h.flip hid
    have hread := hreads id hid condition hcondition
    cases hneg : condition.isNegation with
    | false => simpa [hneg, hpositive condition hmem hneg] using hread.symm
    | true => simpa [hneg, hnegative condition hmem hneg] using hread.symm
  · intro hvalue
    have hread : ∀ condition ∈ conditions,
        condition.searchClause.searchTruth leaf = !condition.isNegation := by
      intro condition hmem
      obtain ⟨id, hid, hcondition⟩ := exists_of_mem_forall₂ h hmem
      rw [hreads id hid condition hcondition, hvalue id hid]
      cases condition.isNegation <;> rfl
    exact ⟨fun condition hmem hneg => by rw [hread condition hmem, hneg]; rfl,
      fun condition hmem hneg => by rw [hread condition hmem, hneg]; rfl⟩

/-- The query of a group says that the item is not spiked, and its clauses say what they have to,
each on its side. -/
theorem searchTruth_parts_iff (conditions : List Condition) (queries : List Json) :
    searchTruth leaf (bool [
        ("must", .array ((conditions.filter fun condition => !condition.isNegation).map
          Condition.searchClause ++ queries)),
        ("must_not", .array (spiked ::
          (conditions.filter Condition.isNegation).map Condition.searchClause))]) = true ↔
      leaf spiked = false ∧
        ((∀ condition ∈ conditions, condition.isNegation = false →
            condition.searchClause.searchTruth leaf = true) ∧
          ∀ condition ∈ conditions, condition.isNegation = true →
            condition.searchClause.searchTruth leaf = false) ∧
        ∀ q ∈ queries, q.searchTruth leaf = true := by
  rw [searchTruth_bool_group, List.forall_mem_append, List.forall_mem_cons, searchTruth_spiked,
    List.forall_mem_map, List.forall_mem_map]
  simp only [List.mem_filter, Bool.not_eq_true', and_imp]
  constructor
  · rintro ⟨⟨hpositive, hqueries⟩, hspiked, hnegative⟩
    exact ⟨hspiked, ⟨hpositive, hnegative⟩, hqueries⟩
  · rintro ⟨hspiked, ⟨hpositive, hnegative⟩, hqueries⟩
    exact ⟨⟨hpositive, hqueries⟩, hspiked, hnegative⟩

/-- Where the item is not spiked, the queries of nested filters say that these are satisfied. -/
theorem queries_true_iff {expand : Filter → Except FilterError Json} {ids : List String}
    {queries : List Json} (h : List.Forall₂ (c.QueryOf expand) ids queries)
    (hexpand : ∀ id ∈ ids, ∀ f', c.graph.filter? id = some f' → ∀ q, expand f' = .ok q →
      (q.searchTruth leaf = true ↔ c.graph.Satisfies value f')) :
    (∀ q ∈ queries, q.searchTruth leaf = true) ↔
      ∀ id ∈ ids, ∃ f', c.graph.filter? id = some f' ∧ c.graph.Satisfies value f' := by
  constructor
  · intro htrue id hid
    obtain ⟨q, hmem, f', hf', hq⟩ := exists_of_mem_forall₂ h.flip hid
    exact ⟨f', hf', (hexpand id hid f' hf' q hq).1 (htrue q hmem)⟩
  · intro hsatisfies q hmem
    obtain ⟨id, hid, f', hf', hq⟩ := exists_of_mem_forall₂ h hmem
    obtain ⟨f'', hf'', hsatisfied⟩ := hsatisfies id hid
    obtain rfl : f' = f'' := Option.some.inj (hf'.symm.trans hf'')
    exact (hexpand id hid f' hf' q hq).2 hsatisfied

/-- The query of a group is true if the item is not spiked, and the conditions of the group and its
filters hold. -/
theorem searchGroup_truth {f : Filter} {expand : Filter → Except FilterError Json}
    {g : FilterGroup} {q : Json} (h : c.searchGroup f expand g = .ok q)
    (hreads : ∀ id ∈ g.atoms, ∀ condition, c.ConditionOf id condition →
      Says leaf condition (value id))
    (hexpand : ∀ id ∈ g.filters, ∀ f', c.graph.filter? id = some f' → ∀ q, expand f' = .ok q →
      (q.searchTruth leaf = true ↔ leaf spiked = false ∧ c.graph.Satisfies value f')) :
    q.searchTruth leaf = true ↔ leaf spiked = false ∧ c.graph.SatisfiesGroup value g := by
  obtain ⟨conditions, queries, hconditions, hqueries, rfl⟩ := searchGroup_eq_ok h
  rw [searchTruth_parts_iff, conditions_true_iff hconditions hreads]
  refine and_congr_right fun hspiked => and_congr_right fun _ => ?_
  refine queries_true_iff hqueries fun id hid f' hf' q hq => ?_
  rw [hexpand id hid f' hf' q hq]
  exact and_iff_right hspiked

/-- The query of a filter, for matching items, is true if the item is not spiked and satisfies the
filter. -/
theorem searchQueryWithin_truth (n : Nat) {path : List String} {f : Filter} {q : Json}
    (h : c.searchQueryWithin n path .matching f = .ok q) (hreads : c.Reads value leaf f) :
    q.searchTruth leaf = true ↔ leaf spiked = false ∧ c.graph.Satisfies value f := by
  induction n generalizing path f q with
  | zero => simp [searchQueryWithin] at h
  | succ n ih =>
    obtain ⟨m, qs, hm, hqs, hmodes⟩ := searchQueryWithin_eq_ok h
    obtain rfl := Nat.succ.inj hm
    obtain rfl := Except.ok.inj (h.symm.trans (hmodes .matching))
    have hgroups := (groups_eq_ok hqs).2
    have hgroup : ∀ g ∈ f.groups, ∀ q,
        c.searchGroup f (c.searchQueryWithin n (path ++ [f.id]) .matching) g = .ok q →
          (q.searchTruth leaf = true ↔ leaf spiked = false ∧ c.graph.SatisfiesGroup value g) := by
      intro g hg q hq
      refine searchGroup_truth hq (fun id hid condition hcondition => ?_)
        fun id hid f' hf' q hq => ?_
      · obtain ⟨a, ha, hcompile⟩ := hcondition
        exact hreads id a condition (.own (mem_atomIds_of_mem hg hid)) ha hcompile
      · obtain rfl := FilterGraph.id_of_filter? hf'
        exact ih hq (hreads.nested (mem_nestedIds_of_mem hg hid) hf')
    rw [searchTruth_bool_matching, List.any_eq_true, FilterGraph.satisfies_iff]
    constructor
    · rintro ⟨q, hmem, htrue⟩
      obtain ⟨g, hg, -, hq⟩ := exists_of_mem_forall₂ hgroups hmem
      obtain ⟨hspiked, hholds⟩ := (hgroup g hg q hq).1 htrue
      exact ⟨hspiked, g, hg, hholds⟩
    · rintro ⟨hspiked, g, hg, hholds⟩
      obtain ⟨q, hmem, -, hq⟩ := exists_of_mem_forall₂ hgroups.flip hg
      exact ⟨q, hmem, (hgroup g hg q hq).2 ⟨hspiked, hholds⟩⟩

/-- **A query for the search backend means what the filter says.**  If each clause of a condition is
read as the condition, and of a negating condition as the opposite, the query for matching items is
true of those that satisfy the filter and whose state is not that of spiked items.  The query for
the others, which can be written whenever the first can, is true of all that the first is not true
of. -/
theorem searchQuery_truth {f : Filter} {mode : MatchMode} {q : Json}
    (h : c.searchQuery f mode = .ok q) :
    ∃ matching others, c.searchQuery f .matching = .ok matching ∧
      c.searchQuery f .notMatching = .ok others ∧
        ∀ value leaf, c.Reads value leaf f →
          (matching.searchTruth leaf = true ↔
            leaf (.object [("term", .object [("state", .string "spiked")])]) = false ∧
              c.graph.Satisfies value f) ∧
            others.searchTruth leaf = !matching.searchTruth leaf := by
  obtain ⟨m, qs, -, -, hmodes⟩ := searchQueryWithin_eq_ok h
  refine ⟨_, _, hmodes .matching, hmodes .notMatching, fun value leaf hreads => ⟨?_, ?_⟩⟩
  · exact searchQueryWithin_truth c.levels (hmodes .matching) hreads
  · rw [searchTruth_bool_notMatching, searchTruth_bool_matching]

namespace Pictures

/-- What has a picture and is not on storms. -/
def filter : Filter := ⟨"b", "calm", false, false, [⟨["1"], ["a"]⟩]⟩

/-- A filter on pictures, and one that refers to it and leaves storms out.  Both conditions negate,
and the clause of the second negates once more. -/
def context : FilterContext where
  graph := .ofLists
    [⟨"1", "no storm", "headline", "notlike", "storm"⟩, ⟨"2", "picture", "featuremedia", "ne", "0"⟩]
    [⟨"a", "pictures", false, false, [⟨["2"], []⟩]⟩, filter]
  catalog := .empty []
  options := .standard
  now := ⟨0, 0⟩

/-- The query for what has a picture and is not on storms. -/
def query : Json :=
  let taken : Json := .object [("term", .object [("state", .string "spiked")])]
  let picture : Json :=
    .object [("exists", .object [("field", .string "associations.featuremedia")])]
  let pictures : Json := bool [("should", .array [bool [("must", .array []),
    ("must_not", .array [taken, bool [("must_not", .array [picture])]])]])]
  bool [("should", .array [bool [("must", .array [pictures]),
    ("must_not", .array [taken,
      .object [("query_string", .object [("query", .string "headline:*storm*")])]])]])]

/-- The clauses that are true of an item that has a picture, is not on storms and is not spiked. -/
def isTrue (clause : Json) : Bool := (clause.member? "exists").isSome

theorem reads : context.Reads (fun _ => true) isTrue filter := by
  intro id a condition _ ha hcompile
  have hatoms : ∀ a ∈ context.graph.atoms.records,
      ((a.compile context.catalog context.options.strictOperators).map fun condition =>
        (condition.isNegation, condition.searchClause.searchTruth isTrue)) = .ok (true, false) := by
    decide
  have hboth := hatoms a (Roster.mem_of_get? ha)
  rw [hcompile] at hboth
  obtain ⟨hnegation, hclause⟩ := Prod.mk.inj (Except.ok.inj hboth)
  rw [Says, hclause, hnegation]
  rfl

/-- The item matches: what must not hold of it does not. -/
theorem searchTruth_query :
    context.searchQuery filter .matching = .ok query ∧
      context.Reads (fun _ => true) isTrue filter ∧ query.searchTruth isTrue = true ∧
        isTrue (.object [("term", .object [("state", .string "spiked")])]) = false ∧
        context.graph.Satisfies (fun _ => true) filter ∧
          ∃ others, context.searchQuery filter .notMatching = .ok others ∧
            others.searchTruth isTrue = false := by
  have hquery : context.searchQuery filter .matching = .ok query := by rfl
  obtain ⟨matching, others, hmatching, hothers, hmeans⟩ := searchQuery_truth hquery
  obtain rfl := Except.ok.inj (hmatching.symm.trans hquery)
  obtain ⟨hmatch, hother⟩ := hmeans (fun _ => true) isTrue reads
  have htrue : query.searchTruth isTrue = true := by rfl
  obtain ⟨hspiked, hsatisfies⟩ := hmatch.1 htrue
  refine ⟨hquery, reads, htrue, hspiked, hsatisfies, others, hothers, ?_⟩
  rw [hother, htrue]
  rfl

end Pictures

end FilterContext
end ContentFilter
