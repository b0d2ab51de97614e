import ContentFilter.Condition.Basic
import ContentFilter.Filter.Basic

/-!
# Filter graphs

Filters and conditions by id, and who refers to whom.  The stored references may lead in circles or
to nothing, so a walk keeps the ids that it has met and meets each only once.

`reach` is the walk, breadth first; `referenced` follows the references of filters, `referencing`
follows them backwards, and `usingAtom` lists the filters that depend on a condition.
-/

namespace ContentFilter

/-- Filters and conditions by id. -/
structure FilterGraph where
  filters : Roster Filter
  atoms : Roster ConditionAtom
  deriving Inhabited

namespace FilterGraph

/-- The graph without filters and conditions. -/
def empty : FilterGraph := ⟨.empty, .empty⟩

/-- The graph of some conditions and filters. -/
def ofLists (atoms : List ConditionAtom) (filters : List Filter) : FilterGraph :=
  ⟨.ofList filters, .ofList atoms⟩

/-- The filter with an id. -/
def filter? (g : FilterGraph) (id : String) : Option Filter := g.filters.get? id

/-- The condition with an id. -/
def atom? (g : FilterGraph) (id : String) : Option ConditionAtom := g.atoms.get? id

/-- The graph with a filter in place of any with its id. -/
def insertFilter (g : FilterGraph) (f : Filter) : FilterGraph :=
  { g with filters := g.filters.insert f }

/-- The graph with a condition in place of any with its id. -/
def insertAtom (g : FilterGraph) (a : ConditionAtom) : FilterGraph :=
  { g with atoms := g.atoms.insert a }

/-! ## Walks -/

/-- The number of nodes not yet met. -/
def unmet (nodes met : List String) : Nat :=
  (nodes.filter fun n => !met.contains n).length

theorem unmet_lt {nodes met : List String} {n : String} (h : n ∈ nodes) (hm : n ∉ met) :
    unmet nodes (met ++ [n]) < unmet nodes met := by
  unfold unmet
  induction nodes with
  | nil => simp at h
  | cons a rest ih =>
    have sub : ∀ l : List String, (l.filter fun x => !(met ++ [n]).contains x).length ≤
        (l.filter fun x => !met.contains x).length := by
      intro l
      induction l with
      | nil => simp
      | cons b l ih =>
        simp only [List.filter_cons]
        by_cases hb : b ∈ met
        · simpa [hb] using ih
        · by_cases hbn : b = n
          · simp [hbn, hm] at ih ⊢; omega
          · simp [hb, hbn] at ih ⊢; omega
    by_cases ha : a = n
    · subst ha
      have := sub rest
      simp only [List.filter_cons]
      simp [hm] at this ⊢
      omega
    · have hrest : n ∈ rest := by
        rcases List.mem_cons.1 h with h | h
        · exact absurd h.symm ha
        · exact h
      have := ih hrest
      simp only [List.filter_cons]
      by_cases hb : a ∈ met
      · simpa [hb] using this
      · simp [hb, ha] at this ⊢; omega

/-- The nodes met from those in the queue on, in the order in which a breadth-first walk meets them;
`met` holds those met before. -/
def walk (nodes : List String) (next : String → List String) (met queue : List String) :
    List String :=
  match queue with
  | [] => met
  | n :: queue =>
    if _h : n ∈ nodes ∧ n ∉ met then walk nodes next (met ++ [n]) (queue ++ next n)
    else walk nodes next met queue
termination_by (unmet nodes met, queue.length)
decreasing_by
  · exact Prod.Lex.left _ _ (unmet_lt _h.1 _h.2)
  · exact Prod.Lex.right _ (by simp)

/-- What a walk from a node meets after the node itself. -/
def reach (nodes : List String) (next : String → List String) (start : String) : List String :=
  (walk (start :: nodes) next [] [start]).drop 1

/-- The filters that a filter refers to; none where there is no such filter. -/
def nestedOf (g : FilterGraph) (id : String) : List String :=
  match g.filter? id with
  | some f => f.nestedIds
  | none => []

/-- Every id that some filter refers to. -/
def nestedIds (g : FilterGraph) : List String := g.filters.records.flatMap Filter.nestedIds

/-- The filters that refer to a filter. -/
def usersOf (g : FilterGraph) (id : String) : List String :=
  (g.filters.records.filter fun f => f.usesFilter id).map Filter.id

/-- Every id that a filter reaches through references, itself left out. -/
def referenced (g : FilterGraph) (id : String) : List String :=
  reach g.nestedIds g.nestedOf id

/-- Every filter that reaches an id through references, the id itself left out. -/
def referencing (g : FilterGraph) (id : String) : List String :=
  reach g.filters.ids g.usersOf id

/-- Every filter that depends on a condition: those that refer to it, and then those that reach
one of them. -/
def usingAtom (g : FilterGraph) (id : String) : List String :=
  let direct := (g.filters.records.filter fun f => f.usesAtom id).map Filter.id
  Filter.distinct (direct ++ direct.flatMap g.referencing)

end FilterGraph
end ContentFilter
