import ContentFilter.Engine.Error
import ContentFilter.Query.Search
import ContentFilter.Query.Store
import ContentFilter.Query.Verdict
import ContentFilter.Settings.Basic
import ContentFilter.Store.Conditions
import ContentFilter.Store.Filters

/-!
# The engine

Settings, the catalogue, the store and the consumers of filters in one place.  A filter is loaded
from the store for every query and every verdict, so that results follow what is stored.

What changes the engine gives back the changed engine; what fails changes nothing.
-/

namespace ContentFilter

/-- Everything that filters are kept and used with. -/
structure Engine where
  settings : Settings
  catalog : Catalog
  store : Store
  consumers : Consumers
  /-- The moment that computed fields are read at. -/
  now : Instant

namespace Engine

/-- An engine with the catalogue that its settings and some vocabularies make. -/
def start (settings : Settings) (vocabularies : List Vocabulary) (store : Store)
    (consumers : Consumers) (now : Instant) : Engine :=
  ⟨settings, (Catalog.empty settings.excludedVocabularies).withVocabularies vocabularies, store,
    consumers, now⟩

/-- A result of the store as a result of the engine. -/
def fromStore {α : Type} : Except StoreError α → Except EngineError α
  | .ok a => .ok a
  | .error cause => .error (.store cause)

/-- A result about a loaded filter as a result of the engine. -/
def fromFilter {α : Type} : Except FilterError α → Except EngineError α
  | .ok a => .ok a
  | .error cause => .error (.filter cause)

/-- The engine with another store. -/
def withStore (e : Engine) (s : Store) : Engine := { e with store := s }

/-- How deep filters may nest. -/
def maxDepth (e : Engine) : Nat := e.settings.options.maxDepth

/-! ## Conditions -/

/-- Stores a new condition; `fresh` is its id if it has none. -/
def createCondition (e : Engine) (fresh : String) (a : ConditionAtom) :
    Except EngineError (ConditionAtom × Engine) :=
  fromStore ((e.store.createAtom e.catalog fresh a).map fun (a, s) => (a, e.withStore s))

/-- Changes a stored condition. -/
def updateCondition (e : Engine) (a : ConditionAtom) : Except EngineError Engine :=
  fromStore ((e.store.updateAtom e.catalog a).map e.withStore)

/-- Deletes a stored condition. -/
def deleteCondition (e : Engine) (id : String) : Except EngineError Engine :=
  fromStore ((e.store.deleteAtom id).map e.withStore)

/-- The stored conditions that come close to a condition. -/
def similarConditions (e : Engine) (a : ConditionAtom) : Except EngineError (List ConditionAtom) :=
  fromStore (e.store.similar e.catalog a)

/-! ## Filters -/

/-- Stores a new filter; `fresh` is its id if it has none. -/
def createFilter (e : Engine) (fresh : String) (f : Filter) :
    Except EngineError (Filter × Engine) :=
  fromStore ((e.store.createFilter e.maxDepth fresh f).map fun (f, s) => (f, e.withStore s))

/-- Changes a stored filter. -/
def updateFilter (e : Engine) (f : Filter) : Except EngineError Engine :=
  fromStore ((e.store.updateFilter e.maxDepth f).map e.withStore)

/-- Deletes a stored filter. -/
def deleteFilter (e : Engine) (id : String) : Except EngineError Engine :=
  fromStore ((e.store.deleteFilter e.consumers id).map e.withStore)

/-! ## Queries and verdicts -/

/-- A stored filter and the graph of everything that it reaches. -/
def load (e : Engine) (id : String) : Except EngineError (Filter × FilterGraph) :=
  match e.store.load e.maxDepth id with
  | .ok loaded => .ok loaded
  | .error (.notFound .filter _) => .error (.filterNotFound id)
  | .error cause => .error (.store cause)

/-- What a loaded filter is expanded in. -/
def context (e : Engine) (graph : FilterGraph) : FilterContext :=
  ⟨graph, e.catalog, e.settings.options, e.now⟩

/-- The query of a stored filter for the document store. -/
def storeQuery (e : Engine) (id : String) : Except EngineError Json := do
  let (f, graph) ← e.load id
  fromFilter ((e.context graph).storeQuery f)

/-- The query of a stored filter for the search backend. -/
def searchQuery (e : Engine) (id : String) (mode : MatchMode) : Except EngineError Json := do
  let (f, graph) ← e.load id
  fromFilter ((e.context graph).searchQuery f mode)

/-- Whether a document matches a filter, stored or not; without a filter, every document does. -/
def isMatch (e : Engine) (filter : Option Filter) (doc : Json) : Except EngineError Bool :=
  match filter with
  | none => .ok true
  | some f => do
    let graph ← fromStore (e.store.loadFor e.maxDepth f)
    fromFilter ((e.context graph).isMatch (some f) doc)

/-- Whether a document matches a stored filter. -/
def isStoredMatch (e : Engine) (id : String) (doc : Json) : Except EngineError Bool := do
  let (f, graph) ← e.load id
  fromFilter ((e.context graph).isMatch (some f) doc)

/-- Whether a document matches some of the filters, up to the first that it matches. -/
def matchesSome (e : Engine) (doc : Json) : List Filter → Except EngineError Bool
  | [] => .ok false
  | f :: rest => do
    if ← e.isMatch (some f) doc then return true else matchesSome e doc rest

/-- Whether a document may go out: whether it matches none of the global filters, those left out
that are switched off. -/
def conforms (e : Engine) (doc : Json) (disabled : List String) : Except EngineError Bool := do
  let blocked ← e.matchesSome doc (e.store.globalFilters.filter fun f => !disabled.contains f.id)
  return !blocked

/-- Whether some filter keeps a document from being fetched. -/
def isApiBlocked (e : Engine) (doc : Json) : Except EngineError Bool :=
  e.matchesSome doc e.store.apiBlockingFilters

/-! ## Vocabularies and consumers -/

/-- The engine after changes of the vocabularies, one after the other. -/
def applyEvents (e : Engine) (events : List VocabularyEvent) : Engine :=
  { e with catalog := events.foldl Catalog.apply e.catalog }

/-- The engine without the subscribers of a name. -/
def removeSubscriber (e : Engine) (name : String) : Engine :=
  { e with consumers := e.consumers.removeSubscriber name }

/-- The engine without the routing schemes of a name. -/
def removeRoutingScheme (e : Engine) (name : String) : Engine :=
  { e with consumers := e.consumers.removeRoutingScheme name }

end Engine
end ContentFilter
