/-!
# Consumers of filters

Who outside the filters refers to them.  A product carries a filter, and a subscriber receives items
through products, pushed or fetched; a routing scheme refers to filters in its rules.  A filter that
a consumer refers to must not be deleted.
-/

namespace ContentFilter

/-- A product. -/
structure Product where
  id : String
  name : String
  /-- The filter that decides which items belong to the product. -/
  filterId : Option String
  deriving DecidableEq, Repr

/-- A subscriber. -/
structure Subscriber where
  name : String
  /-- The products that are sent to it. -/
  products : List String
  /-- The products that it fetches. -/
  apiProducts : List String
  deriving DecidableEq, Repr

/-- A rule of a routing scheme. -/
structure RoutingRule where
  name : String
  filter : Option String
  deriving DecidableEq, Repr

/-- A routing scheme. -/
structure RoutingScheme where
  name : String
  rules : List RoutingRule
  deriving DecidableEq, Repr

/-- Everyone who refers to filters. -/
structure Consumers where
  products : List Product
  subscribers : List Subscriber
  routingSchemes : List RoutingScheme
  deriving Repr, Inhabited

namespace Consumers

/-- Nobody. -/
def none : Consumers := ⟨[], [], []⟩

/-- Whether a subscriber receives some of the products with these ids. -/
def receives (s : Subscriber) (ids : List String) : Bool :=
  (s.products ++ s.apiProducts).any ids.contains

/-- The names of the subscribers that a filter decides for. -/
def subscribersOf (c : Consumers) (filterId : String) : List String :=
  let ids := (c.products.filter fun p => p.filterId == some filterId).map (·.id)
  (c.subscribers.filter fun s => receives s ids).map (·.name)

/-- The names of the routing schemes that a filter decides for. -/
def routingSchemesOf (c : Consumers) (filterId : String) : List String :=
  (c.routingSchemes.filter fun s => s.rules.any fun r => r.filter == some filterId).map (·.name)

/-- The consumers without the subscribers of a name. -/
def removeSubscriber (c : Consumers) (name : String) : Consumers :=
  { c with subscribers := c.subscribers.filter fun s => s.name != name }

/-- The consumers without the routing schemes of a name. -/
def removeRoutingScheme (c : Consumers) (name : String) : Consumers :=
  { c with routingSchemes := c.routingSchemes.filter fun s => s.name != name }

end Consumers
end ContentFilter
