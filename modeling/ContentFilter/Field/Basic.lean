import ContentFilter.Html.Write
import ContentFilter.Instant
import ContentFilter.Json.Path
import ContentFilter.Operator.Clause
import ContentFilter.Operator.Holds

/-!
# Fields

A field says how a value is read from a document and under which path the backends know it.  Most
fields are a path.  The text of some is HTML, of which the plain text is read.  Two are computed:
whether a document is under embargo, and whether it has a feature picture.  A field that comes from
a vocabulary reads the codes of one scheme among the document's subjects.

Computed fields are always present; any other is present when its path leads to a value.
-/

namespace ContentFilter

/-- How a field is read. -/
inductive FieldKind where
  | path
  | html
  | embargo
  | featureMedia
  | vocabulary (scheme : String)
  deriving DecidableEq, Repr, Inhabited

/-- Whether the value is worked out rather than stored. -/
def FieldKind.isComputed : FieldKind → Bool
  | .embargo | .featureMedia => true
  | _ => false

/-- A field of documents. -/
structure Field where
  name : String
  kind : FieldKind
  path : String
  type : ValueType
  deriving DecidableEq, Repr, Inhabited

namespace Field

/-! ## Reading a document -/

/-- The member that says until when a document is withheld. -/
def embargoPath : String := "embargo"

/-- The path of the feature picture. -/
def featureMediaPath : String := "associations.featuremedia"

/-- The member that lists the subjects. -/
def subjects : String := "subject"

/-- The path of the codes of the subjects. -/
def subjectCodes : String := "subject.qcode"

/-- What the path leads to. -/
def lookup (doc : Json) (path : String) : Option FieldValue :=
  match Json.follow (Text.pieces '.' path) [doc] false with
  | none => none
  | some (values, true) => some (.many values)
  | some (values, false) => values.head?.map .single

/-- The plain text of a text in HTML; any other value as it is. -/
def reduceHtml : Json → Json
  | .string s => .string (Html.plainText s)
  | v => v

/-- Whether a document is withheld at a moment.  What is no date withholds nothing. -/
def isEmbargoed (doc : Json) (now : Instant) : Bool :=
  match ((doc.member? embargoPath).bind Json.string?).bind Instant.parse? with
  | some t => now.isBefore t
  | none => false

/-- Whether a document has a feature picture. -/
def hasFeatureMedia (doc : Json) : Bool :=
  match (doc.member? "associations").bind (Json.member? "featuremedia") with
  | some v => !v.isNull
  | none => false

/-- The codes of the subjects of one scheme. -/
def schemeCodes (doc : Json) (scheme : String) : List Json :=
  match (doc.member? subjects).bind Json.array? with
  | none => []
  | some entries =>
    (entries.filter fun e => (e.member? "scheme").bind Json.string? == some scheme).filterMap
      (Json.member? "qcode")

/-- Whether a document has the field. -/
def isPresent (f : Field) (doc : Json) : Bool :=
  match f.kind with
  | .path | .html => (lookup doc f.path).isSome
  | .embargo | .featureMedia => true
  | .vocabulary scheme => !(schemeCodes doc scheme).isEmpty

/-- What a document says in the field. -/
def extract (f : Field) (doc : Json) (now : Instant) : Option FieldValue :=
  match f.kind with
  | .path => lookup doc f.path
  | .html =>
    (lookup doc f.path).map fun
      | .single v => .single (reduceHtml v)
      | .many vs => .many (vs.map reduceHtml)
  | .embargo => some (.single (.bool (isEmbargoed doc now)))
  | .featureMedia => some (.single (.bool (hasFeatureMedia doc)))
  | .vocabulary scheme =>
    match schemeCodes doc scheme with
    | [] => none
    | codes => some (.many codes)

/-! ## Clauses of its own -/

/-- Whether a condition on a computed field asks for the value to be true. -/
def wantsTrue (op : Operator) (l : Literal) : Bool :=
  if op = .ne then !l.isTrue else l.isTrue

/-- The clause for the document store, of fields that are not a plain path. -/
def storeClause? (f : Field) (op : Operator) (l : Literal) (now : Instant) : Option Json :=
  match f.kind with
  | .path | .html => none
  | .embargo =>
    let date := Json.object [("$date", .string now.text)]
    let at_ (v : Json) := Json.object [(embargoPath, v)]
    if wantsTrue op l then some (at_ (.object [("$gt", date)]))
    else some (.object [("$or", .array [at_ .null, at_ (.object [("$lte", date)])])])
  | .featureMedia =>
    let wanted := if wantsTrue op l then Json.object [("$ne", .null)] else .null
    some (.object [(featureMediaPath, wanted)])
  | .vocabulary scheme =>
    let inner :=
      if op.positive.family = .pattern then l.storeValue
      else .object [(op.positive.storeToken, l.storeValue)]
    let entry := Json.object
      [("$elemMatch", .object [("qcode", inner), ("scheme", .string scheme)])]
    some (.object [(subjects, if op.isNegating then .object [("$not", entry)] else entry)])

/-- A clause, or the clause that it does not hold. -/
def positiveOrInverted (positive : Bool) (clause : Json) : Json :=
  if positive then clause else .object [("bool", .object [("must_not", .array [clause])])]

/-- The clause for the search backend, of fields that are not a plain path.  It is the positive one,
as for any field. -/
def searchClause? (f : Field) (op : Operator) (l : Literal) : Option Json :=
  match f.kind with
  | .path | .html => none
  | .embargo =>
    some (positiveOrInverted l.isTrue
      (.object [("range", .object [(embargoPath, .object [("gt", .string "now")])])]))
  | .featureMedia =>
    some (positiveOrInverted l.isTrue
      (.object [("exists", .object [("field", .string featureMediaPath)])]))
  | .vocabulary scheme =>
    let codes := op.positive.searchClauseOf subjectCodes (l.searchValue subjectCodes)
    let inScheme := Json.object [("term", .object [("subject.scheme", .string scheme)])]
    some (.object [("bool", .object [("must", .array [inScheme, codes])])])

end Field
end ContentFilter
