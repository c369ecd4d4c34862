import XmlQuery.Json

/-!
# Sources of documents

## Main definitions

* `Source`: a text, or a URL to fetch
* `Source.ofParts`: the source given by an optional text and an optional URL
-/

namespace XmlQuery.Query

/-- Where a document comes from. -/
inductive Source
  /-- The text of the document. -/
  | inline (text : String)
  /-- The URL of the document, for HTTP with or without TLS. -/
  | url (text : String)
  deriving DecidableEq

/-- A text and a URL do not give one source. -/
inductive SourceError
  /-- Neither is given. -/
  | missing
  /-- Both are given. -/
  | ambiguous
  deriving DecidableEq

/-- The wording of the error. -/
def SourceError.message : SourceError → String
  | .missing => "exactly one of content or content_url must be set, got neither"
  | .ambiguous => "exactly one of content or content_url must be set, got both"

namespace Source

/-- The source given by a text or a URL. The empty text is as good as none. -/
def ofParts (content contentUrl : Option String) : Except SourceError Source :=
  match content.filter (· ≠ ""), contentUrl.filter (· ≠ "") with
  | some text, none => .ok (.inline text)
  | none, some text => .ok (.url text)
  | none, none => .error .missing
  | some _, some _ => .error .ambiguous

/-- A source as JSON. -/
def toJson : Source → Json
  | .inline text => .object [("inline", .string text)]
  | .url text => .object [("url", .string text)]

/-- The source that a JSON value is. -/
def ofJson? (j : Json) : Option Source :=
  match j.choice? with
  | some ("inline", some (.string text)) => some (.inline text)
  | some ("url", some (.string text)) => some (.url text)
  | _ => none

/-- A source reads back from its JSON. -/
theorem ofJson?_toJson (s : Source) : ofJson? s.toJson = some s := by
  cases s <;> rfl

end Source

end XmlQuery.Query
