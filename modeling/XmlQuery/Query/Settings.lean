import XmlQuery.Json

/-!
# Settings

Every setting has a default, so that the empty object is complete.

## Main definitions

* `FetchSettings`: how documents are fetched
* `Settings`: the settings of an engine
-/

namespace XmlQuery.Query

/-- How documents are fetched. -/
structure FetchSettings where
  /-- The time for a whole request, in seconds. -/
  timeoutSeconds : Nat := 30
  /-- The time for a connection, in seconds. -/
  connectTimeoutSeconds : Nat := 10
  /-- The name under which requests are made. -/
  userAgent : String := "nsxpath/0.1.0"
  /-- The size of the largest document that is accepted, in bytes. -/
  maxBodyBytes : Nat := 16777216
  deriving DecidableEq

/-- The settings of an engine. -/
structure Settings where
  /-- How documents are fetched. -/
  fetch : FetchSettings := {}
  /-- How many compiled expressions are kept; none if zero. -/
  cacheCapacity : Nat := 128
  deriving DecidableEq

namespace FetchSettings

/-- The names of the fields in JSON. -/
def fieldNames : List String :=
  ["timeout_secs", "connect_timeout_secs", "user_agent", "max_body_bytes"]

/-- The settings as JSON. -/
def toJson (s : FetchSettings) : Json :=
  .object (fieldNames.zip [.integer s.timeoutSeconds, .integer s.connectTimeoutSeconds,
    .string s.userAgent, .integer s.maxBodyBytes])

/-- The settings that a JSON value gives. -/
def ofJson? (j : Json) : Option FetchSettings := do
  let standard : FetchSettings := {}
  let [timeout, connectTimeout, userAgent, maxBody] ← j.fields? fieldNames | none
  return ⟨← Json.optional Json.natural? standard.timeoutSeconds timeout,
    ← Json.optional Json.natural? standard.connectTimeoutSeconds connectTimeout,
    ← Json.optional Json.string? standard.userAgent userAgent,
    ← Json.optional Json.natural? standard.maxBodyBytes maxBody⟩

end FetchSettings

namespace Settings

/-- The names of the fields in JSON. -/
def fieldNames : List String := ["loader", "cache_capacity"]

/-- The settings as JSON. -/
def toJson (s : Settings) : Json :=
  .object (fieldNames.zip [s.fetch.toJson, .integer s.cacheCapacity])

/-- The settings that a JSON value gives. -/
def ofJson? (j : Json) : Option Settings := do
  let standard : Settings := {}
  let [fetch, cacheCapacity] ← j.fields? fieldNames | none
  return ⟨← Json.optional FetchSettings.ofJson? standard.fetch fetch,
    ← Json.optional Json.natural? standard.cacheCapacity cacheCapacity⟩

end Settings

end XmlQuery.Query
