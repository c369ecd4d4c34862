import XmlQuery.Query.Source
import XmlQuery.Encoding.Utf8
import XmlQuery.Url.Scheme

/-!
# Loading documents

A text is its own document. The document at a URL is fetched, after the scheme of the URL has been
looked at. Finding the scheme and fetching are left to functions that a loader is given.

## Main definitions

* `LoadError`: why a document cannot be loaded
* `Loader`: what finds the scheme of a URL, and what fetches the document there
* `Source.load`: the bytes of a document
-/

namespace XmlQuery.Query

/-- Why a document cannot be loaded. -/
inductive LoadError
  /-- The text is not a URL. -/
  | invalidUrl (url reason : String)
  /-- The URL is not one for HTTP. -/
  | unsupportedScheme (scheme : String)
  /-- The request has failed. -/
  | failed (reason : String)
  deriving DecidableEq

/-- The wording of the error. -/
def LoadError.message : LoadError → String
  | .invalidUrl url reason => "invalid URL '" ++ url ++ "': " ++ reason
  | .unsupportedScheme scheme => "unsupported URL scheme '" ++ scheme ++ "'"
  | .failed reason => reason

/-- What documents are loaded with. -/
structure Loader where
  /-- The scheme of a URL, or why a text is not one. -/
  scheme : String → Except String String
  /-- The document at a URL, or why there is none. -/
  fetch : String → Except String (List UInt8)

/-- The loader that reads URLs itself. -/
def Loader.ofFetch (fetch : String → Except String (List UInt8)) : Loader where
  scheme text := (Url.scheme text).mapError (·.message)
  fetch := fetch

/-- The bytes of a document. -/
def Source.load (loader : Loader) : Source → Except LoadError (List UInt8)
  | .inline text => .ok (Utf8.encode text.toList)
  | .url text =>
    match loader.scheme text with
    | .error reason => .error (.invalidUrl text reason)
    | .ok scheme =>
      if scheme = "http" ∨ scheme = "https" then (loader.fetch text).mapError .failed
      else .error (.unsupportedScheme scheme)

end XmlQuery.Query
