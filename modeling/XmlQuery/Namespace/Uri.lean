/-!
# Reserved namespaces

## Main definitions

* `xmlUri`: the namespace of the prefix `xml`
* `xmlnsUri`: the namespace of namespace declarations
-/

namespace XmlQuery.Namespace

/-- The namespace that the prefix `xml` is bound to. -/
def xmlUri : String := "http://www.w3.org/XML/1998/namespace"

/-- The namespace that the attributes `xmlns` and `xmlns:p` belong to. -/
def xmlnsUri : String := "http://www.w3.org/2000/xmlns/"

end XmlQuery.Namespace
