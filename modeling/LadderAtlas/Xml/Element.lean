/-! # Elements

A parsed XML document is its tree of elements. Of the character data, the text before the first
child is kept; comments and processing instructions are not. -/

namespace LadderAtlas.Xml

/-- A name in a namespace is written with the namespace in braces before it. -/
structure Element where
  tag : String
  attributes : List (String × String) := []
  text : String := ""
  children : List Element := []
deriving Repr

namespace Element

def attribute? (e : Element) (name : String) : Option String := e.attributes.lookup name

/-- The first child with a tag. -/
def child? (e : Element) (tag : String) : Option Element := e.children.find? (·.tag = tag)

/-- The children with a tag, in document order. -/
def childrenNamed (e : Element) (tag : String) : List Element := e.children.filter (·.tag = tag)

/-- The children with tag `item` of the first child with tag `list`, if there is one. -/
def items? (e : Element) (list item : String) : Option (List Element) :=
  (e.child? list).map (·.childrenNamed item)

end Element

end LadderAtlas.Xml
