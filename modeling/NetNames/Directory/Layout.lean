import NetNames.Directory.Basic

/-!
Where service entries stand in a directory and what they look like.
-/
namespace NetNames

structure Schema where
  objectClass : String := "orclNetService"
  nameAttribute : String := "cn"
  descriptorAttribute : String := "orclNetDescString"
  aliasAttribute : String := "aliasedObjectName"
deriving DecidableEq, Repr

structure Layout where
  container : String
  schema : Schema
deriving DecidableEq, Repr

namespace Layout

/-- The name under which a service is added. -/
def entryDn (l : Layout) (name : String) : String :=
  l.schema.nameAttribute ++ "=" ++ Dn.escape name ++ "," ++ l.container

/-- Asks for every service entry directly below the container. -/
def search (l : Layout) : SearchRequest where
  base := l.container
  filter := "(objectClass=" ++ Dn.filterEscape l.schema.objectClass ++ ")"
  attributes := [l.schema.nameAttribute, l.schema.descriptorAttribute, l.schema.aliasAttribute]
  scope := .oneLevel
  deref := .never

def newAttributes (l : Layout) (name description : String) : Attributes :=
  [("objectClass", ["top", l.schema.objectClass]), (l.schema.nameAttribute, [name]),
    (l.schema.descriptorAttribute, [description])]

end Layout
end NetNames
