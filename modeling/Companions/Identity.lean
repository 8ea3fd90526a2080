import Companions.Handle
set_option autoImplicit false

/-!
# Identities

What a declaration is called and where it lives.  Overloads share an identity: the signature is no
part of it.
-/

namespace Companions

/-- A class: its package and its simple name. -/
structure ClassId where
  package : Name
  name : Name
  deriving DecidableEq, Repr, Inhabited

/-- A callable: its package, its owning class unless it is top-level, and its name. -/
structure CallableId where
  package : Name
  owner : Option ClassId
  name : Name
  deriving DecidableEq, Repr, Inhabited

namespace CallableId

/-- A callable that no class owns. -/
def topLevel (package name : Name) : CallableId := ⟨package, none, name⟩

/-- A callable of a class lives in the package of that class. -/
def member (owner : ClassId) (name : Name) : CallableId := ⟨owner.package, some owner, name⟩

/-- The same place under another name. -/
def withName (id : CallableId) (name : Name) : CallableId := { id with name }

/-- The callable is no member of a class. -/
def isTopLevel (id : CallableId) : Bool := id.owner.isNone

@[simp] theorem isTopLevel_topLevel (package name : Name) :
    (topLevel package name).isTopLevel = true := rfl

@[simp] theorem isTopLevel_member (owner : ClassId) (name : Name) :
    (member owner name).isTopLevel = false := rfl

@[simp] theorem withName_owner (id : CallableId) (name : Name) :
    (id.withName name).owner = id.owner := rfl

@[simp] theorem withName_package (id : CallableId) (name : Name) :
    (id.withName name).package = id.package := rfl

@[simp] theorem withName_name (id : CallableId) (name : Name) : (id.withName name).name = name :=
  rfl

end CallableId

end Companions
