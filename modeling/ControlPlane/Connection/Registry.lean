/-
The registry of connections.

For each conversation the registry names the connection that holds it, if there is
one. A connection that comes in takes the place of the one before, which is then
to be closed; a connection that goes gives its place up only if it still holds it.
Connections are named by keys.
-/

set_option autoImplicit false

namespace ControlPlane

/-- The key of a connection. -/
abbrev ConnectionKey := Nat

/-- Which connection holds which conversation. -/
structure Registry where
  /-- The conversations and the connections that hold them; no conversation is
  there twice. -/
  holders : List (Int × ConnectionKey)
deriving DecidableEq, Repr

namespace Registry

/-- The registry that names nobody. -/
def empty : Registry := ⟨[]⟩

instance : Inhabited Registry := ⟨empty⟩

/-- The connection that holds a conversation. -/
def holder? (r : Registry) (conversation : Int) : Option ConnectionKey :=
  (r.holders.find? (·.1 == conversation)).map (·.2)

/-- Lets a conversation go, whoever holds it. -/
def without (r : Registry) (conversation : Int) : Registry :=
  ⟨r.holders.filter (·.1 != conversation)⟩

/-- Makes a connection the holder of a conversation; the one before is answered. -/
def install (r : Registry) (conversation : Int) (key : ConnectionKey) :
    Option ConnectionKey × Registry :=
  (r.holder? conversation, ⟨(conversation, key) :: (r.without conversation).holders⟩)

/-- Lets a conversation go if a given connection holds it; whether it did is
answered. -/
def retire (r : Registry) (conversation : Int) (key : ConnectionKey) : Bool × Registry :=
  if r.holder? conversation = some key then (true, r.without conversation) else (false, r)

/-- How many conversations are held. -/
def size (r : Registry) : Nat := r.holders.length

/-- The connections that hold a conversation. -/
def keys (r : Registry) : List ConnectionKey := r.holders.map (·.2)

end Registry

end ControlPlane
