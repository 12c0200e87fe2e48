/-!
Identities. Everything that someone may hold on to carries one: the parts of a tree that can be
edited, and the types and expressions, which cannot. One object may sit in several places; all
that carry one identity are the same object.
-/
namespace CWriter

abbrev Id := Nat

end CWriter
