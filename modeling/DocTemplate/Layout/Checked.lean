import DocTemplate.Layout.Problem

/-!
# Checked readings

Reading a part of a layout gives a value or problems. Parts are read independently of one another,
so that the problems of all of them are found, in the order in which the parts are read.
-/

namespace DocTemplate

/-- A value that was read, or the problems that were found. -/
inductive Checked (α : Type) where
  | accepted (a : α)
  | rejected (first : Problem) (rest : List Problem)

namespace Checked

variable {α β : Type}

def problems : Checked α → List Problem
  | accepted _ => []
  | rejected p ps => p :: ps

/-- One problem. -/
def reject (reason : Reason) : Checked α := rejected ⟨[], reason⟩ []

/-- A function and its argument, read one after the other; all problems are kept. -/
def apply (f : Checked (α → β)) (a : Checked α) : Checked β :=
  match f, a with
  | accepted f, accepted a => accepted (f a)
  | accepted _, rejected p ps => rejected p ps
  | rejected p ps, accepted _ => rejected p ps
  | rejected p ps, rejected q qs => rejected p (ps ++ q :: qs)

instance : Applicative Checked where
  pure := accepted
  seq f a := apply f (a ())

/-- A reading inside a part that a name or index leads to. -/
def inside (name : String) : Checked α → Checked α
  | accepted a => accepted a
  | rejected p ps =>
    let down (p : Problem) : Problem := { p with path := name :: p.path }
    rejected (down p) (ps.map down)

/-- A reading that may be followed by one more test of the value. -/
def andThen (a : Checked α) (f : α → Checked β) : Checked β :=
  match a with
  | accepted a => f a
  | rejected p ps => rejected p ps

/-- A list of readings, numbered from an index on. -/
def itemsFrom (index : Nat) : List (Checked α) → Checked (List α)
  | [] => accepted []
  | r :: rs => List.cons <$> r.inside (toString index) <*> itemsFrom (index + 1) rs

end Checked

end DocTemplate
