import Medallion.Error
import Medallion.Schema

/-!
# Questions to collaborators

A run asks collaborators for what is not in the specification: a resolver for the schemas
of source tables, a secret store for connection strings, a database for columns.  A
`Consult α` is an answer together with the questions that were asked on the way, in their
order, so that a statement can say what was asked as well as what came of it.
-/

namespace Medallion

/-- A question to a collaborator. -/
inductive Call where
  | resolve (domain : String) (tier : Tier) (table : String)
  | secret (vault name : String)
  | introspect (connection table : String)
  deriving DecidableEq, Repr

/-- An answer, and the questions that were asked for it. -/
structure Consult (α : Type) where
  calls : List Call
  answer : Except MapError α

namespace Consult

/-- An answer without a question. -/
def ofExcept {α : Type} (answer : Except MapError α) : Consult α := ⟨[], answer⟩

/-- Notes a question. -/
def ask (call : Call) : Consult Unit := ⟨[call], .ok ()⟩

instance : Monad Consult where
  pure a := ⟨[], .ok a⟩
  bind x f :=
    match x.answer with
    | .ok a => ⟨x.calls ++ (f a).calls, (f a).answer⟩
    | .error e => ⟨x.calls, .error e⟩

theorem ok_bind {α β : Type} (calls : List Call) (a : α) (f : α → Consult β) :
    (⟨calls, .ok a⟩ : Consult α) >>= f = ⟨calls ++ (f a).calls, (f a).answer⟩ := rfl

theorem error_bind {α β : Type} (calls : List Call) (e : MapError) (f : α → Consult β) :
    (⟨calls, .error e⟩ : Consult α) >>= f = ⟨calls, .error e⟩ := rfl

end Consult

/-- Who knows the schemas of source tables: for a domain, the tier to be fed, and a
table. -/
abbrev Resolver := String → Tier → String → Consult SourceSchema

/-- Asks a resolver. -/
def Resolver.ask (resolver : Resolver) (domain : String) (tier : Tier) (table : String) :
    Consult SourceSchema := do
  Consult.ask (.resolve domain tier table)
  resolver domain tier table

end Medallion
