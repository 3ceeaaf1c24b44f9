import Mdx.Html.Component

/-!
# Scopes

Components and styles can be set for a part of a document. Scopes nest: what an inner scope does
not set is taken from the scope around it.
-/

namespace Mdx.Html

/-- The components of two scopes, those of the inner one first. -/
def mergeComponents (outer inner : Dict Component) : Dict Component :=
  outer.union inner

/-- Nested scopes of components: the outermost, which is never left, and those inside it, innermost
first. -/
structure ComponentScopes where
  base : Dict Component := defaultComponents
  inner : List (Dict Component) := []

namespace ComponentScopes

/-- Enters a scope. -/
def push (s : ComponentScopes) (scope : Dict Component) : ComponentScopes :=
  { s with inner := scope :: s.inner }

/-- Leaves the innermost scope. -/
def pop (s : ComponentScopes) : Option (Dict Component) × ComponentScopes :=
  match s.inner with
  | [] => (none, s)
  | scope :: rest => (some scope, { s with inner := rest })

/-- All scopes, innermost first. -/
def scopes (s : ComponentScopes) : List (Dict Component) :=
  s.inner ++ [s.base]

/-- The component of a name in the innermost scope that has it. -/
def resolve? (s : ComponentScopes) (name : String) : Option Component :=
  s.scopes.findSome? fun scope => scope.get? name

/-- The components of all scopes. -/
def merged (s : ComponentScopes) : Dict Component :=
  s.scopes.reverse.foldl mergeComponents []

end ComponentScopes

/-! ## Styles -/

/-- One style over another: two objects are joined, anything else is replaced. -/
def overlay (outer : Option Json) (inner : Json) : Json :=
  match outer, inner with
  | some (.obj parent), .obj child => .obj (Dict.union parent child)
  | _, inner => inner

/-- The styles of two scopes, key by key. -/
def mergeStyles (outer inner : Dict Json) : Dict Json :=
  inner.foldl (fun merged (key, value) => merged.insert key (overlay (merged.get? key) value)) outer

/-- Nested scopes of styles, innermost first. -/
structure StyleScopes where
  scopes : List (Dict Json) := []

namespace StyleScopes

/-- Enters a scope. -/
def push (s : StyleScopes) (scope : Dict Json) : StyleScopes :=
  ⟨scope :: s.scopes⟩

/-- Leaves the innermost scope. -/
def pop (s : StyleScopes) : Option (Dict Json) × StyleScopes :=
  match s.scopes with
  | [] => (none, s)
  | scope :: rest => (some scope, ⟨rest⟩)

/-- The styles of all scopes. -/
def merged (s : StyleScopes) : Dict Json :=
  s.scopes.reverse.foldl mergeStyles []

end StyleScopes

end Mdx.Html
