import Mdx.Frontmatter
import Mdx.Markdown.Options
import Mdx.Pass.Basic

/-!
# Compile errors

Why a document could not be compiled, with the errors underneath.
-/

namespace Mdx

/-- A place in a file. -/
structure Location where
  file : Option String := none
  line : Nat
  column : Nat
  deriving DecidableEq, Repr

namespace Location

/-- The same place in a file; an empty name changes nothing. -/
def inFile (l : Location) (file : String) : Location :=
  if file.isEmpty then l else { l with file := some file }

/-- The location as text. -/
def text (l : Location) : String :=
  (match l.file with
    | some file => file ++ ":"
    | none => "")
    ++ toString l.line ++ ":" ++ toString l.column

/-- The place of a fault. -/
def ofPoint (p : Markdown.Point) : Location :=
  { line := p.line, column := p.column }

end Location

/-- Why a document could not be compiled. -/
inductive CompileError where
  | parse (reason : String) (location : Location)
  | frontmatter (path : String) (cause : Frontmatter.Error)
  | pass (name path : String) (cause : PassError)
  /-- A file handed over by a bundler. -/
  | transform (filename : String) (cause : CompileError)
  /-- A document compiled on its own. -/
  | remote (cause : CompileError)
  deriving DecidableEq, Repr

namespace CompileError

def message : CompileError → String
  | .parse reason location => "Parse error at " ++ location.text ++ ": " ++ reason
  | .frontmatter path _ => "Frontmatter error in " ++ path
  | .pass name path _ => "Pass \x60" ++ name ++ "\x60 failed for " ++ path
  | .transform filename _ => "Failed to process MDX for " ++ filename
  | .remote cause => "Failed to compile remote MDX: " ++ cause.message

/-- The messages of the errors underneath, outermost first. -/
def causes : CompileError → List String
  | .parse _ _ => []
  | .frontmatter _ cause => [cause.message]
  | .pass _ _ cause => [cause.message]
  | .transform _ cause => cause.message :: cause.causes
  | .remote cause => cause.message :: cause.causes

/-- The message of the innermost error. -/
def rootCause (e : CompileError) : String :=
  e.causes.getLast?.getD e.message

end CompileError

end Mdx
