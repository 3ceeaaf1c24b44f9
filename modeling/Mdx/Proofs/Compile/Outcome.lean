import Mdx.Compile.Compiler
import Mdx.Proofs.Run

/-!
# The outcome of compiling

What compiling gives where no step fails: the tree after all passes, and its wire document.
-/

namespace Mdx

namespace Compiler

open Markdown (Node)

variable {c : Compiler} {source path : String} {parsed document : Node}
  {frontmatter : Option (Dict Json)}

theorem exec_note (lines log : List Log) :
    exec (CompileM.note lines) log = (.ok (), log ++ lines) := rfl

/-- Where no step fails, compiling gives the tree after all passes. -/
theorem exec_compile (hread : c.read source path = .ok parsed)
    (hpasses : runDocumentPasses path c.documentPasses parsed = .ok document)
    (hresult : (Frontmatter.extract document).result = .ok frontmatter)
    (hrun : (c.pipeline.run (convert (Frontmatter.extract document).document).root).failure = none)
    (log : List Log) :
    exec (c.compile source path) log
      = (.ok
          { root := (c.pipeline.run (convert (Frontmatter.extract document).document).root).root
            frontmatter := frontmatter
            esm := (convert (Frontmatter.extract document).document).esm
            path := path },
        log ++ (Frontmatter.extract document).log
          ++ (convert (Frontmatter.extract document).document).log
          ++ (c.pipeline.run (convert (Frontmatter.extract document).document).root).log) := by
  rw [compile, hread, exec_bind_of_ok (exec_lift parsed log), hpasses,
    exec_bind_of_ok (exec_lift document log), exec_bind_of_ok (exec_note _ log)]
  simp only [hresult]
  rw [exec_bind_of_ok (exec_note _ _), exec_bind_of_ok (exec_note _ _)]
  simp only [Pipeline.Run.error, hrun]
  rfl

/-- Where no step fails, a document is compiled to the wire document of that tree. -/
theorem outcome_compileWire (hread : c.read source path = .ok parsed)
    (hpasses : runDocumentPasses path c.documentPasses parsed = .ok document)
    (hresult : (Frontmatter.extract document).result = .ok frontmatter)
    (hrun : (c.pipeline.run (convert (Frontmatter.extract document).document).root).failure
      = none) :
    (c.compileWire source path).outcome.1
      = .ok (Wire.lower (fun _ => none) c.config.tagPrefix
          (c.pipeline.run (convert (Frontmatter.extract document).document).root).root
          frontmatter).document := by
  have hcompile := exec_compile hread hpasses hresult hrun []
  show (exec (c.compileWire source path) []).1 = _
  rw [compileWire, compileWireWith, bind_assoc, exec_bind_of_ok hcompile]
  rfl

/-- The compiler with the default settings and the given document passes. -/
def default (passes : List DocumentPass) : Compiler :=
  { Compiler.ofConfig {} with documentPasses := passes }

end Compiler

end Mdx
