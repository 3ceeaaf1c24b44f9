import Mdx.Module.Binding
import Mdx.Module.Expr

/-!
# Module texts

The text of the module generated for a document: its imports, the document's own statements, its
metadata, the look-ups of components, and the functions that build the tree.
-/

namespace Mdx.Module

/-- What a generated module imports, and the prefix of built-in tags. -/
structure Options where
  componentLibrary : String := "@natmdx/runtime"
  jsxImportSource : String := "react"
  tagPrefix : String := Tag.defaultPrefix
  deriving DecidableEq, Repr

/-- The imports at the head of a module. -/
def importLines (options : Options) : List String :=
  [ "import \x7buseMDXComponents\x7d from " ++ Json.quoted options.componentLibrary ++ ";",
    "import \x7bFragment as _Fragment, jsx as _jsx, jsxs as _jsxs\x7d from "
      ++ Json.quoted (options.jsxImportSource ++ "/jsx-runtime") ++ ";" ]

/-- The metadata of the document. -/
def frontmatterLine (frontmatter : Option (Dict Json)) : String :=
  "export const frontmatter = "
    ++ (match frontmatter with
      | some map => (Json.obj map).text
      | none => "undefined")
    ++ ";"

/-- The look-ups of components. -/
def lookupLines : List String :=
  [ "function _builtinComponent(components, name) \x7b",
    "  const component = components[name];",
    "  if (component === undefined) \x7b",
    "    throw new Error(\"No MDX component found for key: \" + JSON.stringify(name) + \". "
      ++ "Define it using the React provider: <MDXComponents components=\x7b\x7b \" + name + "
      ++ "\": ... \x7d\x7d />\");",
    "  \x7d",
    "  return component;",
    "\x7d",
    "function _customComponent(components, name) \x7b",
    "  const component = components[name];",
    "  if (component !== undefined) return component;",
    "  return function MissingComponent(props) \x7b",
    "    console.warn(\"Component \" + name + \" was not imported, exported, or provided by "
      ++ "MDXProvider as global scope\");",
    "    return _jsx(_builtinComponent(components, \"span\"), props);",
    "  \x7d;",
    "\x7d" ]

/-- The function that builds the tree. -/
def contentLines (tree : Expr) : List String :=
  [ "function _createMdxContent(props) \x7b",
    "  const components = \x7b...useMDXComponents(), ...props.components\x7d;",
    "  return " ++ String.ofList tree.chars ++ ";",
    "\x7d" ]

/-- The default export, around the layout if there is one. -/
def exportLines (hasLayout : Bool) : List String :=
  [ "export default function MDXContent(props = \x7b\x7d) \x7b" ]
    ++ (if hasLayout then
      [ "  return _jsx(" ++ layoutName
          ++ ", \x7b...props, children: _jsx(_createMdxContent, \x7b...props\x7d)\x7d);" ]
    else
      [ "  const Wrapper = \x7b...useMDXComponents(), ...props.components\x7d.Wrapper;",
        "  return Wrapper ? _jsx(Wrapper, \x7b...props, children: _jsx(_createMdxContent, "
          ++ "\x7b...props\x7d)\x7d) : _createMdxContent(props);" ])
    ++ [ "\x7d" ]

/-- The expression of a document, given its host blocks. -/
def expression (mark : String) (root : Element) (blocks : List (List Char)) : Expr :=
  ofTree mark (boundNames blocks) false .alone root.toTree

/-- The text of the module of a document. -/
def text (options : Options) (root : Element) (frontmatter : Option (Dict Json))
    (esm : List String) : String :=
  let (hasLayout, blocks) := bindLayouts false (esm.map String.toList)
  let lines :=
    importLines options
      ++ blocks.map String.ofList
      ++ [frontmatterLine frontmatter]
      ++ lookupLines
      ++ contentLines (expression options.tagPrefix root blocks)
      ++ exportLines hasLayout
  String.join (lines.map (· ++ "\n"))

end Mdx.Module
