import BindingDocs.Inheritance
import BindingDocs.Output.Artifact
import BindingDocs.Output.Prose
import BindingDocs.Vocabulary.Tables

/-! Reference pages: one for each class, an index of them, and the settings of the tool that renders
them. -/
namespace BindingDocs.Output.Pages
open BindingDocs.Documentation BindingDocs.Reference BindingDocs.Registration

def spell (type : String) : String := Vocabulary.pageDoc.spell type

/-- The margin of the text in a directive, and of the lines that continue one. -/
def margin : String := "      "

def deepMargin : String := "         "

/-- A line under a title, as long as the title has bytes. -/
def underline (title : String) : String := String.ofList (List.replicate title.utf8ByteSize '=')

/-- A field whose text goes on over further lines; all but the last end in a backslash. -/
def fieldLines (head : String) : List String → List String
  | [] => []
  | [line] => [head ++ line]
  | line :: rest =>
    (head ++ line ++ " \\") ::
      (rest.dropLast.map fun l => deepMargin ++ l ++ " \\") ++
      (rest.getLast?.toList.map fun l => deepMargin ++ l)

def proseLines (text : String) : List String := (pageLines text).map (margin ++ ·)

/-- The description of a parameter. A type with a blank in it has a line of its own. -/
def paramLines (doc : Comment) (p : Parameter) : List String :=
  match doc.param? p.name with
  | none => []
  | some text =>
    match pageLines text with
    | [] => []
    | lines =>
      let type := spell p.type
      if type.toList.contains ' ' then
        fieldLines (margin ++ ":param " ++ p.name ++ ": ") lines ++
          [margin ++ ":type " ++ p.name ++ ": " ++ type]
      else fieldLines (margin ++ ":param " ++ type ++ " " ++ p.name ++ ": ") lines

def directive (kind text : String) : List String := ["", "   .. " ++ kind ++ ":: " ++ text, ""]

def constructorLines (className : String) (k : Option Constructor) : List String :=
  let params := match k with
    | some k => inputs k.params
    | none => []
  let doc := k.bind (·.doc)
  let about := match doc.bind Comment.summary? with
    | some summary => proseLines summary
    | none => [margin ++ className ++ " constructor"]
  let described := match doc with
    | some doc => params.flatMap (paramLines doc)
    | none => []
  directive "py:method" (className ++ "(" ++ Text.joinWith ", " (params.map (·.name)) ++ ")") ++
    about ++ [""] ++ described

def attributeLines (s : Surface) (className name : String) : List String :=
  let about := match s.property? className name with
    | some p => match p.doc.bind Comment.summary? with
      | some summary => match pageLines summary with
        | [] => []
        | line :: rest => (margin ++ spell p.type ++ ": " ++ line) :: rest.map (margin ++ ·)
      | none => []
    | none => []
  directive "py:attribute" name ++ about

/-- The inputs of a method with their descriptions, if as many are described as are bound. -/
def describedInputs (bound : BoundMethod) (m : Method) (doc : Comment) : List String :=
  let params := (inputs m.params).filter fun p => (doc.param? p.name).isSome
  if !params.isEmpty && params.length == bound.args.length then
    [""] ++ params.flatMap (paramLines doc)
  else []

def documentedMethod (bound : BoundMethod) (m : Method) : List String :=
  let about := match m.doc.bind Comment.summary? with
    | some summary => proseLines summary
    | none => []
  let described := match m.doc with
    | some doc => describedInputs bound m doc
    | none => []
  let returns := match m.doc.bind Comment.returns? with
    | some text => fieldLines (margin ++ ":return: ") (pageLines text)
    | none => []
  about ++ described ++ [""] ++ returns ++ [margin ++ ":rtype: " ++ spell m.returns]

def methodLines (s : Surface) (className : String) (bound : BoundMethod) : List String :=
  let kind := if bound.isStatic then "py:staticmethod" else "py:method"
  directive kind (bound.name ++ "(" ++ Text.joinWith ", " bound.args ++ ")") ++
    match s.method? .python className bound with
    | some m => documentedMethod bound m
    | none => [margin ++ "[todo] add documentation"]

def pageHeader (moduleName className : String) : List String :=
  [className, underline className, "", ".. py:module:: " ++ moduleName, "",
    ".. py:class:: " ++ className]

def page (s : Surface) (o : Options) (c : BoundClass) : List String :=
  pageHeader o.moduleName c.name ++
    (s.constructors c).flatMap (fun k => constructorLines c.name k.2) ++
    c.properties.flatMap (attributeLines s c.name) ++
    c.methods.flatMap (methodLines s c.name)

def index (s : Surface) (o : Options) : List String :=
  let title := "Welcome to " ++ o.moduleName ++ "'s documentation!"
  [".. " ++ o.moduleName ++ " documentation master file, created by",
    "   sphinx-quickstart.",
    "   You can adapt this file completely to your liking, but it should at least",
    "   contain the root \x60toctree\x60 directive.", "", title, underline title, "",
    ".. toctree::", "   :maxdepth: 2", "   :caption: Contents:", ""] ++
    (s.bindings.classes .python).map (fun c => "   " ++ c.name) ++
    ["", "", "Indices and tables", "==================", "", "* :ref:\x60genindex\x60",
      "* :ref:\x60modindex\x60", "* :ref:\x60search\x60"]

/-- The settings, with places for the name of the module and its version. -/
def settingsTemplate : List String :=
  ["# Configuration file for the Sphinx documentation builder.",
   "#",
   "# This file only contains a selection of the most common options. For a full",
   "# list see the documentation:",
   "# https://www.sphinx-doc.org/en/master/usage/configuration.html",
   "",
   "# -- Project information -----------------------------------------------------",
   "",
   "project = '\x7bMODULE\x7d'",
   "copyright = 'Robert McNeel & Associates'",
   "author = 'Robert McNeel & Associates'",
   "",
   "# The short X.Y version",
   "version = '\x7bVERSION\x7d'",
   "# The full version, including alpha/beta/rc tags",
   "release = '\x7bVERSION\x7d'",
   "",
   "",
   "# -- General configuration ---------------------------------------------------",
   "",
   "extensions = [",
   "    'sphinx.ext.autodoc',",
   "    'sphinx.ext.napoleon',",
   "]",
   "",
   "templates_path = ['_templates']",
   "",
   "source_suffix = '.rst'",
   "",
   "master_doc = 'index'",
   "",
   "exclude_patterns = ['_build', 'Thumbs.db', '.DS_Store']",
   "",
   "pygments_style = 'sphinx'",
   "",
   "",
   "# -- Options for HTML output -------------------------------------------------",
   "",
   "html_theme = 'alabaster'",
   "",
   "html_static_path = []",
   "",
   "htmlhelp_basename = '\x7bMODULE\x7ddoc'"]

/-- The settings with the module name and then the version filled in. -/
def settings (o : Options) : String :=
  let fill (mark value : String) (s : List Char) : List Char :=
    Text.replaceAll mark.toList value.toList s
  String.ofList (fill "\x7bVERSION\x7d" o.version
    (fill "\x7bMODULE\x7d" o.moduleName (unlines settingsTemplate).toList))

def artifacts (s : Surface) (o : Options) : List Artifact :=
  [⟨"python/rst/conf.py", settings o⟩] ++
    (Inheritance.basesFirst (s.bindings.classes .python)).map (fun c =>
      ⟨"python/rst/" ++ c.name ++ ".rst", unlines (page s o c)⟩) ++
    [⟨"python/rst/index.rst", unlines (index s o)⟩]

end BindingDocs.Output.Pages
