import MarkdownPager.Grammar.Diff
import MarkdownPager.Grammar.Json
import MarkdownPager.Grammar.Properties

/-!
# Catalog of languages

The languages that a fence can name, each with the file extensions it goes by.  A fence names a
language by its first word up to a comma, without regard to ASCII case: by an extension, or else
by the full name.  Of several languages that fit, the last one in the catalog is meant.

Only some of the languages come with a grammar of their own; text in the others is not taken
apart.
-/

namespace MarkdownPager.Catalog

/-- The languages with their extensions, in catalog order. -/
def table : String := "
Plain Text: txt
ASP: asa
HTML (ASP): asp
ActionScript: as
AppleScript: applescript | script editor
Batch File: bat | cmd
NAnt Build File: build
C#: cs | csx
C++: cpp | cc | cp | cxx | c++ | C | h | hh | hpp | hxx | h++ | inl | ipp
C: c | h
CSS: css | css.erb | css.liquid
Clojure: clj
D: d | di
Diff: diff | patch
Erlang: erl | hrl | Emakefile | emakefile
HTML (Erlang): yaws
Go: go
Graphviz (DOT): dot | DOT | gv
Groovy: groovy | gvy | gradle
HTML: html | htm | shtml | xhtml | inc | tmpl | tpl
Haskell: hs
Literate Haskell: lhs
Java Server Page (JSP): jsp
Java: java | bsh
JavaDoc: 
Java Properties: properties
JSON: json | sublime-settings | sublime-menu | sublime-keymap | sublime-mousemap | sublime-theme | sublime-build | sublime-project | sublime-completions | sublime-commands | sublime-macro | sublime-color-scheme
JavaScript: js | htc
Regular Expressions (Javascript): 
BibTeX: bib
LaTeX Log: 
LaTeX: tex | ltx
TeX: sty | cls
Lisp: lisp | cl | clisp | l | mud | el | scm | ss | lsp | fasl
Lua: lua
Make Output: 
Makefile: make | GNUmakefile | makefile | Makefile | OCamlMakefile | mak | mk
Markdown: md | mdown | markdown | markdn
MultiMarkdown: 
MATLAB: matlab
OCaml: ml | mli
OCamllex: mll
OCamlyacc: mly
camlp4: 
Objective-C++: mm | M | h
Objective-C: m | h
PHP Source: 
PHP: php | php3 | php4 | php5 | php7 | phps | phpt | phtml
Pascal: pas | p | dpr
Perl: pl | pm | pod | t | PL
Python: py | py3 | pyw | pyi | pyx | pyx.in | pxd | pxd.in | pxi | pxi.in | rpy | cpy | SConstruct | Sconstruct | sconstruct | SConscript | gyp | gypi | Snakefile | wscript
Regular Expressions (Python): 
R Console: 
R: R | r | s | S | Rprofile
Rd (R Documentation): rd
HTML (Rails): rails | rhtml | erb | html.erb
JavaScript (Rails): js.erb
Ruby Haml: haml | sass
Ruby on Rails: rxml | builder
SQL (Rails): erbsql | sql.erb
Regular Expression: re
reStructuredText: rst | rest
Ruby: rb | Appfile | Appraisals | Berksfile | Brewfile | capfile | cgi | Cheffile | config.ru | Deliverfile | Fastfile | fcgi | Gemfile | gemspec | Guardfile | irbrc | jbuilder | podspec | prawn | rabl | rake | Rakefile | Rantfile | rbx | rjs | ruby.rail | Scanfile | simplecov | Snapfile | thor | Thorfile | Vagrantfile
Cargo Build Results: 
Rust: rs
SQL: sql | ddl | dml
Scala: scala | sbt
Bourne Again Shell (bash): sh | bash | zsh | fish | .bash_aliases | .bash_completions | .bash_functions | .bash_login | .bash_logout | .bash_profile | .bash_variables | .bashrc | .profile | .textmate_init
Shell-Unix-Generic: 
commands-builtin-shell-bash: 
HTML (Tcl): adp
Tcl: tcl
Textile: textile
XML: xml | xsd | xslt | tld | dtml | rss | opml | svg
YAML: yaml | yml | sublime-syntax"

/-- A language with the extensions it goes by. -/
structure Entry where
  name : String
  extensions : List String
  deriving Repr

/-- Reads a row of the table: a name, a colon, and extensions separated by bars. -/
def Entry.ofRow? (row : List Char) : Option Entry :=
  match Text.splitWhere (· == ':') row with
  | [name, extensions] => some {
      name := .ofList name
      extensions := ((Text.splitWhere (· == '|') extensions).map Text.trimChars).filterMap fun e =>
        if e.isEmpty then none else some (.ofList e) }
  | _ => none

/-- The catalog. -/
def entries : List Entry :=
  (Text.linesOf table.toList).filterMap Entry.ofRow?

/-- Whether two texts differ at most in ASCII case. -/
def sameIgnoringCase (a b : String) : Bool :=
  Text.lowercase a == Text.lowercase b

/-- The word of an info string that names the language. -/
def languageToken? (info : String) : Option String :=
  (Text.firstWord? info).map fun word =>
    .ofList ((Text.splitWhere (· == ',') word.toList).headD [])

/-- The entry that an info string names. -/
def find? (info : String) : Option Entry :=
  (languageToken? info).bind fun token =>
    let latestFirst := entries.reverse
    match latestFirst.find? fun entry => entry.extensions.any (sameIgnoringCase token) with
    | some entry => some entry
    | none => latestFirst.find? fun entry => sameIgnoringCase entry.name token

/-- Text that is not taken apart. -/
def plain : Language where
  root := scopeNamed "text.plain"
  contexts := [{ name := "main", rules := [] }]

/-- The language of an entry, by its name. -/
def language : String → Language
  | "JSON" => .json
  | "Diff" => .diff
  | "Java Properties" => .properties
  | _ => plain

/-- The language that an info string names. -/
def language? (info : String) : Option Language :=
  (find? info).map fun entry => language entry.name

end MarkdownPager.Catalog
