import MarkdownPager.Grammar.Language

/-!
# JSON

Values, strings with escapes, and the comments that some tools allow.
-/

namespace MarkdownPager.Language.Json

open Pattern

/-- The quote that opens a string, and the context it opens. -/
def openQuote (context : String) : Rule where
  pattern := lit '"'
  scopes := [scopeNamed "punctuation.definition.string.begin.json"]
  action := .push context

def constants : Rule where
  pattern := seqs [.wordBoundary, alts [word "true", word "false", word "null"], .wordBoundary]
  scopes := [scopeNamed "constant.language.json"]

def numbers : Rule where
  pattern := seqs [
    opt (lit '-'),
    alts [lit '0', .seq (oneOf "123456789") (star digit)],
    opt (.seq
      (opt (.seq (lit '.') (plus digit)))
      (opt (seqs [oneOf "eE", opt (oneOf "+-"), plus digit])))]
  scopes := [scopeNamed "constant.numeric.json"]

def comments : List Rule := [
  { pattern := .seq (word "/**") (.ahead false (lit '/'))
    scopes := [scopeNamed "punctuation.definition.comment.json"]
    action := .push "doc-comment" },
  { pattern := word "/*"
    scopes := [scopeNamed "punctuation.definition.comment.json"]
    action := .push "block-comment" },
  { pattern := seqs [.group 1 (word "//"), star any, lineBreak]
    scopes := [scopeNamed "comment.line.double-slash.js"]
    captures := [(1, scopeNamed "punctuation.definition.comment.json")] }]

def values : List Rule := [
  constants,
  numbers,
  openQuote "inside-string",
  { pattern := lit '['
    scopes := [scopeNamed "punctuation.section.array.begin.json"]
    action := .push "in-array" },
  { pattern := lit '\x7b'
    scopes := [scopeNamed "punctuation.section.dictionary.begin.json"]
    action := .push "in-object" }] ++ comments

def stringContent : List Rule := [
  { pattern := lit '"'
    scopes := [scopeNamed "punctuation.definition.string.end.json"]
    action := .pop },
  { pattern := .seq (lit '\\') (alts [
      oneOf "\"\\/bfnrt",
      .seq (lit 'u') (times 4 (oneOf "0123456789abcdefABCDEF"))])
    scopes := [scopeNamed "constant.character.escape.json"] },
  { pattern := .seq (lit '\\') any
    scopes := [scopeNamed "invalid.illegal.unrecognized-string-escape.json"] },
  { pattern := lineBreak
    scopes := [scopeNamed "invalid.illegal.unclosed-string.json"]
    action := .pop }]

def arrayContent : List Rule :=
  [{ pattern := lit ']'
     scopes := [scopeNamed "punctuation.section.array.end.json"]
     action := .pop }] ++ values ++
  [{ pattern := lit ','
     scopes := [scopeNamed "punctuation.separator.array.json"] },
   { pattern := .char fun c => !Text.isBlank c && c != ']'
     scopes := [scopeNamed "invalid.illegal.expected-array-separator.json"] }]

def objectContent : List Rule :=
  [{ pattern := lit '\x7d'
     scopes := [scopeNamed "punctuation.section.dictionary.end.json"]
     action := .pop },
   openQuote "key-string"] ++ comments ++
  [{ pattern := lit ':'
     scopes := [scopeNamed "punctuation.separator.dictionary.key-value.json"]
     action := .push "in-value" },
   { pattern := .char fun c => !Text.isBlank c && c != '\x7d'
     scopes := [scopeNamed "invalid.illegal.expected-dictionary-separator.json"] }]

def memberContent : List Rule :=
  [{ pattern := alts [.group 1 (lit ','), .ahead true (lit '\x7d')]
     captures := [(1, scopeNamed "punctuation.separator.dictionary.pair.json")]
     action := .pop }] ++ values ++
  [{ pattern := .char fun c => !Text.isBlank c && c != ','
     scopes := [scopeNamed "invalid.illegal.expected-dictionary-separator.json"] }]

/-- The end of a comment that may span lines. -/
def commentEnd : List Rule := [{ pattern := word "*/", action := .pop }]

end Json

/-- JSON. -/
def json : Language where
  root := scopeNamed "source.json"
  contexts := [
    { name := "main", rules := Json.values },
    { name := "doc-comment"
      metaScopes := [scopeNamed "comment.block.documentation.json"]
      rules := Json.commentEnd },
    { name := "block-comment"
      metaScopes := [scopeNamed "comment.block.json"]
      rules := Json.commentEnd },
    { name := "inside-string"
      metaScopes := [scopeNamed "string.quoted.double.json"]
      rules := Json.stringContent },
    { name := "in-array"
      metaScopes := [scopeNamed "meta.structure.array.json"]
      rules := Json.arrayContent },
    { name := "in-object"
      metaScopes := [scopeNamed "meta.structure.dictionary.json"]
      rules := Json.objectContent },
    { name := "key-string"
      metaScopes := [scopeNamed "meta.structure.dictionary.key.json",
        scopeNamed "string.quoted.double.json"]
      rules := Json.stringContent },
    { name := "in-value"
      metaScopes := [scopeNamed "meta.structure.dictionary.value.json"]
      rules := Json.memberContent }]

end MarkdownPager.Language
