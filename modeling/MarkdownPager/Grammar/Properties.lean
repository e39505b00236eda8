import MarkdownPager.Grammar.Language

/-!
# Property files

Comments, and keys with their values.
-/

namespace MarkdownPager.Language

open Pattern

/-- Property files as Java programs read them. -/
def properties : Language where
  root := scopeNamed "source.java-props"
  contexts := [
    { name := "main"
      rules := [
        { pattern := seqs [.group 1 (oneOf "#!"), opt (.group 2 (plus any)), lineBreak]
          scopes := [scopeNamed "comment.line.number-sign.java-props"]
          captures := [(1, scopeNamed "punctuation.definition.comment.java-props")] },
        { pattern := word "/*"
          captures := [(0, scopeNamed "punctuation.definition.comment.java-props")]
          action := .push "comment" },
        { pattern := seqs [.lineStart, .group 1 (plus (noneOf ":=")), .group 2 (oneOf ":="),
            .group 3 (star any), .lineEnd]
          captures := [(1, scopeNamed "keyword.other.java-props"),
            (2, scopeNamed "punctuation.separator.key-value.java-props")] }] },
    { name := "comment"
      metaScopes := [scopeNamed "comment.block.java-props"]
      rules := [
        { pattern := word "*/"
          captures := [(0, scopeNamed "punctuation.definition.comment.java-props")]
          action := .pop }] }]

end MarkdownPager.Language
