import MarkdownPager.Grammar.Language

/-!
# Differences

The output of file comparison: headers, ranges, and lines added, removed or changed.  Every rule
reads a whole line or its beginning, so there is one context.
-/

namespace MarkdownPager.Language.Diff

open Pattern

/-- A blank, then anything, and at least one character of it. -/
def blankAndMore : Pattern := .seq (lit ' ') (plus any)

def separators : Rule where
  pattern := seqs [.lineStart,
    .group 1 (alts [.group 2 (times 15 (lit '*')), .group 3 (times 67 (lit '=')),
      .group 4 (times 3 (lit '-'))]),
    lineBreak]
  scopes := [scopeNamed "meta.separator.diff"]
  captures := [(1, scopeNamed "punctuation.definition.separator.diff")]

/-- Line numbers separated by commas. -/
def lineNumbers : Pattern := .seq (plus digit) (star (.seq (lit ',') (plus digit)))

def plainRanges : Rule where
  pattern := seqs [.lineStart, lineNumbers, oneOf "adc", lineNumbers, lineBreak]
  scopes := [scopeNamed "meta.diff.range.normal"]

def unifiedRanges : Rule where
  pattern := seqs [.lineStart, .group 1 (word "@@"), star blank, .group 2 (plusLazy any),
    star blank, .group 3 (word "@@"), opt lineBreak]
  scopes := [scopeNamed "meta.diff.range.unified"]
  captures := [(1, scopeNamed "punctuation.definition.range.diff"),
    (2, scopeNamed "meta.toc-list.line-number.diff"),
    (3, scopeNamed "punctuation.definition.range.diff")]

def contextRanges : Rule where
  pattern := seqs [.lineStart,
    alts [
      seqs [.group 3 (times 3 (lit '-')), blankAndMore, lit ' ', .group 4 (times 4 (lit '-'))],
      seqs [.group 6 (times 3 (lit '*')), blankAndMore, lit ' ', .group 7 (times 4 (lit '*'))]],
    lineBreak]
  scopes := [scopeNamed "meta.diff.range.context"]
  captures := [3, 4, 6, 7].map (·, scopeNamed "punctuation.definition.range.diff")

def fromFiles : Rule where
  pattern := alts [
    seqs [.lineStart,
      alts [.seq (.group 4 (times 3 (lit '-'))) blankAndMore,
        .seq (.group 6 (times 3 (lit '*'))) blankAndMore],
      lineBreak],
    seqs [.lineStart, .group 7 (times 4 (lit '=')), blankAndMore, .ahead true (word " - ")]]
  scopes := [scopeNamed "meta.diff.header.from-file"]
  captures := [4, 6, 7].map (·, scopeNamed "punctuation.definition.from-file.diff")

def toFiles : Rule where
  pattern := alts [
    seqs [.lineStart, .group 2 (times 3 (lit '+')), blankAndMore, lineBreak],
    seqs [lit ' ', .group 3 (lit '-'), lit ' ', star any, lit ' ', .group 4 (times 4 (lit '=')),
      lineBreak]]
  scopes := [scopeNamed "meta.diff.header.to-file"]
  captures := [2, 3, 4].map (·, scopeNamed "punctuation.definition.to-file.diff")

/-- A line that begins with an angle bracket, alone or before a blank, or with a sign. -/
def markedLine (bracket sign : Char) : Pattern :=
  seqs [.lineStart,
    alts [.seq (.group 3 (lit bracket)) (opt (.seq (lit ' ') (star any))),
      .seq (.group 6 (lit sign)) (star any)],
    lineBreak]

def insertions : Rule where
  pattern := markedLine '>' '+'
  scopes := [scopeNamed "markup.inserted.diff"]
  captures := [3, 6].map (·, scopeNamed "punctuation.definition.inserted.diff")

def changes : Rule where
  pattern := seqs [.lineStart, .group 1 (lit '!'), star any, lineBreak]
  scopes := [scopeNamed "markup.changed.diff"]
  captures := [(1, scopeNamed "punctuation.definition.changed.diff")]

def deletions : Rule where
  pattern := markedLine '<' '-'
  scopes := [scopeNamed "markup.deleted.diff"]
  captures := [3, 6].map (·, scopeNamed "punctuation.definition.deleted.diff")

def indexes : Rule where
  pattern := seqs [.lineStart, word "Index", .group 1 (lit ':'), lit ' ', .group 2 (plus any),
    lineBreak]
  scopes := [scopeNamed "meta.diff.index"]
  captures := [(1, scopeNamed "punctuation.separator.key-value.diff"),
    (2, scopeNamed "meta.toc-list.file-name.diff")]

end Diff

open Diff in
/-- Differences between files. -/
def diff : Language where
  root := scopeNamed "source.diff"
  contexts := [
    { name := "main"
      rules := [separators, plainRanges, unifiedRanges, contextRanges, fromFiles, toFiles,
        insertions, changes, deletions, indexes] }]

end MarkdownPager.Language
