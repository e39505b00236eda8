import MarkdownPager.Highlight.ThemeTable

/-!
# Solarized (light)

The light half of a pair of themes that share their accents.
-/

namespace MarkdownPager.Theme

/-- The theme Solarized (light). -/
def solarizedLight : Theme := .ofTable "Solarized (light)" "
#93a1a1 - - comment, meta.documentation
#2aa198 - - string
#2aa198 - - string.regexp
#dc322f - - constant.character.escape
#6c71c4 - - constant.numeric
#268bd2 - - variable
#b58900 - - variable.function
#d33682 - - variable.language
#859900 - - keyword
#cb4b16 - - meta.import keyword, keyword.control.import, keyword.control.import.from, keyword.other.import, keyword.control.at-rule.include, keyword.control.at-rule.import
#657b83 - - keyword.operator.comparison, keyword.operator.assignment, keyword.operator.arithmetic
#859900 - - storage
#586e75 - - storage.modifier
#b58900 - - keyword.control.class, entity.name, entity.name.class, entity.name.type.class
#268bd2 - - entity.other.inherited-class
#b58900 - - entity.other.attribute-name
#859900 - - support, support.type, support.class
#b58900 - - entity.name.function
#859900 - - punctuation.definition.variable
#b58900 - - constant, constant.language, meta.preprocessor
#cb4b16 - - entity.name.section
#dc322f - - support.function.construct, keyword.other.new
#cb4b16 - - constant.character, constant.other
#268bd2 - - entity.name.tag
#93a1a1 - - punctuation.definition.tag.html, punctuation.definition.tag.begin, punctuation.definition.tag.end
#859900 - - support.function
#dc322f - - punctuation.separator.continuation
#268bd2 - - storage.type
#cb4b16 - - support.type.exception
#cb4b16 - - keyword.other.special-method
- #ec9489 - invalid
#2aa198 - - string.quoted.double, string.quoted.single
#839496 - - punctuation.definition.string
#268bd2 - - meta.brace.square, punctuation.section.brackets
#657b83 - - meta.brace.round, meta.brace.curly, punctuation.section, punctuation.section.block, punctuation.definition.parameters, punctuation.section.group
#b58900 - - support.constant.color, invalid.deprecated.color.w3c-non-standard-color-name.scss
#657b83 - - meta.selector.css
#b58900 - - entity.name.tag.css, entity.name.tag.scss, source.less keyword.control.html.elements, source.sass keyword.control.untitled
#b58900 - - entity.other.attribute-name.class
#b58900 - - entity.other.attribute-name.id
#268bd2 - - entity.other.attribute-name.pseudo-element, entity.other.attribute-name.tag.pseudo-element, entity.other.attribute-name.pseudo-class, entity.other.attribute-name.tag.pseudo-class
#657b83 - - text.html.basic meta.tag.other.html, text.html.basic meta.tag.any.html, text.html.basic meta.tag.block.any, text.html.basic meta.tag.inline.any, text.html.basic meta.tag.structure.any.html, text.html.basic source.js.embedded.html, punctuation.separator.key-value.html
#b58900 - - text.html.basic entity.other.attribute-name.html, meta.tag.xml entity.other.attribute-name
#859900 - - keyword.other.special-method.ruby
#b58900 - - variable.other.constant.ruby
#2aa198 - - constant.other.symbol.ruby
#cb4b16 - - keyword.other.special-method.ruby
#b58900 - - meta.array support.function.construct.php
#cb4b16 - - entity.name.function.preprocessor.c, meta.preprocessor.c.include, meta.preprocessor.macro.c
#2aa198 - - meta.preprocessor.c.include string.quoted.other.lt-gt.include.c, meta.preprocessor.c.include punctuation.definition.string.begin.c, meta.preprocessor.c.include punctuation.definition.string.end.c
#dc322f - - other.package.exclude, other.remove
#2aa198 - - other.add
#dc322f - - punctuation.section.group.tex, punctuation.definition.arguments.begin.latex, punctuation.definition.arguments.end.latex, punctuation.definition.arguments.latex
#b58900 - - meta.group.braces.tex
#b58900 - - string.other.math.tex
#cb4b16 - - variable.parameter.function.latex
#dc322f - - punctuation.definition.constant.math.tex
#2aa198 - - text.tex.latex constant.other.math.tex, constant.other.general.math.tex, constant.other.general.math.tex, constant.character.math.tex
#b58900 - - string.other.math.tex
#dc322f - - punctuation.definition.string.begin.tex, punctuation.definition.string.end.tex
#2aa198 - - keyword.control.label.latex, text.tex.latex constant.other.general.math.tex
#dc322f - - variable.parameter.definition.label.latex
#859900 - - support.function.be.latex
#cb4b16 - - support.function.section.latex
#2aa198 - - support.function.general.tex
#2aa198 - - keyword.control.ref.latex
#859900 - - storage.type.class.python, storage.type.function.python, storage.modifier.global.python
#b58900 - - support.type.exception.python
#586e75 - - meta.scope.for-in-loop.shell, variable.other.loop.shell
#586e75 - - meta.scope.case-block.shell, meta.scope.case-body.shell
#dc322f - - punctuation.definition.logical-expression.shell
#859900 - - storage.modifier.c++
#268bd2 - - support.function.perl
#93a1a1 - - meta.diff, meta.diff.header
#268bd2 - - meta.diff.range
#dc322f - - markup.deleted
#2aa198 - - markup.changed
#859900 - - markup.inserted
#b58900 - - markup.heading, punctuation.definition.heading.markdown
#859900 - - markup.quote
- - [i] markup.italic
- - [b] markup.bold
#2aa198 - - markup.underline.link.markdown, meta.link.reference constant.other.reference.link.markdown
#6c71c4 - - constant.other.reference.link.markdown
- #eee8d5 - meta.paragraph.markdown meta.dummy.line-break
#eee8d5 #eee8d5 - sublimelinter.notes
#93a1a1 #93a1a1 - sublimelinter.outline.illegal
- #dc322f - sublimelinter.underline.illegal
#839496 #839496 - sublimelinter.outline.warning
- #b58900 - sublimelinter.underline.warning
#657b83 #657b83 - sublimelinter.outline.violation
- #cb4b16 - sublimelinter.underline.violation
#b58900 - - sublimelinter.mark.warning
#dc322f - - sublimelinter.mark.error
#657b83 - - sublimelinter.gutter-mark
#93a1a1 - - brackethighlighter.all
#2aa198 - - entity.name.filename.find-in-files
#93a1a1 - - constant.numeric.line-number.find-in-files
#dc322f - - markup.deleted.git_gutter
#859900 - - markup.inserted.git_gutter
#b58900 - - markup.changed.git_gutter
#657b83 - - variable.other.readwrite.js, variable.other.object.js, variable.other.constant.js"

end MarkdownPager.Theme
