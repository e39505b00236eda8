import MarkdownPager.Highlight.ThemeTable

/-!
# Base16 Mocha Dark

A dark theme of sixteen colours in brown tones.
-/

namespace MarkdownPager.Theme

/-- The theme Base16 Mocha Dark. -/
def mochaDark : Theme := .ofTable "Base16 Mocha Dark" "
#d0c8c6 - - variable.parameter.function
#7e705a - - comment, punctuation.definition.comment
#d0c8c6 - - punctuation.definition.string, punctuation.definition.variable, punctuation.definition.string, punctuation.definition.parameters, punctuation.definition.string, punctuation.definition.array
#d0c8c6 - - none
#d0c8c6 - - keyword.operator
#a89bb9 - - keyword
#cb6077 - - variable, variable.other.dollar.only.js
#8ab3b5 - - entity.name.function, meta.require, support.function.any-method, variable.function
#f4bc87 - - support.class, entity.name.class, entity.name.type.class
#f5eeeb - - meta.class
#8ab3b5 - - keyword.other.special-method
#a89bb9 - - storage
#7bbda4 - - support.function
#beb55b - - string, constant.other.symbol, entity.other.inherited-class
#d28b71 - - constant.numeric
#d28b71 - - none
#d28b71 - - none
#d28b71 - - constant
#cb6077 - - entity.name.tag
#d28b71 - - entity.other.attribute-name
#8ab3b5 - - entity.other.attribute-name.id, punctuation.definition.entity
#a89bb9 - - meta.selector
#d28b71 - - none
#8ab3b5 - [] markup.heading punctuation.definition.heading, entity.name.section
#d28b71 - - keyword.other.unit
#f4bc87 - [b] markup.bold, punctuation.definition.bold
#a89bb9 - [i] markup.italic, punctuation.definition.italic
#beb55b - - markup.raw.inline
#cb6077 - - string.other.link
#d28b71 - - meta.link
#d28b71 - - meta.image
#cb6077 - - markup.list
#d28b71 - - markup.quote
#d0c8c6 #645240 - meta.separator
#beb55b - - markup.inserted
#cb6077 - - markup.deleted
#a89bb9 - - markup.changed
#7bbda4 - - constant.other.color
#7bbda4 - - string.regexp
#7bbda4 - - constant.character.escape
#bb9584 - - punctuation.section.embedded, variable.interpolation
#3b3228 #cb6077 - invalid.illegal
#f92672 - - markup.deleted.git_gutter
#a6e22e - - markup.inserted.git_gutter
#967efb - - markup.changed.git_gutter
#565656 - - markup.ignored.git_gutter
#565656 - - markup.untracked.git_gutter"

end MarkdownPager.Theme
