import MarkdownPager.Highlight.ThemeTable

/-!
# Base16 Ocean Light

A light theme of sixteen colours in muted blue tones.
-/

namespace MarkdownPager.Theme

/-- The theme Base16 Ocean Light. -/
def oceanLight : Theme := .ofTable "Base16 Ocean Light" "
#4f5b66 - - variable.parameter.function
#a7adba - - comment, punctuation.definition.comment
#4f5b66 - - punctuation.definition.string, punctuation.definition.variable, punctuation.definition.string, punctuation.definition.parameters, punctuation.definition.string, punctuation.definition.array
#4f5b66 - - none
#4f5b66 - - keyword.operator
#b48ead - - keyword
#bf616a - - variable, variable.other.dollar.only.js
#8fa1b3 - - entity.name.function, meta.require, support.function.any-method, variable.function
#d08770 - - support.class, entity.name.class, entity.name.type.class
#343d46 - - meta.class
#8fa1b3 - - keyword.other.special-method
#b48ead - - storage
#96b5b4 - - support.function
#a3be8c - - string, constant.other.symbol, entity.other.inherited-class
#d08770 - - constant.numeric
#d08770 - - none
#d08770 - - none
#d08770 - - constant
#bf616a - - entity.name.tag
#d08770 - - entity.other.attribute-name
#8fa1b3 - - entity.other.attribute-name.id, punctuation.definition.entity
#b48ead - - meta.selector
#d08770 - - none
#8fa1b3 - [] markup.heading punctuation.definition.heading, entity.name.section
#d08770 - - keyword.other.unit
#d08770 - [b] markup.bold, punctuation.definition.bold
#b48ead - [i] markup.italic, punctuation.definition.italic
#a3be8c - - markup.raw.inline
#bf616a - - string.other.link
#d08770 - - meta.link
#d08770 - - meta.image
#bf616a - - markup.list
#d08770 - - markup.quote
#4f5b66 #dfe1e8 - meta.separator
#a3be8c - - markup.inserted, markup.inserted.git_gutter
#bf616a - - markup.deleted, markup.deleted.git_gutter
#b48ead - - markup.changed, markup.changed.git_gutter
#c0c5ce - - markup.ignored, markup.ignored.git_gutter
#c0c5ce - - markup.untracked, markup.untracked.git_gutter
#96b5b4 - - constant.other.color
#96b5b4 - - string.regexp
#96b5b4 - - constant.character.escape
#ab7967 - - punctuation.section.embedded, variable.interpolation
#eff1f5 #bf616a - invalid.illegal
#f92672 - - markup.deleted.git_gutter
#a6e22e - - markup.inserted.git_gutter
#967efb - - markup.changed.git_gutter
#565656 - - markup.ignored.git_gutter
#565656 - - markup.untracked.git_gutter"

end MarkdownPager.Theme
