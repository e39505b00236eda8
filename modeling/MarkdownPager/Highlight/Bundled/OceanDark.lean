import MarkdownPager.Highlight.ThemeTable

/-!
# Base16 Ocean Dark

A dark theme of sixteen colours in muted blue tones.
-/

namespace MarkdownPager.Theme

/-- The theme Base16 Ocean Dark. -/
def oceanDark : Theme := .ofTable "Base16 Ocean Dark" "
#c0c5ce - - variable.parameter.function
#65737e - - comment, punctuation.definition.comment
#c0c5ce - - punctuation.definition.string, punctuation.definition.variable, punctuation.definition.string, punctuation.definition.parameters, punctuation.definition.string, punctuation.definition.array
#c0c5ce - - none
#c0c5ce - - keyword.operator
#b48ead - - keyword
#bf616a - - variable, variable.other.dollar.only.js
#8fa1b3 - - entity.name.function, meta.require, support.function.any-method, variable.function
#ebcb8b - - support.class, entity.name.class, entity.name.type.class
#eff1f5 - - meta.class
#8fa1b3 - - keyword.other.special-method
#b48ead - - storage
#96b5b4 - - support.function
#a3be8c - - string, constant.other.symbol, entity.other.inherited-class
#d08770 - - constant.numeric
#d08770 - - none
#d08770 - - none
#d08770 - - constant
#bf616a - - entity.name.tag
#d08770 - - entity.other.attribute-name
#8fa1b3 - - entity.other.attribute-name.id, punctuation.definition.entity
#b48ead - - meta.selector
#d08770 - - none
#8fa1b3 - [] markup.heading punctuation.definition.heading, entity.name.section
#d08770 - - keyword.other.unit
#ebcb8b - [b] markup.bold, punctuation.definition.bold
#b48ead - [i] markup.italic, punctuation.definition.italic
#a3be8c - - markup.raw.inline
#bf616a - - string.other.link
#d08770 - - meta.link
#d08770 - - meta.image
#bf616a - - markup.list
#d08770 - - markup.quote
#c0c5ce #4f5b66 - meta.separator
#a3be8c - - markup.inserted, markup.inserted.git_gutter
#bf616a - - markup.deleted, markup.deleted.git_gutter
#b48ead - - markup.changed, markup.changed.git_gutter
#4f5b66 - - markup.ignored, markup.ignored.git_gutter
#4f5b66 - - markup.untracked, markup.untracked.git_gutter
#96b5b4 - - constant.other.color
#96b5b4 - - string.regexp
#96b5b4 - - constant.character.escape
#ab7967 - - punctuation.section.embedded, variable.interpolation
#2b303b #bf616a - invalid.illegal
#f92672 - - markup.deleted.git_gutter
#a6e22e - - markup.inserted.git_gutter
#967efb - - markup.changed.git_gutter
#565656 - - markup.ignored.git_gutter
#565656 - - markup.untracked.git_gutter"

end MarkdownPager.Theme
