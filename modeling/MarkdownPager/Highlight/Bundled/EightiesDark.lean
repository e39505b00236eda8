import MarkdownPager.Highlight.ThemeTable

/-!
# Base16 Eighties Dark

A dark theme of sixteen colours in strong tones.
-/

namespace MarkdownPager.Theme

/-- The theme Base16 Eighties Dark. -/
def eightiesDark : Theme := .ofTable "Base16 Eighties Dark" "
#d3d0c8 - - variable.parameter.function
#747369 - - comment, punctuation.definition.comment
#d3d0c8 - - punctuation.definition.string, punctuation.definition.variable, punctuation.definition.string, punctuation.definition.parameters, punctuation.definition.string, punctuation.definition.array
#d3d0c8 - - none
#d3d0c8 - - keyword.operator
#cc99cc - - keyword
#f2777a - - variable, variable.other.dollar.only.js
#6699cc - - entity.name.function, meta.require, support.function.any-method, variable.function
#ffcc66 - - support.class, entity.name.class, entity.name.type.class
#f2f0ec - - meta.class
#6699cc - - keyword.other.special-method
#cc99cc - - storage
#66cccc - - support.function
#99cc99 - - string, constant.other.symbol, entity.other.inherited-class
#f99157 - - constant.numeric
#f99157 - - none
#f99157 - - none
#f99157 - - constant
#f2777a - - entity.name.tag
#f99157 - - entity.other.attribute-name
#6699cc - - entity.other.attribute-name.id, punctuation.definition.entity
#cc99cc - - meta.selector
#f99157 - - none
#6699cc - [] markup.heading punctuation.definition.heading, entity.name.section
#f99157 - - keyword.other.unit
#ffcc66 - [b] markup.bold, punctuation.definition.bold
#cc99cc - [i] markup.italic, punctuation.definition.italic
#99cc99 - - markup.raw.inline
#f2777a - - string.other.link
#f99157 - - meta.link
#f99157 - - meta.image
#f2777a - - markup.list
#f99157 - - markup.quote
#d3d0c8 #515151 - meta.separator
#99cc99 - - markup.inserted, markup.inserted.git_gutter
#f2777a - - markup.deleted, markup.deleted.git_gutter
#cc99cc - - markup.changed, markup.changed.git_gutter
#515151 - - markup.ignored, markup.ignored.git_gutter
#515151 - - markup.untracked, markup.untracked.git_gutter
#66cccc - - constant.other.color
#66cccc - - string.regexp
#66cccc - - constant.character.escape
#d27b53 - - punctuation.section.embedded, variable.interpolation
#2d2d2d #f2777a - invalid.illegal
#f92672 - - markup.deleted.git_gutter
#a6e22e - - markup.inserted.git_gutter
#967efb - - markup.changed.git_gutter
#565656 - - markup.ignored.git_gutter
#565656 - - markup.untracked.git_gutter"

end MarkdownPager.Theme
