import MarkdownPager.Highlight.ThemeTable

/-!
# GitHub

A light theme with restrained colours.
-/

namespace MarkdownPager.Theme

/-- The theme GitHub. -/
def inspiredGitHub : Theme := .ofTable "GitHub" "
#969896 - [i] comment
#183691 - - string
#a71d5d - - regexp-operator
#a71d5d - - string.regexp.characterclass punctuation.definition.string.begin, string.regexp.characterclass punctuation.definition.string.end
#0086b3 - - constant.numeric
#0086b3 - - constant.language
#0086b3 - - constant.character, constant.other, variable.other.constant
#323232 - - variable
#a71d5d - [b] keyword
#a71d5d - [b] bitwise-operator
#a71d5d - [b] storage
#a71d5d - [b] storage.type
#0086b3 - - entity.name.class
#0086b3 - - entity.other.inherited-class
#795da3 - [b] entity.name.function
#323232 - - variable.parameter
#63a35c - - entity.name.tag
#795da3 - - entity.other.attribute-name
#62a35c - - support.function
#0086b3 - - support.constant
#0086b3 - - support.type, support.class
#323232 - - support.other.variable
#b52a1d #f5f5f5 [b] invalid, invalid.illegal, invalid.deprecated
#323232 - [b] entity.name.filename.find-in-files
#b3b3b3 - - constant.numeric.line-number.find-in-files, constant.numeric.line-number.match.find-in-files
#969896 #ffffff [i] meta.diff.header
#bd2c00 #ffecec [bi] meta.diff.header punctuation.definition.from-file.diff
#55a532 #eaffea [bi] meta.diff.header punctuation.definition.to-file.diff
#969896 - [bi] meta.diff.range
- #ffecec - markup.deleted
#bd2c00 - [b] markup.deleted punctuation.definition.inserted
- #eaffea - markup.inserted
#55a532 - [b] markup.inserted punctuation.definition.inserted
#bd2c00 - - markup.deleted.git_gutter
#55a532 - - markup.inserted.git_gutter
#0086b3 - - markup.changed.git_gutter
#b3b3b3 - - markup.ignored.git_gutter
#b3b3b3 - - markup.untracked.git_gutter
#323232 - - source.css punctuation.definition.entity
#a71d5d - - source.css entity.other.attribute-name.pseudo-class, source.css entity.other.attribute-name.pseudo-element
#323232 - - source.css meta.value, source.css support.constant, source.css support.function
#ed6a43 - - source.css constant.other.color
#323232 - - source.scss punctuation.definition.entity
#a71d5d - - source.scss entity.other.attribute-name.pseudo-class, source.scss entity.other.attribute-name.pseudo-element
#323232 - - source.scss support.constant.property-value, source.scss support.function
#a71d5d - - source.scss variable
#ed6a43 - - variable.language.this.js
#323232 - [] source.js entity.name.function
#795da3 - [b] source.js meta.function entity.name.function, source.js entity.name.function meta.function
#795da3 - - entity.name.type.new.js
#0086b3 - - variable.language.prototype.js
#0086b3 - - source.js support.function
#795da3 - - support.type.object.console.js
#183691 - [b] meta meta meta meta meta meta meta meta meta meta meta meta meta meta meta meta meta meta meta meta meta.structure.dictionary.json string.quoted.double.json
#323232 - [] meta meta meta meta meta meta meta meta meta meta meta meta meta meta meta meta meta meta meta meta meta.structure.dictionary.json meta.structure.dictionary.value.json string.quoted.double.json
#183691 - [b] meta meta meta meta meta meta meta meta meta meta meta meta meta meta meta meta meta meta meta meta.structure.dictionary.json string.quoted.double.json
#323232 - [] meta meta meta meta meta meta meta meta meta meta meta meta meta meta meta meta meta meta meta meta.structure.dictionary.json meta.structure.dictionary.value.json string.quoted.double.json
#183691 - [b] meta meta meta meta meta meta meta meta meta meta meta meta meta meta meta meta meta meta meta.structure.dictionary.json string.quoted.double.json
#323232 - [] meta meta meta meta meta meta meta meta meta meta meta meta meta meta meta meta meta meta meta.structure.dictionary.json meta.structure.dictionary.value.json string.quoted.double.json
#183691 - [b] meta meta meta meta meta meta meta meta meta meta meta meta meta meta meta meta meta meta.structure.dictionary.json string.quoted.double.json
#323232 - [] meta meta meta meta meta meta meta meta meta meta meta meta meta meta meta meta meta meta.structure.dictionary.json meta.structure.dictionary.value.json string.quoted.double.json
#183691 - [b] meta meta meta meta meta meta meta meta meta meta meta meta meta meta meta meta meta.structure.dictionary.json string.quoted.double.json
#323232 - [] meta meta meta meta meta meta meta meta meta meta meta meta meta meta meta meta meta.structure.dictionary.json meta.structure.dictionary.value.json string.quoted.double.json
#183691 - [b] meta meta meta meta meta meta meta meta meta meta meta meta meta meta meta meta.structure.dictionary.json string.quoted.double.json
#323232 - [] meta meta meta meta meta meta meta meta meta meta meta meta meta meta meta meta.structure.dictionary.json meta.structure.dictionary.value.json string.quoted.double.json
#183691 - [b] meta meta meta meta meta meta meta meta meta meta meta meta meta meta meta.structure.dictionary.json string.quoted.double.json
#323232 - [] meta meta meta meta meta meta meta meta meta meta meta meta meta meta meta.structure.dictionary.json meta.structure.dictionary.value.json string.quoted.double.json
#183691 - [b] meta meta meta meta meta meta meta meta meta meta meta meta meta meta.structure.dictionary.json string.quoted.double.json
#323232 - [] meta meta meta meta meta meta meta meta meta meta meta meta meta meta.structure.dictionary.json meta.structure.dictionary.value.json string.quoted.double.json
#183691 - [b] meta meta meta meta meta meta meta meta meta meta meta meta meta.structure.dictionary.json string.quoted.double.json
#323232 - [] meta meta meta meta meta meta meta meta meta meta meta meta meta.structure.dictionary.json meta.structure.dictionary.value.json string.quoted.double.json
#183691 - [b] meta meta meta meta meta meta meta meta meta meta meta meta.structure.dictionary.json string.quoted.double.json
#323232 - [] meta meta meta meta meta meta meta meta meta meta meta meta.structure.dictionary.json meta.structure.dictionary.value.json string.quoted.double.json
#183691 - [b] meta meta meta meta meta meta meta meta meta meta meta.structure.dictionary.json string.quoted.double.json
#323232 - [] meta meta meta meta meta meta meta meta meta meta meta.structure.dictionary.json meta.structure.dictionary.value.json string.quoted.double.json
#183691 - [b] meta meta meta meta meta meta meta meta meta meta.structure.dictionary.json string.quoted.double.json
#323232 - [] meta meta meta meta meta meta meta meta meta meta.structure.dictionary.json meta.structure.dictionary.value.json string.quoted.double.json
#183691 - [b] meta meta meta meta meta meta meta meta meta.structure.dictionary.json string.quoted.double.json
#323232 - [] meta meta meta meta meta meta meta meta meta.structure.dictionary.json meta.structure.dictionary.value.json string.quoted.double.json
#183691 - [b] meta meta meta meta meta meta meta meta.structure.dictionary.json string.quoted.double.json
#323232 - [] meta meta meta meta meta meta meta meta.structure.dictionary.json meta.structure.dictionary.value.json string.quoted.double.json
#183691 - [b] meta meta meta meta meta meta meta.structure.dictionary.json string.quoted.double.json
#323232 - [] meta meta meta meta meta meta meta.structure.dictionary.json meta.structure.dictionary.value.json string.quoted.double.json
#183691 - [b] meta meta meta meta meta meta.structure.dictionary.json string.quoted.double.json
#323232 - [] meta meta meta meta meta meta.structure.dictionary.json meta.structure.dictionary.value.json string.quoted.double.json
#183691 - [b] meta meta meta meta meta.structure.dictionary.json string.quoted.double.json
#323232 - [] meta meta meta meta meta.structure.dictionary.json meta.structure.dictionary.value.json string.quoted.double.json
#183691 - [b] meta meta meta meta.structure.dictionary.json string.quoted.double.json
#323232 - [] meta meta meta meta.structure.dictionary.json meta.structure.dictionary.value.json string.quoted.double.json
#183691 - [b] meta meta meta.structure.dictionary.json string.quoted.double.json
#323232 - [] meta meta meta.structure.dictionary.json meta.structure.dictionary.value.json string.quoted.double.json
#183691 - [b] meta meta.structure.dictionary.json string.quoted.double.json
#323232 - [] meta meta.structure.dictionary.json meta.structure.dictionary.value.json string.quoted.double.json
#183691 - [b] meta.structure.dictionary.json string.quoted.double.json
#323232 - [] meta.structure.dictionary.json meta.structure.dictionary.value.json string.quoted.double.json
- - [b] source.python keyword
- - [b] source.python storage
- - [b] source.python storage.type
#323232 - [b] source.python entity.name.function
#323232 - [b] source.php entity.name.type.class
#ed6a43 - - variable.language.ruby
#795da3 - [b] entity.name.type.module.ruby
#795da3 - [b] entity.name.type.class.ruby
#795da3 - [b] entity.other.inherited-class.ruby
#a71d5d - - text.html.markdown punctuation.definition
#b3b3b3 - - text.html.markdown meta.separator
- - [b] text.html.markdown markup.heading
#323232 - - text.html.markdown markup.raw.block
#323232 - - text.html.markdown markup.raw.inline
#4183c4 - - text.html.markdown meta.link, text.html.markdown meta.image
- - [i] text.html.markdown markup.underline.link, text.html.markdown constant.other.reference
#ed6a43 - - text.html.markdown markup.list
- - [b] text.html.markdown markup.bold
- - [i] text.html.markdown markup.italic
- - [bi] text.html.markdown markup.bold markup.italic
- - [bi] text.html.markdown markup.italic markup.bold"

end MarkdownPager.Theme
