/-! # Character names

A pattern may state a character by its name in the Unicode standard. What is said of patterns holds for any
table of names, so the table is left open here. -/

namespace LadderAtlas.Text

/-- The characters by name, without regard to case. The names of sequences stand for no character. -/
class CharacterNames where
  character? : String → Option Char

end LadderAtlas.Text
