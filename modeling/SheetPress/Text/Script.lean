import SheetPress.Text.CodeRanges

/-!
# Scripts and spaces

The code points of the Han script, as of Unicode 16, and those with the property White_Space.
-/

namespace SheetPress

/-- Code points of the script Han in Unicode 16. -/
def hanRanges : CodeRanges :=
  [(11904, 11929), (11931, 12019), (12032, 12245), (12293, 12293), (12295, 12295), (12321, 12329),
   (12344, 12347), (13312, 19903), (19968, 40959), (63744, 64109), (64112, 64217), (94178, 94179),
   (94192, 94193), (131072, 173791), (173824, 177977), (177984, 178205), (178208, 183969),
   (183984, 191456), (191472, 192093), (194560, 195101), (196608, 201546), (201552, 205743)]

/-- Code points with the property White_Space. -/
def whiteSpaceRanges : CodeRanges :=
  [(9, 13), (32, 32), (133, 133), (160, 160), (5760, 5760), (8192, 8202), (8232, 8233),
   (8239, 8239), (8287, 8287), (12288, 12288)]

end SheetPress
