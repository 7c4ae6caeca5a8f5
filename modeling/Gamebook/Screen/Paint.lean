import Gamebook.Text.Blank
import Gamebook.Text.Width

/-!
# Painting rows

Rows of text on a terminal of a given size. A row that is too long for the terminal is broken
between words, and within a word that is too long by itself; the blanks at a break are dropped. A
row of blanks alone is preceded by an empty one. What does not fit below the last row of the
terminal is not to be seen.
-/

namespace Gamebook

namespace Paint

/-- What is seen as one character, with the cells that it takes. -/
structure Glyph where
  text : List Char
  columns : Nat

namespace Glyph

/-- A row may be broken at the glyph: it is blank, but not a blank that holds a line together. -/
def isBlank (glyph : Glyph) : Bool :=
  glyph.text == [Char.ofNat 0x200b]
    || (glyph.text.all isBlankChar && glyph.text != [Char.ofNat 0xa0])

/-- The glyphs of a text; line feeds are left out. -/
def ofText (text : String) : List Glyph :=
  ((Text.clusters text.toList).filter (· != ['\n'])).map
    (fun cluster => { text := cluster, columns := Text.clusterColumns cluster })

/-- The cells that glyphs take together. -/
def width (glyphs : List Glyph) : Nat := (glyphs.map columns).foldl (· + ·) 0

end Glyph

/-- A row while it is broken into lines: lines that are done, the line begun, and after it blanks
and a word that have no line yet. -/
structure Wrapping where
  done : List (List Glyph) := []
  line : List Glyph := []
  blanks : List Glyph := []
  word : List Glyph := []
  /-- The last glyph belongs to a word. -/
  inWord : Bool := false

namespace Wrapping

/-- Puts blanks and word on the line begun. -/
def settle (w : Wrapping) : Wrapping :=
  { w with line := w.line ++ w.blanks ++ w.word, blanks := [], word := [] }

/-- The glyphs without those at their start that fit into a width. -/
def dropFitting : Nat → List Glyph → List Glyph
  | _, [] => []
  | room, glyph :: rest =>
    if glyph.columns ≤ room then dropFitting (room - glyph.columns) rest else glyph :: rest

/-- Ends the line begun; blanks that would fit on it are dropped. -/
def endLine (width : Nat) (w : Wrapping) : Wrapping :=
  { w with
    done := w.done ++ [w.line]
    line := []
    blanks := dropFitting (width - Glyph.width w.line) w.blanks }

/-- Takes a glyph to the blanks or the word. -/
def take (glyph : Glyph) (w : Wrapping) : Wrapping :=
  if glyph.isBlank then { w with blanks := w.blanks ++ [glyph], inWord := false }
  else { w with word := w.word ++ [glyph], inWord := true }

/-- The next glyph of a row. A glyph that is wider than a line is left out. -/
def next (width : Nat) (w : Wrapping) (glyph : Glyph) : Wrapping :=
  if width < glyph.columns then w
  else
    let wordEnds := w.inWord && glyph.isBlank
    let overflows := w.line.isEmpty
      && width < Glyph.width w.word + Glyph.width w.blanks + glyph.columns
    let settled := if wordEnds || overflows then w.settle else w
    let used := Glyph.width settled.line
    if width ≤ used
        || (0 < glyph.columns
          && width ≤ used + Glyph.width settled.blanks + Glyph.width settled.word) then
      let broken := settled.endLine width
      if glyph.isBlank && broken.blanks.isEmpty then broken else broken.take glyph
    else settled.take glyph

/-- The lines of a row whose glyphs have all been taken. -/
def lines (w : Wrapping) : List (List Glyph) :=
  let blankAlone := w.line.isEmpty && w.word.isEmpty && !w.blanks.isEmpty
  let last := w.settle.line
  let all := w.done ++ (if blankAlone then [[]] else []) ++ (if last.isEmpty then [] else [last])
  if all.isEmpty then [[]] else all

end Wrapping

/-- The lines of a row on a terminal of a width. -/
def wrap (width : Nat) (row : String) : List (List Glyph) :=
  ((Glyph.ofText row).foldl (Wrapping.next width) {}).lines

/-- The cells of a line: a glyph stands in the first of its cells, the others are blank, and one
without a cell is not to be seen. -/
def cells (line : List Glyph) : List (List Char) :=
  line.flatMap (fun glyph =>
    match glyph.columns with
    | 0 => []
    | more + 1 => glyph.text :: List.replicate more [' '])

/-- What the terminal shows of a line, without the blanks at its end. -/
def lineText (width : Nat) (line : List Glyph) : String :=
  Text.trimEnd (String.ofList ((cells line).take width).flatten)

/-- The rows of a terminal that shows the given rows from its top. -/
def onTerminal (width height : Nat) (rows : List String) : List String :=
  let lines := if width = 0 then [] else rows.flatMap (wrap width)
  let seen := (lines.take height).map (lineText width)
  seen ++ List.replicate (height - seen.length) ""

end Paint

end Gamebook
