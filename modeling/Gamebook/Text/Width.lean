import Gamebook.Text.Marks

/-!
# Width of text

How many cells of a terminal a text takes. Characters that are seen as one form a cluster: a
character with its marks, a line break of two characters, joined pictures, a pair of flag letters,
the letters of a Hangul syllable.

* `Text.columns` : the cells of a character.
* `Text.clusters` : the clusters of a text; together they are the text (`flatten_clusters`).
* `Text.clusterColumns` : the cells of a cluster.
-/

namespace Gamebook

namespace Text

/-- The character lies between two code points. -/
def isWithin (low high : Nat) (c : Char) : Bool := low ≤ c.toNat && c.toNat ≤ high

/-- A control character. -/
def isControl (c : Char) : Bool := c.toNat < 0x20 || isWithin 0x7f 0x9f c

/-- A character that is not to be seen by itself. -/
def isInvisible (c : Char) : Bool :=
  c.toNat == 0xad || c.toNat == 0x61c || isWithin 0x180b 0x180f c || isWithin 0x200b 0x200f c
    || isWithin 0x202a 0x202e c || isWithin 0x2060 0x206f c || c.toNat == 0x3164
    || isWithin 0xfe00 0xfe0f c || c.toNat == 0xfeff || c.toNat == 0xffa0
    || isWithin 0xfff0 0xfff8 c || isWithin 0x1bca0 0x1bca3 c || isWithin 0x1d173 0x1d17a c
    || isWithin 0xe0000 0xe0fff c

/-- A vowel or a final consonant of a Hangul syllable that is written in letters. -/
def isSyllableTail (c : Char) : Bool := isWithin 0x1160 0x11ff c || isWithin 0xd7b0 0xd7fb c

/-- A first consonant of a Hangul syllable that is written in letters. -/
def isSyllableHead (c : Char) : Bool := isWithin 0x1100 0x115f c || isWithin 0xa960 0xa97c c

/-- A Hangul syllable in one character. -/
def isSyllable (c : Char) : Bool := isWithin 0xac00 0xd7a3 c

/-- A letter of a flag. -/
def isFlagLetter (c : Char) : Bool := isWithin 0x1f1e6 0x1f1ff c

/-- A colour for the picture before it. -/
def isTone (c : Char) : Bool := isWithin 0x1f3fb 0x1f3ff c

/-- A picture, which a joiner joins with another one. -/
def isPicture (c : Char) : Bool :=
  isWithin 0x1f000 0x1faff c || isWithin 0x2190 0x2bff c || c.toNat == 0xa9 || c.toNat == 0xae
    || c.toNat == 0x203c || c.toNat == 0x2049 || c.toNat == 0x2122 || c.toNat == 0x2139
    || c.toNat == 0x3030 || c.toNat == 0x303d || c.toNat == 0x3297 || c.toNat == 0x3299

/-- The character that joins two pictures. -/
def joiner : Char := Char.ofNat 0x200d

/-- The character that asks for the coloured form of the one before it. -/
def pictureSelector : Char := Char.ofNat 0xfe0f

/-- The cells that a character takes by itself. -/
def columns (c : Char) : Nat :=
  if isControl c then 1
  else if isInvisible c || isMark c || isSyllableTail c then 0
  else if isWide c then 2
  else 1

/-- A character that goes with whatever character stands before it. -/
def isExtending (c : Char) : Bool :=
  isMark c || isSpacingMark c || isTone c || c.toNat == 0x200c || c == joiner
    || isWithin 0xe0020 0xe007f c

/-- A character belongs to the cluster before it, which is given in reverse. -/
def joins (cluster : List Char) (c : Char) : Bool :=
  match cluster with
  | [] => false
  | last :: before =>
    if last = '\r' then c == '\n'
    else if isControl last || isControl c then false
    else if isExtending c then true
    else if last = joiner then isPicture c && before.any isPicture
    else if isFlagLetter c then cluster.all isFlagLetter && cluster.length % 2 == 1
    else if isSyllableHead last then isSyllableHead c || isSyllableTail c || isSyllable c
    else (isSyllable last || isSyllableTail last) && isSyllableTail c

/-- The clusters of the text that follows a cluster begun, which is given in reverse. -/
def clustersFrom (cluster : List Char) : List Char → List (List Char)
  | [] => [cluster.reverse]
  | c :: rest =>
    if joins cluster c then clustersFrom (c :: cluster) rest
    else cluster.reverse :: clustersFrom [c] rest

private theorem flatten_clustersFrom (cluster cs : List Char) :
    (clustersFrom cluster cs).flatten = cluster.reverse ++ cs := by
  induction cs generalizing cluster with
  | nil => simp [clustersFrom]
  | cons c rest ih => simp only [clustersFrom]; split <;> simp [ih]

/-- The clusters of a text in order. -/
def clusters : List Char → List (List Char)
  | [] => []
  | c :: rest => clustersFrom [c] rest

/-- The clusters of a text together are the text. -/
@[simp] theorem flatten_clusters (cs : List Char) : (clusters cs).flatten = cs := by
  cases cs with
  | nil => rfl
  | cons c rest => simp [clusters, flatten_clustersFrom]

/-- The cells of what follows in a cluster: a joined picture and a tone add nothing. -/
def restColumns : List Char → Nat
  | [] => 0
  | [c] => if isTone c then 0 else columns c
  | c :: d :: rest =>
    if c = joiner then restColumns rest
    else (if isTone c then 0 else columns c) + restColumns (d :: rest)

/-- The cells that a cluster takes. -/
def clusterColumns (cluster : List Char) : Nat :=
  match cluster with
  | [] => 0
  | first :: rest =>
    if rest = ['\n'] then 1
    else if rest.contains pictureSelector then 2
    else columns first + restColumns rest

/-- Printable ASCII characters take one cell. -/
theorem columns_of_ascii {c : Char} (low : 0x20 ≤ c.toNat) (high : c.toNat < 0x7f) :
    columns c = 1 := by
  have control : isControl c = false := by simp [isControl, isWithin]; omega
  have invisible : isInvisible c = false := by simp [isInvisible, isWithin]; omega
  have mark : isMark c = false := by simp [isMark]; omega
  have tail : isSyllableTail c = false := by simp [isSyllableTail, isWithin]; omega
  have wide : isWide c = false := by simp [isWide]; omega
  simp [columns, control, invisible, mark, tail, wide]

end Text

end Gamebook
