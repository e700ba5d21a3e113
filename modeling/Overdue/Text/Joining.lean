import Overdue.Text.Composition
import Overdue.Text.Mark

/-!
# Joiners

The two characters that are not seen but decide whether those around them are joined. They may
stand only where they decide something.
-/

namespace Overdue.Text

/-- The character that keeps others from being joined. -/
def nonJoiner : Char := '\u200C'

/-- The character that has others joined. -/
def joiner : Char := '\u200D'

/-- The letters that join with the one after them. -/
def joinsNext : List (Nat × Nat) := Table.ranges [
  "620 626 628 62a-62e 633-63f 641-647 649-64a 66e-66f 679-687 69a-6bf 6c1-6c2 6cc 6ce 6d0-6d1",
  "6fa-6fc 6ff 712-714 71a-71d 71f-727 729 72b 72d-72e 74e-758 75c-76a 76d-770 772 775-777",
  "77a-77f 7ca-7ea 841-845 848 84a-853 855 860 862-865 868 886 889-88d 88f-8a9 8af-8b0 8b3-8b8",
  "8ba-8c8 1807 1820-1878 1887-18aa a840-a872 fb52-fb81 fb8e-fba3 fba6-fbad fbd3-fbd6 fbe4-fbe9",
  "fbf6-fc36 fc38-fc5a fc5d fc66-fc69 fc6c-fc6f fc72-fc75 fc78-fc7f fc81-fc87 fc89 fc8c-fc90",
  "fc93-fcf1 fcf5-fd0c fd11-fd28 fd2d-fd3b fd50-fd8f fd92-fdc7 fdf2 fdf5-fdfc fe89-fe8c fe8f-fe92",
  "fe95-fea8 feb1-feec feef-fef4 10ac0-10ac4 10acd 10ad3-10adc 10ade-10ae0 10aeb-10aee 10b80",
  "10b82 10b86-10b88 10b8a-10b8b 10b8d 10b90 10bad-10bae 10d00-10d21 10d23 10ec3-10ec4",
  "10ec6-10ec7 10f30-10f32 10f34-10f44 10f51-10f53 10f70-10f73 10f76-10f81 10fb0 10fb2-10fb3",
  "10fb8 10fbb-10fbc 10fbe-10fbf 10fc1 10fc4 10fca-10fcb 1e900-1e943 1ee01-1ee02 1ee07-1ee12",
  "1ee14-1ee17 1ee19-1ee7e 1ee81-1ee82 1ee84 1ee87-1ee92 1ee94-1ee97 1ee99-1eea2 1eea7-1eeb2",
  "1eeb4-1eeb7 1eeb9-1eebb"]

/-- The letters that join with the one before them. -/
def joinsPrevious : List (Nat × Nat) := Table.ranges [
  "620 622-63f 641-64a 66e-673 675-6d3 6d5 6ee-6ef 6fa-6fc 6ff 710-77f 7ca-7ea 840-858 860",
  "862-865 867-882 886 889-8ac 8ae-8c8 1807 1820-1878 1887-18aa a840-a871 fb50-fbb1 fbd3-fcf1",
  "fcf5-fd3d fd50-fd8f fd92-fdc7 fdf0-fdfc fe81-fefc 10ac0-10ac5 10ac7 10ac9-10aca 10ace-10ad6",
  "10ad8-10ae1 10ae4-10aef 10b80-10b91 10ba9-10bae 10d01-10d23 10ec2-10ec4 10ec6-10ec7",
  "10f30-10f44 10f51-10f54 10f70-10f81 10fb0 10fb2-10fb6 10fb8-10fbf 10fc1-10fc4 10fc9-10fca",
  "1e900-1e943 1ee00-1eebb"]

/-- The characters between which joining goes on as if they were not there, nonspacing marks
apart. -/
def otherTransparent : List (Nat × Nat) := Table.ranges [
  "cbf cc6 11a07-11a08 11c3f 11f5a 1e94b"]

/-- Whether joining goes on behind a character as before it. -/
def isTransparent (c : Char) : Bool :=
  isNonspacing c || Table.covers otherTransparent c

/-- Whether the first character that takes part in joining is in a table. -/
def nextIsIn (table : List (Nat × Nat)) (s : List Char) : Bool :=
  (s.find? fun c => !isTransparent c).any (Table.covers table)

/-- Whether a joiner may stand between some characters, of which those before it are listed
backwards: behind a virama, or as the other joiner between letters that would join. -/
def joinerFits (c : Char) (before after : List Char) : Bool :=
  before.head?.any isVirama ||
    (c == nonJoiner && nextIsIn joinsNext before && nextIsIn joinsPrevious after)

/-- Whether all joiners of a text fit, of which some characters, listed backwards, are read. -/
def joinersFit (before : List Char) : List Char → Bool
  | [] => true
  | c :: s =>
    ((c != joiner && c != nonJoiner) || joinerFits c before s) && joinersFit (c :: before) s

end Overdue.Text
