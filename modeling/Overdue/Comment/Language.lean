import Overdue.Comment.Style
import Overdue.Text.Lines

/-!
# Languages

The comment style of a file, by its name. A file of an unknown language carries no comments.
-/

namespace Overdue

namespace CommentStyle

/-- File names that stand for an extension. -/
def aliases : List (String × String) :=
  [("Gemfile", "rb"), ("Rakefile", "rb"), ("Dockerfile", "sh"), ("Makefile", "sh")]

/-- The extensions of the languages whose comments have each style. -/
def extensions : CommentStyle → List String
  | hash =>
    ["rb", "py", "sh", "bash", "zsh", "yaml", "yml", "toml", "r", "pl", "ex", "exs", "tf"]
  | doubleSlash =>
    ["js", "mjs", "cjs", "ts", "jsx", "tsx", "java", "c", "h", "cpp", "hpp", "cc", "cs", "go",
     "rs", "kt", "swift", "scala", "dart", "php"]
  | doubleDash => ["sql", "hs", "lua", "elm"]
  | semicolon => ["lisp", "el", "clj", "scm", "asm"]

/-- The style of an extension. -/
def ofExtension? (extension : String) : Option CommentStyle :=
  [hash, doubleSlash, doubleDash, semicolon].find? fun style =>
    style.extensions.contains extension

/-- The extension of a file: by its name as a whole, else what stands after the last dot of the
name, else the name itself. -/
def extensionOf (file : String) : String :=
  let name := Text.afterLast '/' file.toList
  match aliases.lookup (String.ofList name) with
  | some extension => extension
  | none => String.ofList (Text.afterLast '.' name)

/-- The style of a file, by the last part of its path. -/
def ofFile? (file : String) : Option CommentStyle :=
  ofExtension? (extensionOf file)

end CommentStyle

/-- Whether the line carries a comment in the language of the file. -/
def isComment (file line : String) : Bool :=
  match CommentStyle.ofFile? file with
  | some style => (style.commentText? line).isSome
  | none => false

end Overdue
