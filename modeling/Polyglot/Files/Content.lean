import Polyglot.Files.Workspace
import Polyglot.Text.LetterCase
import Polyglot.Text.Basic
import Polyglot.Text.Utf8

namespace Polyglot.Files

def binaryExtensions : List String := [
  ".3ds", ".3g2", ".3gp", ".7z", ".a", ".aac", ".adp", ".ai", ".aif", ".aiff",
  ".apk", ".ar", ".arj", ".avi", ".bin", ".bmp", ".bz2", ".cab", ".class",
  ".dat", ".deb", ".dll", ".dmg", ".doc", ".docx", ".dylib", ".ear", ".eot",
  ".epub", ".exe", ".flac", ".flv", ".gif", ".gz", ".ico", ".icns", ".iso",
  ".jar", ".jpeg", ".jpg", ".lz", ".lzma", ".m4a", ".m4v", ".mkv", ".mov",
  ".mp3", ".mp4", ".mpeg", ".mpg", ".o", ".obj", ".odp", ".ods", ".odt",
  ".ogg", ".otf", ".pdf", ".png", ".ppt", ".pptx", ".psd", ".pyc", ".pyo",
  ".rar", ".rpm", ".so", ".swf", ".tar", ".tga", ".tgz", ".tif", ".tiff",
  ".ttf", ".war", ".wav", ".webm", ".webp", ".wma", ".wmv", ".woff",
  ".woff2", ".xls", ".xlsx", ".xz", ".zip", ".zst"]

def hasBinaryExtension (path : Path) : Bool := binaryExtensions.contains (Text.lower path.suffix)

/-- How far a content is searched for a zero byte. -/
def sniffLength : Nat := 8000

/-- Whether a content has a zero byte near its start. -/
def looksBinary (content : ByteArray) : Bool := (content.extract 0 sniffLength).toList.contains 0

/-- A content as text: each line ends in one line feed. -/
def textOf (content : ByteArray) : List Char := Text.unifyNewlines (Text.decode content)

def firstLineOf (content : ByteArray) : List Char := Text.firstLine (Text.decode content)

/-- A file is binary by its extension or by its content, which is asked for second; an empty one is
text. -/
def isBinary (path : Path) (content : Except Workspace.ReadError ByteArray) :
    Except Workspace.ReadError Bool :=
  if hasBinaryExtension path then .ok true else content.map looksBinary

end Polyglot.Files
