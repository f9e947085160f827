import TypedTree.Text.CodePage.Dos
import TypedTree.Text.CodePage.Ebcdic
import TypedTree.Text.CodePage.Iso
import TypedTree.Text.CodePage.Koi
import TypedTree.Text.CodePage.Mac
import TypedTree.Text.CodePage.Windows

/-! # Finding a code page

The pages are found by the names of their encodings.
-/

namespace TypedTree.Text.CodePage

def all : List CodePage :=
  windowsPages ++ isoPages ++ dosPages ++ macPages ++ koiPages ++ ebcdicPages

def find? (name : String) : Option CodePage := all.find? fun p => p.name = name

end TypedTree.Text.CodePage
