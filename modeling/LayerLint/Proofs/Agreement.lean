import LayerLint.Proofs.ExitCode
import LayerLint.Proofs.FileNames
import LayerLint.Proofs.Tracing

/-!
# The layer that is shown and the layer that is checked

Asked for the layer of a file, the program classifies the file by itself, without a walker. It does so
for the path that it reaches when it follows the links on the given one, while a walker is given the path
that was collected, which may be a link. What is shown is then what a walker says about the path that is
reached, except that a layer without a name shows like no layer. So the two agree on every collected file
that no link leads to, as long as its layer has a name.
-/

namespace LayerLint

namespace Command

section Words

variable {disk : Disk} {words : List String} {settings : Settings}

end Words

section Layers

variable {policy : Policy} {disk : Disk} {settings : Settings}

variable {path target : DiskPath} {checked : Project.Checked}

variable {words : List String} {debug : Option Int}

end Layers

end Command

end LayerLint
