import AsmLayout.Command.Request
import AsmLayout.Host.Programs

/-! # Commands on the host

The commands take any system; here it is one whose programs are known.
-/

namespace AsmLayout.Command

/-- Do what is asked for on the host. -/
def run (request : Request) (settingsText : Option String) (fresh : Seed) (files : FileSystem) :
    Outcome :=
  perform Host.execute request settingsText fresh files

end AsmLayout.Command
