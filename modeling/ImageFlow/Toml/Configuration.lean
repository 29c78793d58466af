import ImageFlow.Document.Graph
import ImageFlow.Toml.Reader

/-!
# Configuration

Settings are configured by a document of TOML with the sections `execution` and `scheduler`. What
the document does not say keeps its default, and what it says beyond the known settings does not
matter.
-/

namespace ImageFlow

def Settings.ofToml? (text : String) : Option Settings := do
  Settings.ofDocument? .withoutNull (← Toml.read text)

end ImageFlow
