import GateNav.Toml.Format
import GateNav.Toml.Reader
import GateNav.Toml.Writer

/-!
# The standard format

Settings are kept as TOML unless another format is given.
-/

namespace GateNav

instance : Toml.Format := ⟨Toml.parse?, Toml.render?⟩

end GateNav
