import Flextool.Lib.Strings
import Flextool.Lib.Lifetime
import Flextool.Lib.Loops
import Flextool.Lib.Paths
import Flextool.Lib.Proc
import Flextool.Lib.Triple
import Flextool.Lib.Checks
import Flextool.Lib.Custody
import Flextool.Lib.Store
import Flextool.Base
import Flextool.ClangUtil
import Flextool.ClangUtilProof
import Flextool.Forwarding
import Flextool.ArgumentText
import Flextool.ClingEnvironment
import Flextool.ClingAgreement
import Flextool.SaveFile
import Flextool.SaveFileProof
import Flextool.GeneratedNames
import Flextool.Generation
import Flextool.CmdEnvironment
import Flextool.ClangEnvironment
import Flextool.BuildPath
import Flextool.Application
import Flextool.Main
import Flextool.MainProof
import Flextool.Observed
import Flextool.Lifetimes
import Flextool.ExitStatus
import Flextool.SourcePaths
import Flextool.Outputs
import Flextool.Progress
import Flextool.Invocation
import Flextool.Protocol
import Flextool.Runs
import Flextool.Streams
import Flextool.Outcome
import Flextool.Messages
import Flextool.Reruns
import Flextool.Builds
