import Cautical.Basic
import Cautical.Collab
import Cautical.Scan
import Cautical.Semantics
import Cautical.Shrink
import Cautical.Learn
import Cautical.LeastConditionalPart
import Cautical.Schedule
import Cautical.Preprocess
import Cautical.GlobalPreprocess
import Cautical.Limits
import Cautical.ClauseIds
import Cautical.LocalSearch
import Cautical.Probes
import Cautical.SetCover
import Cautical.Enlarge
import Cautical.Propagation
import Cautical.ImpSort
import Cautical.Frame
import Cautical.Runs
import Cautical.Export
import Cautical.Candidates
