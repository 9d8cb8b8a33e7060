import Rlmesh.Env.Exclusive
import Rlmesh.Env.FatalErrors
import Rlmesh.Proto.Editions
import Rlmesh.Model.Ordering
import Rlmesh.Runtime.Progress
import Rlmesh.Runtime.Frames
import Rlmesh.Runtime.Evictions
import Rlmesh.Env.EditionPin
import Rlmesh.Env.EnvEpisodes
import Rlmesh.Wire.Stored
import Rlmesh.Wire.SpaceProto
import Rlmesh.Spaces.Drawn
import Rlmesh.Model.Budget
import Rlmesh.Adapters.Fits
import Rlmesh.Adapters.Windows
import Rlmesh.Adapters.PayloadShape
import Rlmesh.Join.Attended
import Rlmesh.Spaces.Scans
import Rlmesh.Spaces.Chains
import Rlmesh.Env.SyncLanes
import Rlmesh.Env.ClientResets
import Rlmesh.Run.StepSequence
import Rlmesh.Runtime.Backlog
import Rlmesh.Cli.Constraint
import Rlmesh.Cli.Quantity
import Rlmesh.Runtime.Relay
