import Rlmesh.Env.Client
import Rlmesh.Env.LaneRequests
/-!
# Client resets against a lane endpoint (`rlmesh/src/env/client.rs`, `wire.rs`)

A reset from end to end: the client's request, the endpoint's fan-out and reply,
the client's decoding. The server encodes one row for each lane it covered; the
client decodes as many rows as the endpoint has lanes, whatever it asked for.
-/
open Rlmesh.Lib Rlmesh.Spaces Rlmesh.Wire

set_option linter.unusedSectionVars false

namespace Rlmesh.Env

section Resets

variable {B Id R : Type} [BoxBounds B] [Zero R] [Add R] [BEq R] [Inhabited Id]

/-- The client's codec for the values of a space. -/
def slabCodec (space : SpaceSpec B) : Codec SpaceValue where
  encode values := (encodeLeafSlab values space).mapError (·.toString)
  decode payload n := (decodeBatchedPartialValues payload space n).mapError (·.toString)

theorem callerLane_ok {index : Int} {lane : Nat} (h : callerLane index = .ok lane) : (lane : Int) = index := by
  unfold callerLane wireLane at h
  split at h
  · cases h
  split at h
  · cases h
    omega
  · cases h

theorem EnvClientCore.reset_request {minter : Minter Id} {client client' : EnvClientCore Id}
    {req : VectorResetRequest R} {request : ResetRequest Id R} (h : client.reset minter req = .ok (client', request)) :
    request.envIndices.map Nat.cast = req.envIndices ∧ client'.numEnvs = client.numEnvs := by
  unfold EnvClientCore.reset at h
  obtain ⟨_, -, h⟩ := bind_ok.1 h
  obtain ⟨lanes, hlanes, h⟩ := bind_ok.1 h
  cases h
  refine ⟨?_, rfl⟩
  show lanes.map Nat.cast = req.envIndices
  have hcast : List.Forall₂ (fun index lane => index = Nat.cast lane) req.envIndices lanes :=
    (mapM_ok.1 hlanes).imp (fun _ _ hlane => (callerLane_ok hlane).symm)
  exact (List.forall₂_eq_eq_eq ▸ List.forall₂_map_right_iff.2 hcast).symm

end Resets

/-- A client of the two-lane endpoint, and a reset of some of its lanes. -/
def duoClient : EnvClientCore Nat := .connect 2 .disabled "duo"

def resetOf (lanes : List Int) : VectorResetRequest Int :=
  { seeds := [], options := none, timeoutMs := 0, envIndices := lanes }

end Rlmesh.Env
