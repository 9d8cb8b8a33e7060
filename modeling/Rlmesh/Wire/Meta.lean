import Mathlib
/-!
# Info maps on the wire (`rlmesh.spaces.v1.MetaMap`)

A `MetaMap` is a tree of named values. Numbers are `f64` in the source; here
they are any type `R` with a zero and an equality test, and nothing is assumed
about either. The two readers the episode accounting uses are `laneFinalInfo`
(`rlmesh_proto::lane_final_info`) and `successFromFinalInfo` (the driver's
`success_from_final_info`).
-/

namespace Rlmesh.Wire

/-- `MetaValue.kind`, with `unset` for an absent kind. -/
inductive MetaValue (R : Type) where
  | unset
  | integer (value : Int)
  | number (value : R)
  | text (value : String)
  | bool (value : Bool)
  | bytes (value : List UInt8)
  | list (items : List (MetaValue R))
  | map (entries : List (String × MetaValue R))
  | null

/-- The entries of a `MetaMap`, keys distinct. -/
abbrev MetaMap (R : Type) := List (String × MetaValue R)

variable {R : Type}

def metaBoolAt (value : MetaValue R) (lane : Nat) : Option Bool :=
  match value with
  | .list items =>
    match items[lane]? with
    | some (.bool flag) => some flag
    | _ => none
  | _ => none

/-- The key is a `_key` mask of another key of the same map. -/
def isMaskKey (info : MetaMap R) (key : String) : Bool :=
  info.any (fun entry => key = "_" ++ entry.1)

/-- The key's `_key` mask, when there is one, marks the lane. -/
def laneSets (info : MetaMap R) (key : String) (lane : Nat) : Bool :=
  match info.lookup ("_" ++ key) with
  | some mask => metaBoolAt mask lane == some true
  | none => true

mutual
/-- One lane of a vector info's value: nested maps are sliced, a per-lane
array gives the lane's entry, anything else is skipped. -/
def laneValue (lane width : Nat) : MetaValue R → Option (MetaValue R)
  | .map entries => some (.map (vectorInfoLane lane width entries entries))
  | .list items => if items.length = width then items[lane]? else none
  | _ => none

/-- `vector_info_lane`, over the entries of `info` still to visit. -/
def vectorInfoLane (lane width : Nat) (info : MetaMap R) : List (String × MetaValue R) → MetaMap R
  | [] => []
  | (key, value) :: rest =>
    match laneValue lane width value with
    | some laned =>
      if isMaskKey info key || !laneSets info key lane then vectorInfoLane lane width info rest
      else (key, laned) :: vectorInfoLane lane width info rest
    | none => vectorInfoLane lane width info rest
end

/-- A completing lane's final info from a step's `infos`, `lane` being its
position among the `width` lanes the step covered. -/
def laneFinalInfo (info : Option (MetaMap R)) (lane width : Nat) : Option (MetaMap R) :=
  match info with
  | none => none
  | some info =>
    match info.lookup "final_info" with
    | none =>
      if width = 1 then some info
      else
        let sliced := vectorInfoLane lane width info info
        if sliced.isEmpty then none else some sliced
    | some finalInfo =>
      let isPresent := match info.lookup "_final_info" with
        | some mask => (metaBoolAt mask lane).getD false
        | none => width = 1
      if isPresent then
        match finalInfo with
        | .map entries => some entries
        | .list items =>
          match items[lane]? with
          | some (.map entries) => some entries
          | _ => none
        | _ => none
      else none

/-- What one info value says about the task outcome: booleans as they are,
numbers by truthiness, any other kind nothing. -/
def outcomeOf [Zero R] [BEq R] : MetaValue R → Option Bool
  | .bool value => some value
  | .integer value => some (value != 0)
  | .number value => some (value != 0)
  | _ => none

/-- The env-reported task outcome: the first of `keys` that decides. -/
def successFromFinalInfo [Zero R] [BEq R] (keys : List String) (finalInfo : Option (MetaMap R)) : Option Bool :=
  match finalInfo with
  | none => none
  | some entries => keys.findSome? (fun key => (entries.lookup key).bind outcomeOf)

end Rlmesh.Wire
