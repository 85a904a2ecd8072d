import VolumeReclaim.Ec2.ClientFault
import VolumeReclaim.Json.Shape
import VolumeReclaim.Kubectl.Failure

/-!
Ways in which a run ends early. A missing deadline and a failure of the cluster are fatal. Volumes
that are not deleted are the one partial outcome: their persistent volumes are gone.
-/
set_option autoImplicit false

namespace VolumeReclaim

inductive Failure where
  | general (message : String)
  | missingDeadline (message : String)
  | cluster (message : String) (forbidden : Bool)
  | volumeQuery (volumeId : Json) (message : String)
  | contextDone (message : String)
  | notDeleted (volumeIds : List Json) (cancelled : Bool)
  | kubectl (cause : Kubectl.Failure)
  | client (cause : Ec2.ClientFault)
  | unforeseen (message : String)
  | shape (fault : ShapeFault)
  /-- A loop took more turns than it was given. -/
  | turnLimit
deriving Inhabited

namespace Failure

inductive Kind where
  | general
  | missingDeadline
  | cluster
  | volumeQuery
  | contextDone
  | notDeleted
deriving DecidableEq, Repr

def Kind.all : List Kind :=
  [.general, .missingDeadline, .cluster, .volumeQuery, .contextDone, .notDeleted]

def Kind.name : Kind → String
  | .general => "ReaperError"
  | .missingDeadline => "MissingDeadlineError"
  | .cluster => "ClusterError"
  | .volumeQuery => "VolumeQueryError"
  | .contextDone => "ContextCancelledError"
  | .notDeleted => "VolumesNotDeletedError"

/-- The kinds that a failure of a kind belongs to. All of them are cases of the general one. -/
def Kind.ancestry (kind : Kind) : List Kind :=
  if kind = .general then [.general] else [kind, .general]

def kind? : Failure → Option Kind
  | .general _ => some .general
  | .missingDeadline _ => some .missingDeadline
  | .cluster _ _ => some .cluster
  | .volumeQuery _ _ => some .volumeQuery
  | .contextDone _ => some .contextDone
  | .notDeleted _ _ => some .notDeleted
  | _ => none

def noDeadline : String := "no deadline set on the context passed to cleanup()"

def notDeletedMessage (ids : String) (cancelled : Bool) : String :=
  let reason := if cancelled then "cancelled while waiting" else "deadline surpassed waiting"
  s!"{reason} for AWS EBS volumes to be deleted: {ids}"

/-- The failure of volumes that are not deleted. Their ids have to be texts. -/
def ofRemaining (volumeIds : List Json) (cancelled : Bool) : Failure :=
  match Json.joined ", " volumeIds with
  | .ok _ => .notDeleted volumeIds cancelled
  | .error fault => .shape fault

def message : Failure → String
  | .general message | .missingDeadline message | .cluster message _ | .volumeQuery _ message
  | .contextDone message | .unforeseen message => message
  | .notDeleted volumeIds cancelled =>
    notDeletedMessage (", ".intercalate (volumeIds.map Json.display)) cancelled
  | .kubectl cause => cause.message
  | .client cause => cause.message
  | .shape _ | .turnLimit => ""

end Failure

def shaped {α : Type} : Except ShapeFault α → Except Failure α
  | .ok value => .ok value
  | .error fault => .error (.shape fault)

end VolumeReclaim
