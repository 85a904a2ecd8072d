import VolumeReclaim.Failure

/-!
Building the client for EC2: a session for a profile and a region, and from it a client with
bounded waiting and few attempts.
-/
set_option autoImplicit false

namespace VolumeReclaim.Ec2

structure ClientSettings where
  service : String := "ec2"
  connectTimeout : Nat := 10
  readTimeout : Nat := 30
  maxAttempts : Nat := 3
  retryMode : String := "standard"
deriving DecidableEq, Repr

inductive Setup where
  | session (profile region : Json)
  | client (settings : ClientSettings)

/-- Builds a client. Without a region or a profile the surroundings decide. A session that cannot
be made fails the attempt before there is a client. -/
def connect (region profile : Json) (sessionFailure : Option Failure) :
    Except Failure Unit × List Setup :=
  let session := Setup.session profile region
  match sessionFailure with
  | some failure => (.error failure, [session])
  | none => (.ok (), [session, .client {}])

end VolumeReclaim.Ec2
