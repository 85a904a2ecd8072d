import VolumeReclaim.Json.Display

/-!
Faults on this side of a request to EC2: no credentials, no region, no connection. The details are
whatever was given for them. The kinds that are told apart have messages of their own; there are
more, and all that is known of one of those is what it says.
-/
set_option autoImplicit false

namespace VolumeReclaim.Ec2

inductive ClientFault where
  | unspecified
  | noCredentials
  | noRegion
  | endpointConnection (url : Json)
  | connectTimeout (url : Json)
  | readTimeout (url : Json)
  | connectionClosed (url : Json)
  | partialCredentials (provider missing : Json)
  | httpClient (error : Json)
  | profileNotFound (profile : Json)
  /-- Any other fault, with what is said of it. -/
  | other (message : String)
deriving Inhabited

def ClientFault.message : ClientFault → String
  | .unspecified => "An unspecified error occurred"
  | .noCredentials => "Unable to locate credentials"
  | .noRegion => "You must specify a region."
  | .endpointConnection url => s!"Could not connect to the endpoint URL: \"{url.display}\""
  | .connectTimeout url => s!"Connect timeout on endpoint URL: \"{url.display}\""
  | .readTimeout url => s!"Read timeout on endpoint URL: \"{url.display}\""
  | .connectionClosed url =>
    "Connection was closed before we received a valid response from endpoint URL: " ++
      s!"\"{url.display}\"."
  | .partialCredentials provider missing =>
    s!"Partial credentials found in {provider.display}, missing: {missing.display}"
  | .httpClient error => s!"An HTTP Client raised an unhandled exception: {error.display}"
  | .profileNotFound profile => s!"The config profile ({profile.display}) could not be found"
  | .other message => message

end VolumeReclaim.Ec2
