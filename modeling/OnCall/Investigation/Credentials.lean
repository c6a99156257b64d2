import OnCall.Conclusion.Basic
import OnCall.Dossier
import OnCall.Text.Occurs

/-!
# Revoked cloud credentials

If the cloud account cannot be opened because the customer took our access away, another attempt is
pointless: the cluster is restricted and the alert silenced.

* `ResolutionFailure.showsRevocation`: the failure shows that.
* `Credentials.conclude`: the conclusion for such a cluster.
-/

namespace OnCall

namespace Credentials

/-- The restriction for a cluster whose cloud account we cannot open. -/
def invalid : Restriction.Change where
  summary := "Cluster is in Limited Support due to invalid cloud credentials"
  details :=
    "The platform can no longer access your cloud account because the credentials or roles it " ++
    "uses were removed or altered. Restore them to restore support."
  label := "cloud credentials are invalid"

/-- Parts of what a cloud says when credentials were revoked. -/
def revokedMarkers : List String :=
  ["InvalidClientTokenId", "AccessDenied", "could not assume support role"]

end Credentials

/-- Whether the cloud account could not be opened because the credentials were revoked: a marker
stands somewhere in the failure. -/
def ResolutionFailure.showsRevocation (f : ResolutionFailure) : Bool :=
  f.resource = .cloud && Credentials.revokedMarkers.any fun m => Text.occursIn m f.raw.full

/-- The lines about revoked credentials, added to some notes. -/
def Credentials.notes (f : ResolutionFailure) (notes : Notes) : Notes :=
  (notes.add .warning ("Cloud credentials are invalid: " ++ f.raw.full)).add .automation
    "Setting restriction: cloud credentials are invalid"

/-- The conclusion for a cluster whose credentials were revoked. -/
def Credentials.conclude (f : ResolutionFailure) (notes : Notes) : Conclusion :=
  ((Conclusion.Draft.ofNotes (Credentials.notes f notes)).restrict Credentials.invalid).silence
    "customer revoked cloud credentials"

end OnCall
