import OwlAuth.Custody.Envelopes
import OwlAuth.Config.Accepted
import OwlAuth.Webhook.Destination
import OwlAuth.Identity.Methods
import OwlAuth.System.Verification
import OwlAuth.System.SigningOperations
import OwlAuth.System.Sealed
import OwlAuth.System.WebhookSecrets
import OwlAuth.System.Unlinks
import OwlAuth.Mutation.Evidence
import OwlAuth.System.AccountPrivacy
import OwlAuth.System.BrowserLogouts
import OwlAuth.System.ManagedRevocations
import OwlAuth.System.Reauthorizations
import OwlAuth.Login.Redirects
import OwlAuth.Session.Credentials
import OwlAuth.Managed.Scopes
