import FederatedLogin.Account.Link
import FederatedLogin.Account.Onboarding
import FederatedLogin.Backend.Basic
import FederatedLogin.Session.Redis
import FederatedLogin.Settings.Sources
import FederatedLogin.Url.Form
import FederatedLogin.Web.Router
import FederatedLogin.Proofs.Account.Alone
import FederatedLogin.Proofs.Account.Attempts
import FederatedLogin.Proofs.Account.Overlap
import FederatedLogin.Proofs.Account.Opening
import FederatedLogin.Proofs.Account.Tokens
import FederatedLogin.Proofs.Account.Transaction
import FederatedLogin.Proofs.Web.Logout
import FederatedLogin.Proofs.Web.Secrecy
import FederatedLogin.Proofs.Web.Usable
import FederatedLogin.Proofs.Provider.RefreshTokens
import FederatedLogin.Proofs.Session.Blob
import FederatedLogin.Proofs.Session.Refused
import FederatedLogin.Proofs.Session.Regrouping
import FederatedLogin.Proofs.Web.Admission
import FederatedLogin.Proofs.Provider.Addresses
import FederatedLogin.Proofs.Provider.Registry
import FederatedLogin.Proofs.Settings.Documents
import FederatedLogin.Proofs.Settings.Fitting
import FederatedLogin.Proofs.Settings.Sections
import FederatedLogin.Proofs.Settings.Precedence
import FederatedLogin.Proofs.Settings.Credentials
import FederatedLogin.Proofs.Time.Calendar
import FederatedLogin.Proofs.Time.Rfc3339
import FederatedLogin.Proofs.Account.PublicForm
import FederatedLogin.Proofs.Url.Form
import FederatedLogin.Backend.Remote
import FederatedLogin.Proofs.Provider.Sending
import FederatedLogin.Proofs.Session.Remote
import FederatedLogin.Proofs.Session.Interchange
