import Credentials.Main
import Credentials.Proofs.Login.Answer
import Credentials.Proofs.Email.Link
import Credentials.Proofs.SigningKey
import Credentials.Proofs.Token.Issuing
import Credentials.Proofs.Startup
import Credentials.Proofs.Token.Unsigned
import Credentials.Proofs.Token.Renewal
import Credentials.Proofs.Token.Authorization
import Credentials.Proofs.Program.Inspection
import Credentials.Proofs.Password.Ceiling
import Credentials.Proofs.Password.Ranges
import Credentials.Proofs.Token.ClaimSet
import Credentials.Proofs.Claim.Merging
import Credentials.Proofs.Interchange.IssuedToken
import Credentials.Proofs.EntityId.Spelling
import Credentials.Proofs.Login.Events
import Credentials.Proofs.Program.Ending
import Credentials.Proofs.Token.Refresh
