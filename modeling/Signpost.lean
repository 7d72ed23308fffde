import Signpost.Site.Router
import Signpost.Proofs.Router.RouteTree
import Signpost.Proofs.Site.Order
import Signpost.Proofs.Site.Pages
import Signpost.Proofs.Site.Validity
import Signpost.Proofs.Matcher.Alike
import Signpost.Proofs.Router.QueryKeys
import Signpost.Proofs.Router.Exchange
import Signpost.Proofs.Site.Form
import Signpost.Proofs.Site.Gift
import Signpost.Proofs.Cursor.History
import Signpost.Proofs.Router.Malformed
import Signpost.Proofs.Site.Outcome
import Signpost.Proofs.Site.Link
import Signpost.Proofs.Matcher.Alternation
import Signpost.Proofs.Router.RefusedField
import Signpost.Proofs.Conversion.Canonical
import Signpost.Proofs.Router.PathForm
