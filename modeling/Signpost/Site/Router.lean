import Signpost.Router
import Signpost.Site.Tree

/-!
# The router of the site

* `Site.router` is made of a base url, `Site.routerOfEnvironment` of the value of the variable
  `Site.baseUrlVariable`.
-/

namespace Signpost.Site

/-- The environment variable that holds the base url. -/
def baseUrlVariable : String := "SITE_BASE_URL"

/-- The router of the site with a base url. -/
def router (base : String) (names : Url.NameReading := Url.asciiName?) :
    Except ConfigError (Router Route) :=
  Router.build tree base names

/-- The router of the site with the base url of the environment, if it is set. -/
def routerOfEnvironment (value : Option String) (names : Url.NameReading := Url.asciiName?) :
    Except ConfigError (Router Route) :=
  router (value.getD Router.defaultBase) names

end Signpost.Site
