import Bulletin.Fragment.Articles
import Bulletin.Fragment.Calendar
import Bulletin.Fragment.Campaign
import Bulletin.Fragment.Masthead
import Bulletin.Fragment.Media
import Bulletin.Fragment.Prose
import Bulletin.Fragment.Scope

/-!
# Drawing blocks

A block of a known kind is drawn as one envelope around the content of its kind; a block of an
unknown kind is not drawn at all.  Drawing cannot fail.
-/

namespace Bulletin

/-- What drawing needs to know besides the block and the theme. -/
structure RenderContext where
  /-- The year of the copyright line. -/
  year : Int
  /-- Whether quizzes come with their script. -/
  scripts : Bool
deriving DecidableEq

namespace Content

open Fragment Html in
/-- What stands in the envelope of a block. -/
def body (c : Content) (s : Resolved) (ctx : RenderContext) (scope : String) : List Node :=
  match c with
  | .header c => Fragment.header c s
  | .footer c => Fragment.footer c s ctx.year
  | .heading c => Fragment.heading c
  | .paragraph c => Fragment.paragraph c
  | .image c => Fragment.image c s
  | .button c => Fragment.buttonBlock c s
  | .divider => Fragment.divider s
  | .spacer c => Fragment.spacer c
  | .compartment c => Fragment.compartment c s
  | .featuredArticle c => Fragment.featuredArticle c s
  | .articleGrid c => Fragment.articleGrid c s
  | .eventCalendar c => Fragment.eventCalendar c s
  | .quiz c => Fragment.quiz scope c s ctx.scripts
  | .subscribe c => Fragment.subscribe c s
  | .testimonial c => Fragment.testimonial c s
  | .banner c => Fragment.banner c s
  | .products c => Fragment.productList c s
  | .socialLinks c => Fragment.socialLinks c s
  | .video c => Fragment.video c s
  | .unknown _ => []

end Content

namespace Block

/-- The style a block of some kind is drawn in. -/
def resolved (b : Block) (kind : Kind) (theme : Theme) : Resolved :=
  resolve b.style b.content.align? theme kind.defaults

/-- A block as HTML, a quiz with the given scope. -/
def draw (b : Block) (theme : Theme) (ctx : RenderContext) (scope : String) : List Html.Node :=
  match b.content.kind? with
  | some kind =>
    let s := b.resolved kind theme
    [Fragment.envelope kind s (b.content.body s ctx scope)]
  | none => []

/-- The HTML of a block with the given scope. -/
def renderScoped (b : Block) (theme : Theme) (ctx : RenderContext) (scope : String) : String :=
  Html.Node.html (b.draw theme ctx scope)

/-- The HTML of a block that stands alone. -/
def render (b : Block) (theme : Theme) (ctx : RenderContext) : String :=
  b.renderScoped theme ctx (Fragment.scopeOf b.id)

end Block

/-- The HTML of each block of a newsletter. -/
def renderBlocks (bs : List Block) (theme : Theme) (ctx : RenderContext) : List String :=
  List.zipWith (fun b scope => b.renderScoped theme ctx scope) bs (Fragment.scopes [] bs)

end Bulletin
