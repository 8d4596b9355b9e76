import Bulletin.Fragment.Draw

/-!
# Options of a rendering

What an author chooses for a document besides its template.
-/

namespace Bulletin

/-- The choices for one document. -/
structure RenderOptions where
  title : String
  /-- The hidden text that a mailbox shows beside the title. -/
  preheader : Option String
  /-- The width of the content in pixels; zero asks for the usual one. -/
  containerWidth : Nat
  includeScripts : Bool
  /-- The year of the copyright line, the current one if it is left open. -/
  copyrightYear : Option Int
deriving DecidableEq

namespace RenderOptions

/-- The usual width. -/
def defaultWidth : Nat := 600

/-- The options of an author who chooses nothing. -/
def standard : RenderOptions := ⟨"Newsletter", none, defaultWidth, true, none⟩

/-- The width of the content. -/
def width (o : RenderOptions) : Nat :=
  if o.containerWidth = 0 then defaultWidth else o.containerWidth

/-- The year of the copyright line, given the current one. -/
def year (o : RenderOptions) (currentYear : Int) : Int := o.copyrightYear.getD currentYear

/-- What the options mean for drawing blocks. -/
def context (o : RenderOptions) (currentYear : Int) : RenderContext :=
  ⟨o.year currentYear, o.includeScripts⟩

end RenderOptions

end Bulletin
