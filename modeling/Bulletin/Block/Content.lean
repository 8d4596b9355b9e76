import Bulletin.Json.Record

/-!
# What blocks hold

One record for each kind of block, and for the items of the lists in them.  Every text is optional
and every list may be empty; a record's instance names its fields in the order a list holds them.

The options of a quiz are the one exception among the items: an option is a text, or an object whose
mark must be true, false or left out, and anything else is no option.
-/

namespace Bulletin

/-- The name and logo a newsletter opens with. -/
structure Header where
  logoUrl : Option String
  companyName : Option String
  tagline : Option String
  align : Option String
deriving DecidableEq

instance : Record Header where
  keys := ["logoUrl", "companyName", "tagline", "align"]
  ofMembers ms :=
    { logoUrl := ms.text "logoUrl"
      companyName := ms.text "companyName"
      tagline := ms.text "tagline"
      align := ms.text "align" }

/-- A link to a page on a social network. -/
structure SocialLink where
  platform : Option String
  url : Option String
deriving DecidableEq

instance : Record SocialLink where
  keys := ["platform", "url"]
  ofMembers ms :=
    { platform := ms.text "platform"
      url := ms.text "url" }

/-- The sender's address and links a newsletter ends with. -/
structure Footer where
  companyName : Option String
  address : Option String
  socialLinks : List SocialLink
  contactUrl : Option String
  websiteUrl : Option String
  unsubscribeUrl : Option String
  align : Option String
deriving DecidableEq

instance : Record Footer where
  keys :=
    ["companyName", "address", "socialLinks", "contactUrl", "websiteUrl", "unsubscribeUrl", "align"]
  ofMembers ms :=
    { companyName := ms.text "companyName"
      address := ms.text "address"
      socialLinks := ms.list Record.ofJson? "socialLinks"
      contactUrl := ms.text "contactUrl"
      websiteUrl := ms.text "websiteUrl"
      unsubscribeUrl := ms.text "unsubscribeUrl"
      align := ms.text "align" }

/-- A heading of one of three levels. -/
structure Heading where
  text : Option String
  level : Option String
  align : Option String
deriving DecidableEq

instance : Record Heading where
  keys := ["text", "level", "align"]
  ofMembers ms :=
    { text := ms.text "text"
      level := ms.text "level"
      align := ms.text "align" }

/-- A paragraph of text. -/
structure Paragraph where
  text : Option String
  align : Option String
deriving DecidableEq

instance : Record Paragraph where
  keys := ["text", "align"]
  ofMembers ms :=
    { text := ms.text "text"
      align := ms.text "align" }

/-- A picture, perhaps with a caption or a link. -/
structure Image where
  url : Option String
  alt : Option String
  caption : Option String
  linkUrl : Option String
  align : Option String
deriving DecidableEq

instance : Record Image where
  keys := ["url", "alt", "caption", "linkUrl", "align"]
  ofMembers ms :=
    { url := ms.text "url"
      alt := ms.text "alt"
      caption := ms.text "caption"
      linkUrl := ms.text "linkUrl"
      align := ms.text "align" }

/-- A link drawn as a button. -/
structure Button where
  text : Option String
  url : Option String
  align : Option String
deriving DecidableEq

instance : Record Button where
  keys := ["text", "url", "align"]
  ofMembers ms :=
    { text := ms.text "text"
      url := ms.text "url"
      align := ms.text "align" }

/-- Empty room, of a height in pixels. -/
structure Spacer where
  height : Option Double
deriving DecidableEq

instance : Record Spacer where
  keys := ["height"]
  ofMembers ms :=
    { height := ms.number "height" }

/-- A framed part whose content is HTML and is inserted as it is. -/
structure Compartment where
  title : Option String
  content : Option String
deriving DecidableEq

instance : Record Compartment where
  keys := ["title", "content"]
  ofMembers ms :=
    { title := ms.text "title"
      content := ms.text "content" }

/-- One article at full width. -/
structure FeaturedArticle where
  imageUrl : Option String
  title : Option String
  author : Option String
  date : Option String
  excerpt : Option String
  ctaText : Option String
  ctaUrl : Option String
deriving DecidableEq

instance : Record FeaturedArticle where
  keys := ["imageUrl", "title", "author", "date", "excerpt", "ctaText", "ctaUrl"]
  ofMembers ms :=
    { imageUrl := ms.text "imageUrl"
      title := ms.text "title"
      author := ms.text "author"
      date := ms.text "date"
      excerpt := ms.text "excerpt"
      ctaText := ms.text "ctaText"
      ctaUrl := ms.text "ctaUrl" }

/-- An article among others. -/
structure Article where
  imageUrl : Option String
  title : Option String
  excerpt : Option String
  url : Option String
  linkText : Option String
deriving DecidableEq

instance : Record Article where
  keys := ["imageUrl", "title", "excerpt", "url", "linkText"]
  ofMembers ms :=
    { imageUrl := ms.text "imageUrl"
      title := ms.text "title"
      excerpt := ms.text "excerpt"
      url := ms.text "url"
      linkText := ms.text "linkText" }

/-- Articles side by side. -/
structure ArticleGrid where
  articles : List Article
deriving DecidableEq

instance : Record ArticleGrid where
  keys := ["articles"]
  ofMembers ms :=
    { articles := ms.list Record.ofJson? "articles" }

/-- Something that takes place. -/
structure Event where
  title : Option String
  date : Option String
  time : Option String
  location : Option String
  description : Option String
  url : Option String
deriving DecidableEq

instance : Record Event where
  keys := ["title", "date", "time", "location", "description", "url"]
  ofMembers ms :=
    { title := ms.text "title"
      date := ms.text "date"
      time := ms.text "time"
      location := ms.text "location"
      description := ms.text "description"
      url := ms.text "url" }

/-- A list of events. -/
structure EventCalendar where
  title : Option String
  events : List Event
deriving DecidableEq

instance : Record EventCalendar where
  keys := ["title", "events"]
  ofMembers ms :=
    { title := ms.text "title"
      events := ms.list Record.ofJson? "events" }

/-- A possible answer to a question. -/
structure QuizOption where
  text : String
  /-- Marked as a right answer. -/
  correct : Bool
deriving DecidableEq

namespace QuizOption

/-- A mark, false when it is left out. -/
def mark? : Option Json → Option Bool
  | none => some false
  | some .null => some false
  | some (.bool b) => some b
  | some _ => none

/-- The option a value stands for. -/
def ofJson? : Json → Option QuizOption
  | .string s => some ⟨s, false⟩
  | .object ms =>
    (mark? (ms.lookup "correct")).map fun correct => ⟨(Members.text ms "text").getD "", correct⟩
  | _ => none

end QuizOption

/-- A question with its possible answers. -/
structure QuizQuestion where
  question : Option String
  image : Option String
  options : List QuizOption
  /-- The position of a right answer, beside the options' own marks. -/
  correctAnswer : Option Double
deriving DecidableEq

instance : Record QuizQuestion where
  keys := ["question", "image", "options", "correctAnswer"]
  ofMembers ms :=
    { question := ms.text "question"
      image := ms.text "image"
      options := ms.list QuizOption.ofJson? "options"
      correctAnswer := ms.number "correctAnswer" }

/-- Is the answer at this position right?  The question may say so by position, a fraction being cut
off, or the option itself by its mark. -/
def QuizQuestion.isCorrect (q : QuizQuestion) (i : Nat) : Bool :=
  let byPosition := match q.correctAnswer with
    | some a => a.nonneg && a.whole == i
    | none => false
  let byMark := match q.options[i]? with
    | some option => option.correct
    | none => false
  byPosition || byMark

/-- Questions with a score. -/
structure Quiz where
  title : Option String
  questions : List QuizQuestion
deriving DecidableEq

instance : Record Quiz where
  keys := ["title", "questions"]
  ofMembers ms :=
    { title := ms.text "title"
      questions := ms.list Record.ofJson? "questions" }

/-- A form to subscribe to the newsletter. -/
structure Subscribe where
  title : Option String
  message : Option String
  placeholder : Option String
  buttonText : Option String
  buttonAction : Option String
  align : Option String
deriving DecidableEq

instance : Record Subscribe where
  keys := ["title", "message", "placeholder", "buttonText", "buttonAction", "align"]
  ofMembers ms :=
    { title := ms.text "title"
      message := ms.text "message"
      placeholder := ms.text "placeholder"
      buttonText := ms.text "buttonText"
      buttonAction := ms.text "buttonAction"
      align := ms.text "align" }

/-- What a customer says. -/
structure Testimonial where
  quote : Option String
  imageUrl : Option String
  attribution : Option String
  role : Option String
  company : Option String
  align : Option String
deriving DecidableEq

instance : Record Testimonial where
  keys := ["quote", "imageUrl", "attribution", "role", "company", "align"]
  ofMembers ms :=
    { quote := ms.text "quote"
      imageUrl := ms.text "imageUrl"
      attribution := ms.text "attribution"
      role := ms.text "role"
      company := ms.text "company"
      align := ms.text "align" }

/-- A call to action. -/
structure Banner where
  title : Option String
  content : Option String
  buttonText : Option String
  buttonUrl : Option String
  align : Option String
deriving DecidableEq

instance : Record Banner where
  keys := ["title", "content", "buttonText", "buttonUrl", "align"]
  ofMembers ms :=
    { title := ms.text "title"
      content := ms.text "content"
      buttonText := ms.text "buttonText"
      buttonUrl := ms.text "buttonUrl"
      align := ms.text "align" }

/-- Something for sale. -/
structure Product where
  name : Option String
  imageUrl : Option String
  price : Option String
  discount : Option String
  description : Option String
  link : Option String
deriving DecidableEq

instance : Record Product where
  keys := ["name", "imageUrl", "price", "discount", "description", "link"]
  ofMembers ms :=
    { name := ms.text "name"
      imageUrl := ms.text "imageUrl"
      price := ms.text "price"
      discount := ms.text "discount"
      description := ms.text "description"
      link := ms.text "link" }

/-- Recommended products. -/
structure ProductList where
  title : Option String
  products : List Product
deriving DecidableEq

instance : Record ProductList where
  keys := ["title", "products"]
  ofMembers ms :=
    { title := ms.text "title"
      products := ms.list Record.ofJson? "products" }

/-- A row of links to social networks. -/
structure SocialLinks where
  links : List SocialLink
  align : Option String
deriving DecidableEq

instance : Record SocialLinks where
  keys := ["links", "align"]
  ofMembers ms :=
    { links := ms.list Record.ofJson? "links"
      align := ms.text "align" }

/-- A link to a video, behind its thumbnail. -/
structure Video where
  thumbnailUrl : Option String
  videoUrl : Option String
  title : Option String
  align : Option String
deriving DecidableEq

instance : Record Video where
  keys := ["thumbnailUrl", "videoUrl", "title", "align"]
  ofMembers ms :=
    { thumbnailUrl := ms.text "thumbnailUrl"
      videoUrl := ms.text "videoUrl"
      title := ms.text "title"
      align := ms.text "align" }

end Bulletin
