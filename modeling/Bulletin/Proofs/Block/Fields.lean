import Bulletin.Block.Basic
import Bulletin.Proofs.Block.Alias

/-!
# Records field by field

What a record is made of is a table: the key of every field, how its value is read, and where it is
kept.  A text and a number are read leniently, a list item by item, and nothing that stands under
one key has a say in what is read from another.  So no object is refused as a content, and a field
is as good as its own value, whatever the other values are.

## Main statements

- `readByFields`: objects are read as records field by field, their aliases renamed
- `decoding_field_by_field`: so are the contents of all kinds and the records in their lists
-/

namespace Bulletin

/-- A field of a record: its key, where its value is kept, and for a list how an item is read. -/
inductive Field (α : Type) where
  | text (key : String) (get : α → Option String)
  | number (key : String) (get : α → Option Double)
  | list {β : Type} (key : String) (get : α → List β) (item : Json → Option β)

namespace Field

variable {α : Type}

/-- The key of a field. -/
def key : Field α → String
  | .text key _ => key
  | .number key _ => key
  | .list key _ _ => key

/-- Is a field a list? -/
def isList : Field α → Bool
  | .list _ _ _ => true
  | _ => false

/-- A record's field is what is read from a value, absent or empty when there is none. -/
def Holds (a : α) (value : Option Json) : Field α → Prop
  | .text _ get => get a = value.bind Json.asText?
  | .number _ get => get a = value.bind Json.asNumber?
  | .list _ get item =>
    get a = match value with
      | some v => v.items.filterMap item
      | none => []

/-- Two records have one value in a field. -/
def Agree (a b : α) : Field α → Prop
  | .text _ get => get a = get b
  | .number _ get => get a = get b
  | .list _ get _ => get a = get b

/-- `Holds` determines the field. -/
theorem Holds.agree {f : Field α} {a b : α} {value : Option Json} (ha : f.Holds a value)
    (hb : f.Holds b value) : f.Agree a b := by
  cases f with
  | text key get => exact Eq.trans ha (Eq.symm hb)
  | number key get => exact Eq.trans ha (Eq.symm hb)
  | list key get item => exact Eq.trans ha (Eq.symm hb)

end Field

/-- A type of records with the table of its fields. -/
class Record.Fields (α : Type) [Record α] where
  fields : List (Field α)
  /-- A record is read from an object as the table says. -/
  holds_ofMembers : ∀ ms, ∀ f ∈ fields, f.Holds (Record.ofMembers ms : α) (ms.lookup f.key) := by
    intro ms
    simp only [List.forall_mem_cons, List.not_mem_nil, false_imp_iff, implies_true]
    repeat' constructor
  /-- The table leaves no field out. -/
  ext : ∀ a b : α, (∀ f ∈ fields, f.Agree a b) → a = b := by
    rintro ⟨⟩ ⟨⟩
    simp +contextual [Field.Agree]

open Record (ofJson?)

instance : Record.Fields Header where
  fields := [.text "logoUrl" Header.logoUrl, .text "companyName" Header.companyName,
    .text "tagline" Header.tagline, .text "align" Header.align]

instance : Record.Fields SocialLink where
  fields := [.text "platform" SocialLink.platform, .text "url" SocialLink.url]

instance : Record.Fields Footer where
  fields := [.text "companyName" Footer.companyName, .text "address" Footer.address,
    .list "socialLinks" Footer.socialLinks ofJson?, .text "contactUrl" Footer.contactUrl,
    .text "websiteUrl" Footer.websiteUrl, .text "unsubscribeUrl" Footer.unsubscribeUrl,
    .text "align" Footer.align]

instance : Record.Fields Heading where
  fields := [.text "text" Heading.text, .text "level" Heading.level, .text "align" Heading.align]

instance : Record.Fields Paragraph where
  fields := [.text "text" Paragraph.text, .text "align" Paragraph.align]

instance : Record.Fields Image where
  fields := [.text "url" Image.url, .text "alt" Image.alt, .text "caption" Image.caption,
    .text "linkUrl" Image.linkUrl, .text "align" Image.align]

instance : Record.Fields Button where
  fields := [.text "text" Button.text, .text "url" Button.url, .text "align" Button.align]

instance : Record.Fields Spacer where
  fields := [.number "height" Spacer.height]

instance : Record.Fields Compartment where
  fields := [.text "title" Compartment.title, .text "content" Compartment.content]

instance : Record.Fields FeaturedArticle where
  fields := [.text "imageUrl" FeaturedArticle.imageUrl, .text "title" FeaturedArticle.title,
    .text "author" FeaturedArticle.author, .text "date" FeaturedArticle.date,
    .text "excerpt" FeaturedArticle.excerpt, .text "ctaText" FeaturedArticle.ctaText,
    .text "ctaUrl" FeaturedArticle.ctaUrl]

instance : Record.Fields Article where
  fields := [.text "imageUrl" Article.imageUrl, .text "title" Article.title,
    .text "excerpt" Article.excerpt, .text "url" Article.url, .text "linkText" Article.linkText]

instance : Record.Fields ArticleGrid where
  fields := [.list "articles" ArticleGrid.articles ofJson?]

instance : Record.Fields Event where
  fields := [.text "title" Event.title, .text "date" Event.date, .text "time" Event.time,
    .text "location" Event.location, .text "description" Event.description, .text "url" Event.url]

instance : Record.Fields EventCalendar where
  fields := [.text "title" EventCalendar.title, .list "events" EventCalendar.events ofJson?]

instance : Record.Fields QuizQuestion where
  fields := [.text "question" QuizQuestion.question, .text "image" QuizQuestion.image,
    .list "options" QuizQuestion.options QuizOption.ofJson?,
    .number "correctAnswer" QuizQuestion.correctAnswer]

instance : Record.Fields Quiz where
  fields := [.text "title" Quiz.title, .list "questions" Quiz.questions ofJson?]

instance : Record.Fields Subscribe where
  fields := [.text "title" Subscribe.title, .text "message" Subscribe.message,
    .text "placeholder" Subscribe.placeholder, .text "buttonText" Subscribe.buttonText,
    .text "buttonAction" Subscribe.buttonAction, .text "align" Subscribe.align]

instance : Record.Fields Testimonial where
  fields := [.text "quote" Testimonial.quote, .text "imageUrl" Testimonial.imageUrl,
    .text "attribution" Testimonial.attribution, .text "role" Testimonial.role,
    .text "company" Testimonial.company, .text "align" Testimonial.align]

instance : Record.Fields Banner where
  fields := [.text "title" Banner.title, .text "content" Banner.content,
    .text "buttonText" Banner.buttonText, .text "buttonUrl" Banner.buttonUrl,
    .text "align" Banner.align]

instance : Record.Fields Product where
  fields := [.text "name" Product.name, .text "imageUrl" Product.imageUrl,
    .text "price" Product.price, .text "discount" Product.discount,
    .text "description" Product.description, .text "link" Product.link]

instance : Record.Fields ProductList where
  fields := [.text "title" ProductList.title, .list "products" ProductList.products ofJson?]

instance : Record.Fields SocialLinks where
  fields := [.list "links" SocialLinks.links ofJson?, .text "align" SocialLinks.align]

instance : Record.Fields Video where
  fields := [.text "thumbnailUrl" Video.thumbnailUrl, .text "videoUrl" Video.videoUrl,
    .text "title" Video.title, .text "align" Video.align]

/-- A dividing line holds nothing. -/
instance : Record Unit where
  keys := []
  ofMembers _ := ()

instance : Record.Fields Unit where
  fields := []

/-! ## Reading objects -/

/-- Objects are read as records of a type field by field, their aliases renamed. -/
structure ReadByFields (aliases : List (String × String)) (α : Type) [Record α] [Record.Fields α] :
    Prop where
  /-- No object is refused. -/
  accepted : ∀ ms : Members, ∃ a : α, ofJson? (Json.foldAliases aliases (.object ms)) = some a
  /-- The record is the one whose fields are what is read from the values under their keys. -/
  iff_holds : ∀ (ms : Members) (a : α),
    ofJson? (Json.foldAliases aliases (.object ms)) = some a ↔
    ∀ f ∈ Record.Fields.fields, f.Holds a ((ms.folded aliases).lookup f.key)
  /-- What a field holds depends on the values under its key and the aliases of its key only. -/
  independent : ∀ (ms ms' : Members) (a a' : α),
    ofJson? (Json.foldAliases aliases (.object ms)) = some a →
    ofJson? (Json.foldAliases aliases (.object ms')) = some a' →
    ∀ f ∈ Record.Fields.fields, Members.AgreeAt aliases f.key ms ms' → f.Agree a a'

section Reading

variable {α : Type} [Record α] {aliases : List (String × String)}

/-- `ofJson?` accepts every object. -/
theorem ofJson?_foldAliases (aliases : List (String × String)) (ms : Members) :
    ofJson? (Json.foldAliases aliases (.object ms)) =
      some (Record.ofMembers (ms.folded aliases) : α) := by
  rw [Json.foldAliases_object]
  rfl

variable [Record.Fields α]

/-- `Holds` for all fields determines the record. -/
theorem eq_of_holds {a b : α} {ms : Members}
    (ha : ∀ f ∈ Record.Fields.fields, f.Holds a (ms.lookup f.key))
    (hb : ∀ f ∈ Record.Fields.fields, f.Holds b (ms.lookup f.key)) : a = b := by
  apply Record.Fields.ext
  intro f hf
  exact (ha f hf).agree (hb f hf)

/-- `ofJson?` reads objects field by field, whatever the record is. -/
theorem readByFields (hsep : Members.Separate aliases) : ReadByFields aliases α where
  accepted ms := ⟨_, ofJson?_foldAliases aliases ms⟩
  iff_holds ms a := by
    have hself : ∀ f ∈ Record.Fields.fields,
        f.Holds (Record.ofMembers (ms.folded aliases) : α) ((ms.folded aliases).lookup f.key) :=
      Record.Fields.holds_ofMembers (ms.folded aliases)
    rw [ofJson?_foldAliases, Option.some_inj]
    constructor
    · rintro rfl
      exact hself
    · exact eq_of_holds hself
  independent ms ms' a a' ha ha' f hf hagree := by
    rw [ofJson?_foldAliases, Option.some_inj] at ha ha'
    subst ha ha'
    -- Both records are read as the table says, from one and the same value at this key.
    have hheld := @Record.Fields.holds_ofMembers α _ _ (ms.folded aliases) f hf
    have hheld' := @Record.Fields.holds_ofMembers α _ _ (ms'.folded aliases) f hf
    rw [Members.lookup_folded_congr hsep hagree] at hheld
    exact hheld.agree hheld'

end Reading

/-- If a field is a list, it holds records: every item of the source is read on its own, its aliases
renamed, and an item that is an object is read field by field. -/
def Field.IsRecordList {α : Type} [Record α] (aliases : List (String × String)) :
    Field α → Prop
  | .text _ _ => True
  | .number _ _ => True
  | @Field.list _ β key get _ =>
    ∃ (_ : Record β) (_ : Record.Fields β), ReadByFields aliases β ∧
      ∀ (ms : Members) (a : α), ofJson? (Json.foldAliases aliases (.object ms)) = some a →
        get a = ((ms.lookup key).elim [] Json.items).filterMap fun item =>
          ofJson? (item.foldAliases aliases)

/-! ## Kinds -/

/-- The records that a kind's content holds. -/
def Kind.Held : Kind → Type
  | .header => Header
  | .footer => Footer
  | .heading => Heading
  | .paragraph => Paragraph
  | .image => Image
  | .button => Button
  | .divider => Unit
  | .spacer => Spacer
  | .compartment => Compartment
  | .featuredArticle => FeaturedArticle
  | .articleGrid => ArticleGrid
  | .eventCalendar => EventCalendar
  | .quiz => Quiz
  | .subscribe => Subscribe
  | .testimonial => Testimonial
  | .banner => Banner
  | .products => ProductList
  | .socialLinks => SocialLinks
  | .video => Video

instance Kind.recordHeld (kind : Kind) : Record kind.Held :=
  match kind with
  | .header => inferInstanceAs (Record Header)
  | .footer => inferInstanceAs (Record Footer)
  | .heading => inferInstanceAs (Record Heading)
  | .paragraph => inferInstanceAs (Record Paragraph)
  | .image => inferInstanceAs (Record Image)
  | .button => inferInstanceAs (Record Button)
  | .divider => inferInstanceAs (Record Unit)
  | .spacer => inferInstanceAs (Record Spacer)
  | .compartment => inferInstanceAs (Record Compartment)
  | .featuredArticle => inferInstanceAs (Record FeaturedArticle)
  | .articleGrid => inferInstanceAs (Record ArticleGrid)
  | .eventCalendar => inferInstanceAs (Record EventCalendar)
  | .quiz => inferInstanceAs (Record Quiz)
  | .subscribe => inferInstanceAs (Record Subscribe)
  | .testimonial => inferInstanceAs (Record Testimonial)
  | .banner => inferInstanceAs (Record Banner)
  | .products => inferInstanceAs (Record ProductList)
  | .socialLinks => inferInstanceAs (Record SocialLinks)
  | .video => inferInstanceAs (Record Video)

instance Kind.fieldsHeld (kind : Kind) : Record.Fields kind.Held :=
  match kind with
  | .header => inferInstanceAs (Record.Fields Header)
  | .footer => inferInstanceAs (Record.Fields Footer)
  | .heading => inferInstanceAs (Record.Fields Heading)
  | .paragraph => inferInstanceAs (Record.Fields Paragraph)
  | .image => inferInstanceAs (Record.Fields Image)
  | .button => inferInstanceAs (Record.Fields Button)
  | .divider => inferInstanceAs (Record.Fields Unit)
  | .spacer => inferInstanceAs (Record.Fields Spacer)
  | .compartment => inferInstanceAs (Record.Fields Compartment)
  | .featuredArticle => inferInstanceAs (Record.Fields FeaturedArticle)
  | .articleGrid => inferInstanceAs (Record.Fields ArticleGrid)
  | .eventCalendar => inferInstanceAs (Record.Fields EventCalendar)
  | .quiz => inferInstanceAs (Record.Fields Quiz)
  | .subscribe => inferInstanceAs (Record.Fields Subscribe)
  | .testimonial => inferInstanceAs (Record.Fields Testimonial)
  | .banner => inferInstanceAs (Record.Fields Banner)
  | .products => inferInstanceAs (Record.Fields ProductList)
  | .socialLinks => inferInstanceAs (Record.Fields SocialLinks)
  | .video => inferInstanceAs (Record.Fields Video)

/-- The content of a kind that holds a record. -/
def Content.ofHeld : (kind : Kind) → kind.Held → Content
  | .header, c => .header c
  | .footer, c => .footer c
  | .heading, c => .heading c
  | .paragraph, c => .paragraph c
  | .image, c => .image c
  | .button, c => .button c
  | .divider, _ => .divider
  | .spacer, c => .spacer c
  | .compartment, c => .compartment c
  | .featuredArticle, c => .featuredArticle c
  | .articleGrid, c => .articleGrid c
  | .eventCalendar, c => .eventCalendar c
  | .quiz, c => .quiz c
  | .subscribe, c => .subscribe c
  | .testimonial, c => .testimonial c
  | .banner, c => .banner c
  | .products, c => .products c
  | .socialLinks, c => .socialLinks c
  | .video, c => .video c

/-- `ofKind` is `ofHeld` of the decoded record. -/
theorem Content.ofKind_eq_ofHeld (kind : Kind) (value : Json) :
    ofKind kind value = ofHeld kind (decode kind value) := by
  cases kind <;> rfl

/-- `ofTag` reads an object as the content of its kind that holds the record it is read as. -/
theorem Content.ofTag_object {kind : Kind} {ms : Members} {r : kind.Held}
    (h : ofJson? (Json.foldAliases kind.aliases (.object ms)) = some r) :
    ofTag kind.tag (.object ms) = ofHeld kind r := by
  have hkind : ofTag kind.tag (.object ms) = ofKind kind (.object ms) := by
    rw [ofTag, Kind.ofTag?_tag]
  rw [hkind, ofKind_eq_ofHeld, decode, h, Option.getD_some]

section Lists

variable {α β : Type} [Record α] [Record.Fields α] [Record β] [Record.Fields β]
  {aliases : List (String × String)}

/-- A list of records under a key that has no alias is read item by item. -/
theorem isRecordList_list (hsep : Members.Separate aliases) {key : String} {get : α → List β}
    (hfield : Field.list key get ofJson? ∈ Record.Fields.fields)
    (hkey : ∀ entry ∈ aliases, key ≠ entry.1 ∧ key ≠ entry.2) :
    (Field.list key get ofJson?).IsRecordList aliases := by
  refine ⟨inferInstance, inferInstance, readByFields hsep, ?_⟩
  intro ms a ha
  have hheld : get a = match (ms.folded aliases).lookup key with
      | some v => v.items.filterMap ofJson?
      | none => [] := ((readByFields hsep).iff_holds ms a).1 ha _ hfield
  rw [hheld, Members.lookup_folded_of_forall_ne hkey]
  -- The items of the folded list are the items of the list, folded.
  cases ms.lookup key with
  | none => rfl
  | some v =>
    simp only [Option.map_some, Option.elim_some, Json.items_foldAliases, List.filterMap_map]
    rfl

omit [Record.Fields α] in
/-- `IsRecordList` says nothing of a field that is no list. -/
theorem Field.isRecordList_of_isList_eq_false {f : Field α} (h : f.isList = false) :
    f.IsRecordList aliases := by
  cases f with
  | text key get => trivial
  | number key get => trivial
  | list key get item => simp [isList] at h

/-- `IsRecordList` holds for the fields of a record without lists. -/
theorem isRecordList_of_filter_eq_nil
    (h : (Record.Fields.fields : List (Field α)).filter Field.isList = []) :
    ∀ f ∈ (Record.Fields.fields : List (Field α)), f.IsRecordList aliases := by
  intro f hf
  apply Field.isRecordList_of_isList_eq_false
  simpa using List.filter_eq_nil_iff.1 h f hf

/-- `IsRecordList` holds for the fields of a record with one list of records. -/
theorem isRecordList_of_filter_eq_singleton (hsep : Members.Separate aliases) (key : String)
    (get : α → List β)
    (h : (Record.Fields.fields : List (Field α)).filter Field.isList = [.list key get ofJson?])
    (hkey : ∀ entry ∈ aliases, key ≠ entry.1 ∧ key ≠ entry.2) :
    ∀ f ∈ (Record.Fields.fields : List (Field α)), f.IsRecordList aliases := by
  intro f hf
  cases hlist : f.isList with
  | false => exact Field.isRecordList_of_isList_eq_false hlist
  | true =>
    have hmem : f ∈ [Field.list key get ofJson?] := by
      rw [← h]
      exact List.mem_filter.2 ⟨hf, hlist⟩
    -- The filter keeps one field only, so this is the one.
    have hfield : f ∈ Record.Fields.fields := hf
    obtain rfl := List.mem_singleton.1 hmem
    exact isRecordList_list hsep hfield hkey

end Lists

/-- `IsRecordList` holds for the fields of every kind's content. -/
theorem Kind.isRecordList_of_mem_fields (kind : Kind) :
    ∀ f ∈ (Record.Fields.fields : List (Field kind.Held)), f.IsRecordList kind.aliases := by
  have hsep := kind.separate_aliases
  -- Six kinds have a list, each under a key that its aliases do not name.
  cases kind with
  | footer =>
    exact isRecordList_of_filter_eq_singleton hsep "socialLinks" Footer.socialLinks rfl (by decide)
  | articleGrid =>
    exact isRecordList_of_filter_eq_singleton hsep "articles" ArticleGrid.articles rfl (by decide)
  | eventCalendar =>
    exact isRecordList_of_filter_eq_singleton hsep "events" EventCalendar.events rfl (by decide)
  | quiz =>
    exact isRecordList_of_filter_eq_singleton hsep "questions" Quiz.questions rfl (by decide)
  | products =>
    exact isRecordList_of_filter_eq_singleton hsep "products" ProductList.products rfl (by decide)
  | socialLinks =>
    exact isRecordList_of_filter_eq_singleton hsep "links" SocialLinks.links rfl (by decide)
  | _ => exact isRecordList_of_filter_eq_nil rfl

/-- `ofTag` never refuses an object as the content of a kind.  Its fields are read from the values
under their keys, aliases renamed, each for itself, and so are those of the records in its lists. -/
theorem decoding_field_by_field (kind : Kind) :
    (∀ ms : Members, ∃ r : kind.Held,
      ofJson? (Json.foldAliases kind.aliases (.object ms)) = some r ∧
        Content.ofTag kind.tag (.object ms) = Content.ofHeld kind r) ∧
    ReadByFields kind.aliases kind.Held ∧
    ∀ f ∈ (Record.Fields.fields : List (Field kind.Held)), f.IsRecordList kind.aliases := by
  have hread : ReadByFields kind.aliases kind.Held := readByFields kind.separate_aliases
  refine ⟨?_, hread, kind.isRecordList_of_mem_fields⟩
  intro ms
  obtain ⟨r, hr⟩ := hread.accepted ms
  exact ⟨r, hr, Content.ofTag_object hr⟩

/-- The attribution of a testimonial is read from its alias, and neither a list for the quote nor a
mark for the role has a say in it; the articles of a grid are read one by one. -/
theorem decoding_field_by_field_attribution :
    let attribution : Field (Kind.Held .testimonial) := .text "attribution" Testimonial.attribution
    let quoted : Members := [("author", .string "Ann"), ("quote", .array [.null])]
    let titled : Members := [("role", .bool true), ("author", .string "Ann"), ("quote", .null)]
    let aliases := Kind.aliases .testimonial
    let a : Testimonial := ⟨none, none, some "Ann", none, none, none⟩
    let a' : Testimonial := ⟨none, none, some "Ann", some "true", none, none⟩
    let articles : Field (Kind.Held .articleGrid) := .list "articles" ArticleGrid.articles ofJson?
    (attribution ∈ Record.Fields.fields ∧ Members.AgreeAt aliases attribution.key quoted titled ∧
      ofJson? (Json.foldAliases aliases (.object quoted)) = some a ∧
      ofJson? (Json.foldAliases aliases (.object titled)) = some a') ∧
    attribution.Agree a a' ∧
    articles ∈ Record.Fields.fields ∧ articles.IsRecordList (Kind.aliases .articleGrid) := by
  intro attribution quoted titled aliases a a' articles
  have hattribution : attribution ∈ Record.Fields.fields := by
    iterate 2 apply List.mem_cons_of_mem
    exact List.mem_cons_self
  -- Neither of the two objects differs at the key or its alias.
  have hagree : Members.AgreeAt aliases attribution.key quoted titled := by
    refine ⟨rfl, ?_⟩
    intro entry hentry hkey
    obtain rfl | rfl : entry = ("image", "imageUrl") ∨ entry = ("author", "attribution") := by
      simpa [aliases, Kind.aliases] using hentry
    · rfl
    · rfl
  have hread : ofJson? (Json.foldAliases aliases (.object quoted)) = some a := by rfl
  have hread' : ofJson? (Json.foldAliases aliases (.object titled)) = some a' := by rfl
  have harticles : articles ∈ Record.Fields.fields := List.mem_cons_self
  obtain ⟨-, htestimonial, -⟩ := decoding_field_by_field .testimonial
  obtain ⟨-, -, hgrid⟩ := decoding_field_by_field .articleGrid
  exact ⟨⟨hattribution, hagree, hread, hread'⟩,
    htestimonial.independent quoted titled a a' hread hread' attribution hattribution hagree,
    harticles, hgrid articles harticles⟩

end Bulletin
