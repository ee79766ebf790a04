import Bookclerk.Naming.Parse

namespace Bookclerk.Naming

open Str

structure NamingContext where
  asin : Str := []
  title : Str := []
  subtitle : Option Str := none
  authors : Option Str := none
  narrators : Option Str := none
  series : Option Str := none
  seriesIndex : Option Str := none
  seriesAsin : Option Str := none
  yearPublished : Option Int := none
  accountId : Option Str := none
  accountNickname : Option Str := none
  locale : Option Str := none
  language : Option Str := none
  publisher : Option Str := none
  categories : Option Str := none
  lengthMinutes : Option Int := none
  bitrate : Option Int := none
  samplerate : Option Int := none
  channels : Option Int := none
  codec : Option Str := none
  isAbridged : Bool := false
  contentKind : Option Str := none
  chapterNumber : Option Nat := none
  chapterCount : Option Nat := none
  chapterTitle : Option Str := none

structure Contributor where
  name : Str
  id : Option Str := none

structure Series where
  name : Str
  order : Option Str
  id : Option Str

inductive ContentKind where
  | book
  | episode
  | podcast
  | podcastParent
deriving DecidableEq

structure BookContext where
  isbn : Str := []
  title : Option Str := none
  subtitle : Option Str := none
  titleWithSubtitle : Option Str := none
  authors : List Contributor := []
  narrators : List Contributor := []
  series : List Series := []
  tags : List Str := []
  account : Option Str := none
  accountNickname : Option Str := none
  locale : Option Str := none
  language : Option Str := none
  yearPublished : Option Int := none
  publishedAt : Option Int := none
  purchasedAt : Option Int := none
  fileDate : Option Int := none
  lengthMinutes : Option Int := none
  bitrate : Option Int := none
  samplerate : Option Int := none
  channels : Option Int := none
  codec : Option Str := none
  isAbridged : Bool := false
  contentKind : ContentKind := .book
  publisher : Option Str := none
  categories : List Str := []
  bookclerkVersion : Option Str := none
  fileVersion : Option Str := none

namespace BookContext

def fullTitle (book : BookContext) : Option Str :=
  book.titleWithSubtitle.or book.title

def titleShort (book : BookContext) : Option Str :=
  book.title.map fun title => title.takeWhile (· != ':')

def isSeries (book : BookContext) : Bool :=
  !book.series.isEmpty

def isPodcast (book : BookContext) : Bool :=
  book.contentKind matches .podcast | .podcastParent | .episode

def isPodcastParent (book : BookContext) : Bool :=
  book.contentKind matches .podcastParent | .podcast

end BookContext

structure ChapterContext where
  chapterNumber : Nat
  chapterCount : Nat
  chapterTitle : Option Str
  fileDate : Option Int

def splitList (joined : Option Str) : List Str :=
  (joined.elim [] fun s => (split ',' s).map trim).filter (· ≠ [])

def splitNames (joined : Option Str) : List Contributor :=
  (splitList joined).map fun name => { name }

def mapContentKind (kind : Option Str) : ContentKind :=
  match kind with
  | none => .book
  | some k =>
    let k := toAsciiLowercase k
    if k = "episode".toList then .episode
    else if k ∈ ["podcast", "parent", "podcastparent", "podcast_parent", "season"].map String.toList then .podcastParent
    else .book

def titleWithSubtitle (title : Str) (subtitle : Option Str) : Str :=
  match subtitle with
  | some sub => if trim sub ≠ [] then title ++ ": ".toList ++ sub else title
  | none => title

def bookSeries (ctx : NamingContext) : List Series :=
  let order := if mapContentKind ctx.contentKind = .podcastParent then none else ctx.seriesIndex.filter (· ≠ [])
  [{ name := ctx.series.getD [], order, id := ctx.seriesAsin }].filter fun s => s.name ≠ [] || s.id.isSome

def toBookContext (ctx : NamingContext) : BookContext where
  isbn := ctx.asin
  title := some ctx.title
  subtitle := ctx.subtitle
  titleWithSubtitle := some (titleWithSubtitle ctx.title ctx.subtitle)
  authors := splitNames ctx.authors
  narrators := splitNames ctx.narrators
  series := bookSeries ctx
  account := ctx.accountId
  accountNickname := ctx.accountNickname
  locale := ctx.locale
  language := ctx.language
  yearPublished := ctx.yearPublished
  publisher := ctx.publisher
  categories := splitList ctx.categories
  lengthMinutes := ctx.lengthMinutes
  bitrate := ctx.bitrate
  samplerate := ctx.samplerate
  channels := ctx.channels
  codec := ctx.codec
  isAbridged := ctx.isAbridged
  contentKind := mapContentKind ctx.contentKind

def toChapterContext (ctx : NamingContext) : Option ChapterContext :=
  ctx.chapterNumber.map fun chapterNumber =>
    { chapterNumber, chapterCount := ctx.chapterCount.getD 0, chapterTitle := ctx.chapterTitle, fileDate := none }

structure Formatters where
  text : Str → Str → Str
  number : Int → Str → Str
  wideNumber : Int → Str
  minutes : Int → Str
  date : Int → Option Str → Str
  name : Contributor → Option Str → Str
  nameList : List Contributor → Option Str → Str
  seriesName : Series → Option Str → Str
  seriesList : List Series → Option Str → Str
  seriesOrder : Option Str → Option Str → Str
  strings : List Str → Option Str → Str
  check : Cond → BookContext → Option ChapterContext → Bool

structure TemplatePart where
  value : Str
  isLiteral : Bool

def decimal (n : Nat) : Str :=
  Nat.toDigits 10 n

def integer (n : Int) : Str :=
  if n < 0 then '-' :: decimal n.natAbs else decimal n.natAbs

def digits (n : Nat) : Nat :=
  (decimal n).length

def padZeros (width : Nat) (s : Str) : Str :=
  List.replicate (width - s.length) '0' ++ s

namespace Formatters

variable (F : Formatters)

def stringFormatter (value : Str) (format : Option Str) : Str :=
  match format with
  | none => value
  | some f => if value = [] ∨ trim f = [] then value else F.text value f

def floatFormatter (value : Int) (format : Option Str) : Str :=
  match format with
  | none => if value.natAbs < 10 ^ 15 then integer value else F.wideNumber value
  | some f => F.number value f

def evalDisplay (tag : Tag) (format : Option Str) (book : BookContext) (chapter : Option ChapterContext) : Str :=
  let s (value : Option Str) := value.elim [] fun v => F.stringFormatter v format
  let n (value : Option Int) := value.elim [] fun v => F.floatFormatter v format
  let d (value : Option Int) := value.elim [] fun v => F.date v format
  match tag with
  | .id => book.isbn
  | .title => s book.fullTitle
  | .titleShort => s book.titleShort
  | .audibleTitle => s book.title
  | .audibleSubtitle => s book.subtitle
  | .author => F.nameList book.authors format
  | .narrator => F.nameList book.narrators format
  | .firstAuthor => book.authors.head?.elim [] fun c => F.name c format
  | .firstNarrator => book.narrators.head?.elim [] fun c => F.name c format
  | .series => F.seriesList book.series format
  | .firstSeries => book.series.head?.elim [] fun x => F.seriesName x format
  | .seriesNumber => book.series.head?.elim [] fun x => F.seriesOrder x.order format
  | .minutes => book.lengthMinutes.elim [] F.minutes
  | .bitrate => n book.bitrate
  | .samplerate => n book.samplerate
  | .channels => n book.channels
  | .codec => s book.codec
  | .publisher => s book.publisher
  | .categories => F.strings book.categories format
  | .fileVersion => s book.fileVersion
  | .bookclerkVersion => s book.bookclerkVersion
  | .account => s book.account
  | .accountNickname => s book.accountNickname
  | .tag => F.strings book.tags format
  | .firstTag => s book.tags.head?
  | .locale => s book.locale
  | .year => n book.yearPublished
  | .language => s book.language
  | .languageShort => book.language.elim [] fun l => F.stringFormatter l (some "3u".toList)
  | .fileDate => d ((chapter.bind (·.fileDate)).or book.fileDate)
  | .pubDate => d book.publishedAt
  | .dateAdded => d book.purchasedAt
  | .chCount => n (chapter.map fun c => c.chapterCount)
  | .chTitle => s (chapter.bind (·.chapterTitle))
  | .chNumber => n (chapter.map fun c => c.chapterNumber)
  | .chNumberPadded => chapter.elim [] fun c => padZeros (digits c.chapterCount) (decimal c.chapterNumber)
  | .ui | .os => []

def evalCond (cond : Cond) (book : BookContext) (chapter : Option ChapterContext) : Bool :=
  match cond with
  | .ifSeries => book.isSeries || book.isPodcastParent
  | .ifPodcast => book.isPodcast || book.isPodcastParent
  | .ifPodcastParent => book.isPodcastParent
  | .ifBookseries => book.isSeries && !book.isPodcast && !book.isPodcastParent
  | .ifAbridged => book.isAbridged
  | cond => F.check cond book chapter

mutual

def evalNode (book : BookContext) (chapter : Option ChapterContext) : Node → List TemplatePart
  | .literal text => if text = [] then [] else [⟨text, true⟩]
  | .property tag format => [⟨F.evalDisplay tag format book chapter, false⟩]
  | .conditional not cond children => if F.evalCond cond book chapter != not then evalNodes book chapter children else []

def evalNodes (book : BookContext) (chapter : Option ChapterContext) : List Node → List TemplatePart
  | [] => []
  | node :: nodes => evalNode book chapter node ++ evalNodes book chapter nodes

end

def evaluateParts (template : Str) (book : BookContext) (chapter : Option ChapterContext) : List TemplatePart :=
  F.evalNodes book chapter (parseTemplate template)

end Formatters

end Bookclerk.Naming
