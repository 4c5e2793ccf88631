import Phrasebook.Locale
import Phrasebook.Number.Numeral

namespace Phrasebook

/-!
# Language negotiation

A reader states the languages it prefers as a list of ranges with qualities, `fr-CA, fr;q=0.9`.

* `LanguageRange.ofEntry?`: one entry of the list, if it counts.
* `languageRanges`: the ranges that count, the most preferred first.
* `preferred?`: the locale of the most preferred range that names one.
-/

/-- A range of languages, and its quality, a positive number. -/
structure LanguageRange where
  range : String
  quality : Number.Double
  isFinite : quality.isFinite = true
  positive : ¬ quality ≤ .zero
  deriving DecidableEq

/-- The range that stands for every language. -/
def anyLanguage : List Char := ['*']

/-- The name of the parameter that states a quality. -/
def qualityName : List Char := ['q']

/-- The quality that a parameter states; none where it states something else. -/
def statedQuality? (param : List Char) : Option Number.Double :=
  match param.splitOnP (· == '=') with
  | [] => none
  | name :: values =>
    if Text.lower (Text.trim name) = qualityName then
      some ((values.head?.map Number.Double.ofText).getD .nan)
    else none

/-- The quality that the last of the parameters that state one states; one if there is none. -/
def qualityOf (params : List (List Char)) : Number.Double :=
  ((params.filterMap statedQuality?).getLast?).getD (.ofInt 1)

namespace LanguageRange

/-- One entry of a list of ranges; none where it has no range of its own or no positive quality. -/
def ofEntry? (entry : List Char) : Option LanguageRange :=
  match entry.splitOnP (· == ';') with
  | [] => none
  | name :: params =>
    let range := Text.trim name
    let quality := qualityOf params
    if range.isEmpty || range == anyLanguage then none
    else if h : quality.isFinite = true ∧ ¬ quality ≤ .zero then
      some ⟨String.ofList range, quality, h.1, h.2⟩
    else none

/-- The entries of a list of ranges that count, in the order in which they stand. -/
def ofHeader (header : String) : List LanguageRange :=
  (header.toList.splitOnP (· == ',')).filterMap ofEntry?

/-- How much more the quality of the other range is. -/
def excess (a b : LanguageRange) : Number.Double :=
  b.quality.sub a.quality

/-- Whether one range may stand before another: the other's quality exceeds its own by nothing. -/
def before (a b : LanguageRange) : Bool :=
  decide (a.excess b ≤ .zero)

/-- The locale that a range names: its own, or that of its first part. -/
def locale? (range : String) : Option Locale :=
  (Locale.ofTag? range).or
    (Locale.ofTag? (String.ofList (range.toList.takeWhile fun c => !Locale.isTagSeparator c)))

end LanguageRange

/-- The ranges that count, the most preferred first, and equally preferred ones as they stand. -/
def languageRanges (header : String) : List String :=
  ((LanguageRange.ofHeader header).mergeSort LanguageRange.before).map LanguageRange.range

/-- The locale of the most preferred range that names one. -/
def preferred? (header : String) : Option Locale :=
  (languageRanges header).findSome? LanguageRange.locale?

end Phrasebook
