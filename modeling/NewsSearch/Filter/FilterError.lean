/-!
# Why a filter set is refused

Every rule a filter set can break. All of them are found before anything is sent.
-/

namespace NewsSearch

/-- The two tone filters. -/
inductive ToneField
  | signed
  | absolute
deriving DecidableEq, Repr

def ToneField.name : ToneField → String
  | .signed => "tone"
  | .absolute => "tone_absolute"

inductive FilterError
  | noTimeWindow
  | ambiguousTimeWindow
  | incompleteDateRange
  | toneWithoutComparator (field : ToneField) (value : String)
  | toneWithEquals (field : ToneField) (value : String)
  | timespanUnparseable (timespan : String)
  | timespanUnit (timespan : String) (unit : String)
  | timespanTooShort (timespan : String)
  | tooManyRecords (count : UInt32)
  | unsupportedDate (date : String)
  | unsupportedMode (name : String)
deriving DecidableEq, Repr

def FilterError.message : FilterError → String
  | .noTimeWindow => "Must provide either start_date and end_date, or timespan"
  | .ambiguousTimeWindow => "Can only provide either start_date and end_date, or timespan"
  | .incompleteDateRange => "Must provide both start_date and end_date"
  | .toneWithoutComparator field value =>
    s!"{field.name} must contain either greater than or less than: '{value}'"
  | .toneWithEquals field value => s!"{field.name} cannot contain '=': '{value}'"
  | .timespanUnparseable t => s!"Timespan {t} is invalid. Could not parse value and unit."
  | .timespanUnit t unit => s!"Timespan {t} is invalid. {unit} is not a supported unit."
  | .timespanTooShort t => s!"Timespan {t} is invalid. Period must be at least 60 minutes"
  | .tooManyRecords count => s!"max_records must be 250 or less, got {count}"
  | .unsupportedDate date => s!"Unsupported date format: {date}"
  | .unsupportedMode name => s!"Mode {name} not in supported API modes"

end NewsSearch
