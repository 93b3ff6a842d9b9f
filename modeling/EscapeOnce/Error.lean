import EscapeOnce.Numeral
import EscapeOnce.Text.Quoted

/-!
# Errors

A `FormatError` is what can go wrong with a template, a specifier or a field; a `MarkupError` is
what can go wrong with any operation, a format error included.  Both name causes.  The words for a
cause are in one place, its `message`.
-/

namespace EscapeOnce

/-- Why a format specifier, or a field around it, is refused. -/
inductive SpecifierFault where
  /-- The specifier is outside the grammar. -/
  | malformed (specifier : Text)
  /-- A width or precision above the limit, in the text that holds it. -/
  | tooManyDigits (written : Text)
  /-- A field inside a field. -/
  | nestedField
  /-- A field that ends where its conversion should stand. -/
  | missingConversion
  /-- Something other than a colon behind the conversion. -/
  | missingColon
  /-- An attribute access without a name. -/
  | emptyAttribute
  /-- An index access that is not closed. -/
  | unclosedIndex
  /-- An index access without a key. -/
  | emptyIndex
  /-- Something behind an index access that is no access. -/
  | strayAccess
  /-- A width or precision taken from an argument. -/
  | widthFromArgument
  /-- A sign for a text. -/
  | signOnText
  /-- Base marker, grouping or padding after the sign for a text. -/
  | numericOptionOnText
  /-- A precision for an integer, in a field. -/
  | precisionOnInteger
  /-- A precision for an integer, in a directive. -/
  | precisionOnDirective
  /-- Grouping for a base other than ten, or for a character. -/
  | groupingOnBase
  /-- Text layout for a number. -/
  | textOnNumber
  /-- A number that is the code of no character. -/
  | characterOutOfRange
  /-- A number without an integer part in range. -/
  | notAnInteger
  deriving DecidableEq

/-- The words for a specifier fault. -/
def SpecifierFault.message : SpecifierFault → Text
  | malformed specifier => specifier
  | tooManyDigits written => "too many digits in ".toList ++ written.quoted
  | nestedField => "nested replacement fields are not supported".toList
  | missingConversion => "end of string while expecting conversion specifier".toList
  | missingColon => "expected ':' after conversion specifier".toList
  | emptyAttribute => "empty attribute in format string".toList
  | unclosedIndex => "missing ']' in format string".toList
  | emptyIndex => "empty index in format string".toList
  | strayAccess => "only '.' or '[' may follow ']' in format field specifier".toList
  | widthFromArgument => "'*' width is not supported".toList
  | signOnText => "sign not allowed in string format specifier".toList
  | numericOptionOnText => "numeric option used with a string value".toList
  | precisionOnInteger => "precision not allowed in integer format specifier".toList
  | precisionOnDirective => "precision is not supported for integer directives".toList
  | groupingOnBase => "cannot specify ',' with this type".toList
  | textOnNumber => "unknown format code 's' for a number".toList
  | characterOutOfRange => "%c arg not in range".toList
  | notAnInteger => "cannot convert float to integer".toList

/-- What can go wrong when a template is filled in. -/
inductive FormatError where
  | notEnoughArguments
  | tooManyArguments
  | indexOutOfRange (index : Nat)
  | missingKey (key : Text)
  | notAMapping
  | mixedNumbering
  | unmatchedBrace (brace : Char)
  | incomplete
  | badSpecifier (fault : SpecifierFault)
  | unsupportedConversion (letter : Char)
  | typeMismatch (letter : Char) (found : Text)
  | noField (typeName key : Text)
  /-- More places than a numeral is written with.  The number is not refused: whoever writes it
  stops the program. -/
  | tooManyPlaces
  deriving DecidableEq

/-- The words for a format error. -/
def FormatError.message : FormatError → Text
  | notEnoughArguments => "not enough arguments for format string".toList
  | tooManyArguments => "not all arguments converted during formatting".toList
  | indexOutOfRange index =>
    "replacement index ".toList ++ Numeral.decimal index
      ++ " out of range for positional args".toList
  | missingKey key => "missing key '".toList ++ key ++ "'".toList
  | notAMapping => "format requires a mapping".toList
  | mixedNumbering => "cannot switch between automatic and manual field numbering".toList
  | unmatchedBrace brace => "single '".toList ++ [brace] ++ "' encountered in format string".toList
  | incomplete => "incomplete format".toList
  | badSpecifier fault => "invalid format specifier '".toList ++ fault.message ++ "'".toList
  | unsupportedConversion letter => "unsupported format character '".toList ++ [letter, '\x27']
  | typeMismatch letter found =>
    "format '".toList ++ [letter] ++ "' requires a number, not ".toList ++ found
  | noField typeName key => typeName ++ " has no field '".toList ++ key ++ "'".toList
  | tooManyPlaces => "Formatting argument out of range".toList

/-- What an operation needed and did not get. -/
inductive Expectation where
  | rawText
  | text
  | joinElement
  | startProbe
  | endProbe
  | pattern
  | replacement
  | character
  deriving DecidableEq

/-- The words for an expectation. -/
def Expectation.message : Expectation → Text
  | rawText => "str".toList
  | text => "text".toList
  | joinElement => "str or SafeText join element".toList
  | startProbe => "str or SafeText prefix".toList
  | endProbe => "str or SafeText suffix".toList
  | pattern => "str or SafeText pattern".toList
  | replacement => "str or SafeText replacement".toList
  | character => "int or single character".toList

/-- Why an argument is refused. -/
inductive ArgumentFault where
  /-- A null where text for a URL is needed, and nothing to use in its place. -/
  | nullWithoutFallback
  /-- The name of no output mode. -/
  | unknownMode (name : Text)
  /-- Positional and named arguments where only one kind is possible. -/
  | mixedArguments
  deriving DecidableEq

/-- The words for an argument fault. -/
def ArgumentFault.message : ArgumentFault → Text
  | nullWithoutFallback => "value is null and no fallback supplied".toList
  | unknownMode name =>
    "unknown output mode '".toList ++ name ++ "' (expected html or plain)".toList
  | mixedArguments => "percent style takes positional or named arguments, not both".toList

/-- What can go wrong with an operation on values and safe texts. -/
inductive MarkupError where
  /-- An operand of the wrong kind. -/
  | inputType (expected : Expectation) (found : Text)
  /-- A value's own conversion to text failed, in its own words. -/
  | conversion (report : Text)
  /-- A template could not be filled in. -/
  | format (error : FormatError)
  /-- A concatenation of operands of which neither is safe. -/
  | unsupported (left right : Text)
  /-- An argument out of its domain. -/
  | invalidArgument (fault : ArgumentFault)
  deriving DecidableEq

/-- The words for a markup error. -/
def MarkupError.message : MarkupError → Text
  | inputType expected found =>
    expected.message ++ " required (got ".toList ++ found ++ ")".toList
  | conversion report => "Conversion error: ".toList ++ report
  | format error => "Format error: ".toList ++ error.message
  | unsupported left right =>
    "unsupported operand types for +: '".toList ++ left ++ "' and '".toList ++ right ++ "'".toList
  | invalidArgument fault => "Invalid argument: ".toList ++ fault.message

/-- A format error as the failure of an operation. -/
def MarkupError.ofFormat {α : Type} (result : Except FormatError α) : Except MarkupError α :=
  result.mapError .format

end EscapeOnce
